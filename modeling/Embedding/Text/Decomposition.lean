import Embedding.Text.Letters

namespace Embedding

structure DecompositionRun where
  first : Nat
  count : Nat
  moves : Bool
  targets : List Nat
deriving Inhabited

namespace DecompositionRun

def ofNumbers (start : Nat) : Nat → List Nat → List DecompositionRun
  | 0, _ => []
  | fuel + 1, gap :: extent :: size :: rest =>
    let first := start + gap
    let count := extent / 2 + 1
    ⟨first, count, extent % 2 == 1, rest.take size⟩ :: ofNumbers (first + count) fuel (rest.drop size)
  | _, _ => []

def table (ns : List Nat) : Array DecompositionRun := (ofNumbers 0 ns.length ns).toArray

def find? (runs : Array DecompositionRun) (n : Nat) : Option (List Nat) := go runs.size 0 runs.size
where
  go : Nat → Nat → Nat → Option (List Nat)
    | 0, _, _ => none
    | fuel + 1, lo, hi =>
      if hi ≤ lo then none
      else
        let mid := (lo + hi) / 2
        match runs[mid]? with
        | none => none
        | some r =>
          if n < r.first then go fuel lo mid
          else if r.first + r.count ≤ n then go fuel (mid + 1) hi
          else
            match r.targets with
            | t :: rest => some ((if r.moves then t + (n - r.first) else t) :: rest)
            | [] => none

end DecompositionRun

/-- Classes other than zero: first character, last character and class of each run. -/
def classRuns (start : Nat) : List Nat → List (Nat × Nat × Nat)
  | gap :: extra :: k :: rest => (start + gap, start + gap + extra, k) :: classRuns (start + gap + extra + 1) rest
  | _ => []

def sums (start : Nat) : List Nat → List Nat
  | [] => []
  | n :: rest => (start + n) :: sums (start + n) rest

def canonicalRuns : Array DecompositionRun := DecompositionRun.table (CharacterRuns.numbers (
  "5c 0 2 1t lc 0 0 2 1t ld 0 0 2 1t le 0 0 2 1t lf 0 0 2 1t lk 0 0 2 1t lm 1 0 2 1v mf 0 0 2 1x lc 0 0 2 " ++
  "1x ld 0 0 2 1x le 0 0 2 1x lk 0 0 2 21 lc 0 0 2 21 ld 0 0 2 21 le 0 0 2 21 lk 1 0 2 26 lf 0 0 2 27 lc 0 " ++
  "0 2 27 ld 0 0 2 27 le 0 0 2 27 lf 0 0 2 27 lk 2 0 2 2d lc 0 0 2 2d ld 0 0 2 2d le 0 0 2 2d lk 0 0 2 2h " ++
  "ld 2 0 2 2p lc 0 0 2 2p ld 0 0 2 2p le 0 0 2 2p lf 0 0 2 2p lk 0 0 2 2p lm 1 0 2 2r mf 0 0 2 2t lc 0 0 " ++
  "2 2t ld 0 0 2 2t le 0 0 2 2t lk 0 0 2 2x lc 0 0 2 2x ld 0 0 2 2x le 0 0 2 2x lk 1 0 2 32 lf 0 0 2 33 lc " ++
  "0 0 2 33 ld 0 0 2 33 le 0 0 2 33 lf 0 0 2 33 lk 2 0 2 39 lc 0 0 2 39 ld 0 0 2 39 le 0 0 2 39 lk 0 0 2 " ++
  "3d ld 1 0 2 3d lk 0 0 2 1t lg 0 0 2 2p lg 0 0 2 1t li 0 0 2 2p li 0 0 2 1t mg 0 0 2 2p mg 0 0 2 1v ld 0 " ++
  "0 2 2r ld 0 0 2 1v le 0 0 2 2r le 0 0 2 1v lj 0 0 2 2r lj 0 0 2 1v lo 0 0 2 2r lo 0 0 2 1w lo 0 0 2 2s " ++
  "lo 2 0 2 1x lg 0 0 2 2t lg 0 0 2 1x li 0 0 2 2t li 0 0 2 1x lj 0 0 2 2t lj 0 0 2 1x mg 0 0 2 2t mg 0 0 " ++
  "2 1x lo 0 0 2 2t lo 0 0 2 1z le 0 0 2 2v le 0 0 2 1z li 0 0 2 2v li 0 0 2 1z lj 0 0 2 2v lj 0 0 2 1z mf " ++
  "0 0 2 2v mf 0 0 2 20 le 0 0 2 2w le 2 0 2 21 lf 0 0 2 2x lf 0 0 2 21 lg 0 0 2 2x lg 0 0 2 21 li 0 0 2 " ++
  "2x li 0 0 2 21 mg 0 0 2 2x mg 0 0 2 21 lj 3 0 2 22 le 0 0 2 2y le 0 0 2 23 mf 0 0 2 2z mf 1 0 2 24 ld 0 " ++
  "0 2 30 ld 0 0 2 24 mf 0 0 2 30 mf 0 0 2 24 lo 0 0 2 30 lo 4 0 2 26 ld 0 0 2 32 ld 0 0 2 26 mf 0 0 2 32 " ++
  "mf 0 0 2 26 lo 0 0 2 32 lo 3 0 2 27 lg 0 0 2 33 lg 0 0 2 27 li 0 0 2 33 li 0 0 2 27 ln 0 0 2 33 ln 2 0 " ++
  "2 2a ld 0 0 2 36 ld 0 0 2 2a mf 0 0 2 36 mf 0 0 2 2a lo 0 0 2 36 lo 0 0 2 2b ld 0 0 2 37 ld 0 0 2 2b le " ++
  "0 0 2 37 le 0 0 2 2b mf 0 0 2 37 mf 0 0 2 2b lo 0 0 2 37 lo 0 0 2 2c mf 0 0 2 38 mf 0 0 2 2c lo 0 0 2 " ++
  "38 lo 2 0 2 2d lf 0 0 2 39 lf 0 0 2 2d lg 0 0 2 39 lg 0 0 2 2d li 0 0 2 39 li 0 0 2 2d lm 0 0 2 39 lm 0 " ++
  "0 2 2d ln 0 0 2 39 ln 0 0 2 2d mg 0 0 2 39 mg 0 0 2 2f le 0 0 2 3b le 0 0 2 2h le 0 0 2 3d le 0 0 2 2h " ++
  "lk 0 0 2 2i ld 0 0 2 3e ld 0 0 2 2i lj 0 0 2 3e lj 0 0 2 2i lo 0 0 2 3e lo x 0 2 27 m3 0 0 2 33 m3 d 0 " ++
  "2 2d m3 0 0 2 39 m3 s 0 2 1t lo 0 0 2 2p lo 0 0 2 21 lo 0 0 2 2x lo 0 0 2 27 lo 0 0 2 33 lo 0 0 2 2d lo " ++
  "0 0 2 39 lo 0 0 2 64 lg 0 0 2 70 lg 0 0 2 64 ld 0 0 2 70 ld 0 0 2 64 lo 0 0 2 70 lo 0 0 2 64 lc 0 0 2 " ++
  "70 lc 1 0 2 5g lg 0 0 2 6c lg 0 3 2 fa lg 0 0 2 5i lg 0 0 2 6e lg 2 0 2 1z lo 0 0 2 2v lo 0 0 2 23 lo 0 " ++
  "0 2 2z lo 0 0 2 27 mg 0 0 2 33 mg 0 3 2 dm lg 0 0 2 c7 lo 0 0 2 ia lo 0 0 2 2y lo 3 0 2 1z ld 0 0 2 2v " ++
  "ld 2 0 2 26 lc 0 0 2 32 lc 0 0 2 5h ld 0 0 2 6d ld 0 0 2 5i ld 0 0 2 6e ld 0 0 2 60 ld 0 0 2 6w ld 0 0 " ++
  "2 1t lr 0 0 2 2p lr 0 0 2 1t lt 0 0 2 2p lt 0 0 2 1x lr 0 0 2 2t lr 0 0 2 1x lt 0 0 2 2t lt 0 0 2 21 lr " ++
  "0 0 2 2x lr 0 0 2 21 lt 0 0 2 2x lt 0 0 2 27 lr 0 0 2 33 lr 0 0 2 27 lt 0 0 2 33 lt 0 0 2 2a lr 0 0 2 " ++
  "36 lr 0 0 2 2a lt 0 0 2 36 lt 0 0 2 2d lr 0 0 2 39 lr 0 0 2 2d lt 0 0 2 39 lt 0 0 2 2b me 0 0 2 37 me 0 " ++
  "0 2 2c me 0 0 2 38 me 2 0 2 20 lo 0 0 2 2w lo 6 0 2 1t lj 0 0 2 2p lj 0 0 2 1x mf 0 0 2 2t mf 0 0 2 5y " ++
  "lg 0 0 2 6u lg 0 0 2 5x lg 0 0 2 6t lg 0 0 2 27 lj 0 0 2 33 lj 0 3 2 fi lg 0 0 2 2h lg 0 0 2 3d lg 7g 3 " ++
  "1 lc 1 0 1 lv 0 0 2 lk ld 1b 0 1 jd 9 0 1 1n 6 0 2 4o ld 0 0 2 pd ld 0 0 1 53 0 0 2 ph ld 0 0 2 pj ld 0 " ++
  "0 2 pl ld 1 0 2 pr ld 1 0 2 px ld 0 0 2 q1 ld 0 0 2 qy ld p 0 2 pl lk 0 0 2 px lk 0 0 2 q9 ld 0 0 2 qd " ++
  "ld 0 0 2 qf ld 0 0 2 qh ld 0 0 2 qz ld p 0 2 qh lk 0 0 2 qt lk 0 0 2 qn ld 0 0 2 qt ld 0 0 2 qx ld 4 0 " ++
  "2 r6 ld 0 0 2 r6 lk 17 0 2 t1 lc 0 0 2 t1 lk 1 0 2 sz ld 3 0 2 sm lk 4 0 2 t6 ld 0 0 2 t4 lc 0 0 2 tf " ++
  "li a 0 2 t4 li v 0 2 u0 li m 0 2 tx lc 0 0 2 tx lk 1 0 2 tv ld 3 0 2 uu lk 4 0 2 u2 ld 0 0 2 u0 lc 0 0 " ++
  "2 ub li n 3 2 vo lr 21 0 2 t2 li 0 0 2 ty li d 0 2 sw li 0 0 2 ts li 0 0 2 sw lk 0 0 2 ts lk 2 0 2 t1 " ++
  "li 0 0 2 tx li 2 3 2 yg lk 0 0 2 t2 lk 0 0 2 ty lk 0 0 2 t3 lk 0 0 2 tz lk 2 0 2 t4 lg 0 0 2 u0 lg 0 0 " ++
  "2 t4 lk 0 0 2 u0 lk 0 0 2 ta lk 0 0 2 u6 lk 2 3 2 yw lk 0 0 2 tp lk 0 0 2 ul lk 0 0 2 tf lg 0 0 2 ub lg " ++
  "0 0 2 tf lk 0 0 2 ub lk 0 0 2 tf ln 0 0 2 ub ln 0 0 2 tj lk 0 0 2 uf lk 2 0 2 tn lk 0 0 2 uj lk 88 0 2 " ++
  "17r 18z 0 0 2 17r 190 0 0 2 18o 190 0 0 2 17r 191 0 0 2 18q 190 49 0 2 1cl 190 1 0 2 1c1 190 g 0 2 1ci " ++
  "190 gl 0 2 1t4 1to 7 0 2 1tc 1to 2 0 2 1tf 1to z 5 2 1sl 1to 0 0 2 1ss 1to 0 3 2 1sx 1to 0 0 2 1t7 1to " ++
  "0 0 2 1tb 1to 2z 0 2 1xj 1xa 0 0 2 1xj 1xz f 3 2 1wh 1x8 1 0 2 1wv 1x8 2b 0 2 20i 20s 2 0 2 20o 20s y 3 " ++
  "2 1zq 20s 0 0 2 1zw 20s 2 0 2 20b 20s 6h 0 2 287 28m 2 0 2 287 27y 0 0 2 287 28n f 3 2 275 27w 1i 0 2 " ++
  "2aa 2c7 1h 3 2 2bq 2bi 0 0 2 2bq 2c7 3f 0 2 2fa 2fq 3b 0 2 2in 2j9 6 0 2 2iu 2j9 0 0 2 2iu 2ja 1 0 2 " ++
  "2iu 2iq 0 0 2 2iy 2j9 3i 3 2 2me 2m6 0 0 2 2me 2mv 3x 0 2 2qh 2q2 1 0 2 2qh 2q7 0 0 2 2qk 2q2 0 0 2 2qh " ++
  "2qn 9w 0 2 30i 33r 9 0 2 30s 33r 4 0 2 30x 33r 4 0 2 312 33r 4 0 2 317 33r c 0 2 30g 33p 9 0 2 31t 31u " ++
  "1 0 2 31t 31w 0 0 2 33m 328 1 0 2 33n 328 8 0 2 31t 328 h 0 2 32q 33r 9 0 2 330 33r 4 0 2 335 33r 4 0 2 " ++
  "33a 33r 4 0 2 33f 33r c 0 2 32o 33p 30 0 2 36t 372 25b 0 2 5c5 5dh 1 0 2 5c7 5dh 1 0 2 5c9 5dh 1 0 2 " ++
  "5cb 5dh 1 0 2 5cd 5dh 3 0 2 5ch 5dh 14 0 2 5dm 5dh 1 0 2 5do 5dh 2 3 2 5dq 5dh 1 0 2 5du 5dh jg 0 2 1t " ++
  "md 0 0 2 2p md 0 0 2 1u lj 0 0 2 2q lj 0 0 2 1u mb 0 0 2 2q mb 0 0 2 1u mp 0 0 2 2q mp 0 0 2 5j ld 0 0 " ++
  "2 6f ld 0 0 2 1w lj 0 0 2 2s lj 0 0 2 1w mb 0 0 2 2s mb 0 0 2 1w mp 0 0 2 2s mp 0 0 2 1w mf 0 0 2 2s mf " ++
  "0 0 2 1w ml 0 0 2 2s ml 0 3 2 7m lc 0 3 2 7m ld 0 0 2 1x ml 0 0 2 2t ml 0 0 2 1x mo 0 0 2 2t mo 0 3 2 " ++
  "fc li 0 0 2 1y lj 0 0 2 2u lj 0 0 2 1z lg 0 0 2 2v lg 0 0 2 20 lj 0 0 2 2w lj 0 0 2 20 mb 0 0 2 2w mb 0 " ++
  "0 2 20 lk 0 0 2 2w lk 0 0 2 20 mf 0 0 2 2w mf 0 0 2 20 mm 0 0 2 2w mm 0 0 2 21 mo 0 0 2 2x mo 0 0 2 5r " ++
  "ld 0 0 2 6n ld 0 0 2 23 ld 0 0 2 2z ld 0 0 2 23 mb 0 0 2 2z mb 0 0 2 23 mp 0 0 2 2z mp 0 0 2 24 mb 0 0 " ++
  "2 30 mb 0 3 2 5yu lg 0 0 2 24 mp 0 0 2 30 mp 0 0 2 24 ml 0 0 2 30 ml 0 0 2 25 ld 0 0 2 31 ld 0 0 2 25 " ++
  "lj 0 0 2 31 lj 0 0 2 25 mb 0 0 2 31 mb 0 0 2 26 lj 0 0 2 32 lj 0 0 2 26 mb 0 0 2 32 mb 0 0 2 26 mp 0 0 " ++
  "2 32 mp 0 0 2 26 ml 0 0 2 32 ml 0 0 2 5x ld 0 0 2 6t ld 0 0 2 5x lk 0 0 2 6t lk 0 3 2 98 lc 0 3 2 98 ld " ++
  "0 0 2 28 ld 0 0 2 34 ld 0 0 2 28 lj 0 0 2 34 lj 0 0 2 2a lj 0 0 2 36 lj 0 0 2 2a mb 0 0 2 36 mb 0 3 2 " ++
  "5zu lg 0 0 2 2a mp 0 0 2 36 mp 0 0 2 2b lj 0 0 2 37 lj 0 0 2 2b mb 0 0 2 37 mb 0 3 2 9m lj 0 3 2 9s lj " ++
  "0 3 2 602 lj 0 0 2 2c lj 0 0 2 38 lj 0 0 2 2c mb 0 0 2 38 mb 0 0 2 2c mp 0 0 2 38 mp 0 0 2 2c ml 0 0 2 " ++
  "38 ml 0 0 2 2d mc 0 0 2 39 mc 0 0 2 2d mo 0 0 2 39 mo 0 0 2 2d ml 0 0 2 39 ml 0 3 2 a0 ld 0 3 2 a2 lk 0 " ++
  "0 2 2e lf 0 0 2 3a lf 0 0 2 2e mb 0 0 2 3a mb 0 0 2 2f lc 0 0 2 3b lc 0 0 2 2f ld 0 0 2 3b ld 0 0 2 2f " ++
  "lk 0 0 2 3b lk 0 0 2 2f lj 0 0 2 3b lj 0 0 2 2f mb 0 0 2 3b mb 0 0 2 2g lj 0 0 2 3c lj 0 0 2 2g lk 0 0 " ++
  "2 3c lk 0 0 2 2h lj 0 0 2 3d lj 0 0 2 2i le 0 0 2 3e le 0 0 2 2i mb 0 0 2 3e mb 0 0 2 2i mp 0 0 2 3e mp " ++
  "0 0 2 2w mp 0 0 2 38 lk 0 0 2 3b lm 0 0 2 3d lm 1 0 2 an lj 4 0 2 1t mb 0 0 2 2p mb 0 0 2 1t ll 0 0 2 " ++
  "2p ll 0 0 2 5e ld 0 0 2 6a ld 0 0 2 5e lc 0 0 2 6a lc 0 0 2 5e ll 0 0 2 6a ll 0 0 2 5e lf 0 0 2 6a lf 0 " ++
  "3 2 61s le 0 3 2 76 ld 0 3 2 76 lc 0 3 2 76 ll 0 3 2 76 lf 0 3 2 61s li 0 0 2 1x mb 0 0 2 2t mb 0 0 2 " ++
  "1x ll 0 0 2 2t ll 0 0 2 1x lf 0 0 2 2t lf 0 0 2 5m ld 0 0 2 6i ld 0 0 2 5m lc 0 0 2 6i lc 0 0 2 5m ll 0 " ++
  "0 2 6i ll 0 0 2 5m lf 0 0 2 6i lf 0 3 2 62g le 0 0 2 21 ll 0 0 2 2x ll 0 0 2 21 mb 0 0 2 2x mb 0 0 2 27 " ++
  "mb 0 0 2 33 mb 0 0 2 27 ll 0 0 2 33 ll 0 0 2 5w ld 0 0 2 6s ld 0 0 2 5w lc 0 0 2 6s lc 0 0 2 5w ll 0 0 " ++
  "2 6s ll 0 0 2 5w lf 0 0 2 6s lf 0 3 2 630 le 0 3 2 bk ld 0 3 2 bk lc 0 3 2 bk ll 0 3 2 bk lf 0 3 2 bk " ++
  "mb 0 0 2 2d mb 0 0 2 39 mb 0 0 2 2d ll 0 0 2 39 ll 0 3 2 bz ld 0 3 2 bz lc 0 3 2 bz ll 0 3 2 bz lf 0 3 " ++
  "2 bz mb 0 0 2 2h lc 0 0 2 3d lc 0 0 2 2h mb 0 0 2 3d mb 0 0 2 2h ll 0 0 2 3d ll 0 0 2 2h lf 0 0 2 3d lf " ++
  "6 0 2 q9 lv 0 0 2 q9 lw 0 3 2 64g lc 0 3 2 64g ld 0 3 2 64g n6 0 0 2 pd lv 0 0 2 pd lw 0 3 2 64o lc 0 3 " ++
  "2 64o ld 0 3 2 64o n6 0 0 2 qd lv 0 0 2 qd lw 0 3 2 64w lc 0 3 2 64w ld 2 0 2 ph lv 0 0 2 ph lw 0 3 2 " ++
  "654 lc 0 3 2 654 ld 2 0 2 qf lv 0 0 2 qf lw 0 3 2 65c lc 0 3 2 65c ld 0 3 2 65c n6 0 0 2 pj lv 0 0 2 pj " ++
  "lw 0 3 2 65k lc 0 3 2 65k ld 0 3 2 65k n6 0 0 2 qh lv 0 0 2 qh lw 0 3 2 65s lc 0 3 2 65s ld 0 3 2 65s " ++
  "n6 0 0 2 pl lv 0 0 2 pl lw 0 3 2 660 lc 0 3 2 660 ld 0 3 2 660 n6 0 0 2 qn lv 0 0 2 qn lw 0 3 2 668 lc " ++
  "0 3 2 668 ld 2 0 2 pr lv 0 0 2 pr lw 0 3 2 66g lc 0 3 2 66g ld 2 0 2 qt lv 0 0 2 qt lw 0 3 2 66o lc 0 3 " ++
  "2 66o ld 0 3 2 66o n6 1 0 2 px lw 1 0 2 66x lc 1 0 2 66x ld 1 0 2 66x n6 0 0 2 qx lv 0 0 2 qx lw 0 3 2 " ++
  "674 lc 0 3 2 674 ld 0 3 2 674 n6 0 0 2 q1 lv 0 0 2 q1 lw 0 3 2 67c lc 0 3 2 67c ld 0 3 2 67c n6 0 0 2 " ++
  "q9 lc 0 0 1 q4 0 0 2 qd lc 0 0 1 q5 0 0 2 qf lc 0 0 1 q6 0 0 2 qh lc 0 0 1 q7 0 0 2 qn lc 0 0 1 r0 0 0 " ++
  "2 qt lc 0 0 1 r1 0 0 2 qx lc 0 0 1 r2 2 v 2 64g n9 0 v 2 65c n9 0 v 2 674 n9 0 0 2 q9 li 0 0 2 q9 lg 0 " ++
  "0 2 67k n9 0 0 2 q9 n9 0 0 2 q4 n9 1 0 2 q9 n6 0 0 2 69i n9 0 0 2 pd li 0 0 2 pd lg 0 0 2 pd lc 0 0 1 " ++
  "p2 0 0 2 pd n9 1 0 1 qh 2 0 2 4o n6 0 0 2 67o n9 0 0 2 qf n9 0 0 2 q6 n9 1 0 2 qf n6 0 0 2 69y n9 0 0 2 " ++
  "ph lc 0 0 1 p4 0 0 2 pj lc 0 0 1 p5 0 0 2 pj n9 0 0 2 69r lc 0 0 2 69r ld 0 0 2 69r n6 0 0 2 qh li 0 0 " ++
  "2 qh lg 0 0 2 qy lc 0 0 1 pc 2 0 2 qh n6 0 0 2 qy n6 0 0 2 pl li 0 0 2 pl lg 0 0 2 pl lc 0 0 1 p6 1 0 2 " ++
  "6bi lc 0 0 2 6bi ld 0 0 2 6bi n6 0 0 2 qt li 0 0 2 qt lg 0 0 2 qz lc 0 0 1 q8 0 0 2 qp lv 0 0 2 qp lw 0 " ++
  "0 2 qt n6 0 0 2 qz n6 0 0 2 px li 0 0 2 px lg 0 0 2 px lc 0 0 1 pa 0 0 2 pt lw 0 0 2 4o lc 0 0 1 p1 0 0 " ++
  "1 2o 2 0 2 67w n9 0 0 2 qx n9 0 0 2 r2 n9 1 0 2 qx n6 0 0 2 6ba n9 0 0 2 pr lc 0 0 1 p8 0 0 2 q1 lc 0 0 " ++
  "1 pb 0 0 2 q1 n9 0 0 1 50 2 3 1 6bm 84 0 1 q1 3 0 1 23 0 0 1 5h 32 0 2 6mo mw 0 0 2 6mq mw i 0 2 6ms mw " ++
  "u 0 2 6og mw 0 0 2 6ok mw 0 0 2 6oi mw 1g 0 2 6pv mw 4 0 2 6q0 mw 2 0 2 6q3 mw n 0 2 6qr mw 1 0 2 6qt " ++
  "mw q 0 2 6rg mw 2 0 2 6rn mw 2 0 2 6rp mw 1 0 2 6rs mw m 0 2 1p mw 1 0 2 6sh mw a 0 2 6rx mw 0 0 2 1o " ++
  "mw 0 0 2 1q mw 0 3 2 6sk mw 2 3 2 6sy mw 2 3 2 6t2 mw 6 3 2 6t6 mw 2 3 2 6te mw 2 3 2 6ti mw y 0 2 6ua " ++
  "mw 0 3 2 6ug mw 0 0 2 6uj mw 1c 3 2 6t8 mw 0 3 2 6tt mw 6 7 2 6uq mw 1n 3 1 9hk 1ip 0 2 8gt mw 12n 0 2 " ++
  "9jf 9ll 1 0 2 9jh 9ll 1 0 2 9jj 9ll 1 0 2 9jl 9ll 1 0 2 9jn 9ll 1 0 2 9jp 9ll 1 0 2 9jr 9ll 1 0 2 9jt " ++
  "9ll 1 0 2 9jv 9ll 1 0 2 9jx 9ll 1 0 2 9jz 9ll 1 0 2 9k1 9ll 2 0 2 9k4 9ll 1 0 2 9k6 9ll 1 0 2 9k8 9ll 6 " ++
  "0 2 9kf 9ll 0 0 2 9kf 9lm 1 0 2 9ki 9ll 0 0 2 9ki 9lm 1 0 2 9kl 9ll 0 0 2 9kl 9lm 1 0 2 9ko 9ll 0 0 2 " ++
  "9ko 9lm 1 0 2 9kr 9ll 0 0 2 9kr 9lm m 0 2 9ja 9ll 9 0 2 9lp 9ll d 0 2 9m3 9ll 1 0 2 9m5 9ll 1 0 2 9m7 " ++
  "9ll 1 0 2 9m9 9ll 1 0 2 9mb 9ll 1 0 2 9md 9ll 1 0 2 9mf 9ll 1 0 2 9mh 9ll 1 0 2 9mj 9ll 1 0 2 9ml 9ll 1 " ++
  "0 2 9mn 9ll 1 0 2 9mp 9ll 2 0 2 9ms 9ll 1 0 2 9mu 9ll 1 0 2 9mw 9ll 6 0 2 9n3 9ll 0 0 2 9n3 9lm 1 0 2 " ++
  "9n6 9ll 0 0 2 9n6 9lm 1 0 2 9n9 9ll 0 0 2 9n9 9lm 1 0 2 9nc 9ll 0 0 2 9nc 9lm 1 0 2 9nf 9ll 0 0 2 9nf " ++
  "9lm m 0 2 9ly 9ll 2 7 2 9nz 9ll 3 0 2 9od 9ll 13i9 0 1 rpk 0 0 1 kc4 0 0 1 s7e 0 0 1 rt4 0 0 1 lw1 0 0 " ++
  "1 fg2 0 0 1 gkl 0 2 1 vj0 0 0 1 hn5 0 0 1 ssx 0 0 1 gw7 0 0 1 hmw 0 0 1 jcm 0 0 1 ne1 0 0 1 p6t 0 0 1 " ++
  "qin 0 0 1 qt6 0 0 1 r20 0 0 1 sjz 0 0 1 kxu 0 0 1 ljv 0 0 1 mah 0 0 1 mvy 0 0 1 q4d 0 0 1 sq2 0 0 1 uep " ++
  "0 0 1 fia 0 0 1 ghh 0 0 1 l50 0 0 1 mjf 0 0 1 qi5 0 0 1 v8e 0 0 1 ifk 0 0 1 m3v 0 0 1 qfh 0 0 1 r50 0 0 " ++
  "1 jih 0 0 1 pnc 0 0 1 qvz 0 0 1 iq2 0 0 1 kd3 0 0 1 lm2 0 0 1 mpo 0 0 1 slq 0 0 1 fpi 0 0 1 g53 0 0 1 " ++
  "gda 0 0 1 jwk 0 0 1 l3n 0 0 1 mj4 0 0 1 nhj 0 0 1 pa9 0 0 1 qh2 0 0 1 qjg 0 0 1 s1b 0 0 1 tv6 0 0 1 upb " ++
  "0 0 1 v7e 0 0 1 nt8 0 0 1 nzz 0 0 1 otc 0 0 1 q15 0 0 1 t1g 0 0 1 vb3 0 0 1 rfa 0 0 1 hjz 0 0 1 iro 0 0 " ++
  "1 okg 0 0 1 pdq 0 0 1 mle 0 0 1 nuy 0 0 1 rsy 0 0 1 ttj 0 0 1 hjs 0 0 1 i8y 0 0 1 kyb 0 0 1 lp6 0 0 1 " ++
  "lxr 0 0 1 oq7 0 0 1 oxj 0 0 1 tor 0 0 1 gcy 0 0 1 pe3 0 0 1 g64 0 0 1 g5o 0 0 1 o4c 0 0 1 ou6 0 0 1 q29 " ++
  "0 0 1 tpx 0 0 1 rk0 0 0 1 jin 0 0 1 kxu 0 0 1 rge 0 0 1 fg9 0 0 1 i5j 0 0 1 iz6 0 0 1 mtj 0 0 1 n74 0 0 " ++
  "1 gev 0 0 1 nwb 0 0 1 fr3 0 0 1 iw9 0 0 1 ff1 0 0 1 lho 0 0 1 k1k 0 0 1 opu 0 0 1 gjn 0 0 1 hge 0 0 1 " ++
  "ni9 0 0 1 q4p 0 0 1 re2 0 0 1 la2 0 0 1 sds 0 0 1 lfs 0 0 1 jjy 0 0 1 put 0 0 1 jog 0 0 1 n6t 0 0 1 fji " ++
  "0 0 1 g2x 0 0 1 g5l 0 0 1 kn5 0 0 1 oo7 0 0 1 prj 0 0 1 rf6 0 0 1 ssv 0 0 1 gdx 0 0 1 gn6 0 0 1 ho3 0 0 " ++
  "1 ir0 0 0 1 k3p 0 0 1 m4e 0 0 1 nxm 0 0 1 tkd 0 0 1 ui2 0 0 1 vbr 0 0 1 vda 0 0 1 gbf 0 0 1 kau 0 0 1 " ++
  "l87 0 0 1 sbm 0 0 1 ino 0 0 1 j9s 0 0 1 jcw 0 0 1 jve 0 0 1 lyb 0 0 1 mdl 0 0 1 n0p 0 0 1 o22 0 0 1 ovo " ++
  "0 0 1 pdb 0 0 1 s9y 0 0 1 q9a 0 0 1 sgz 0 0 1 t3e 0 0 1 g7r 0 0 1 gbn 0 0 1 gql 0 0 1 ma0 0 0 1 r0i 0 0 " ++
  "1 re2 0 0 1 iq1 0 0 1 iyd 0 0 1 jnf 0 0 1 l9q 0 0 1 oji 0 0 1 mt1 0 0 1 fl0 0 0 1 h6h 0 0 1 i5j 0 0 1 " ++
  "iii 0 0 1 izg 0 0 1 muq 0 0 1 mzt 0 0 1 p7e 0 0 1 pc6 0 0 1 svo 0 0 1 tti 0 0 1 tvs 0 0 1 u1k 0 0 1 fpn " ++
  "0 0 1 o1a 0 0 1 ss4 0 0 1 trs 0 0 1 j4x 0 0 1 fie 0 0 1 fyy 0 0 1 i5q 0 0 1 i7z 0 0 1 k2h 0 0 1 kxu 0 0 " ++
  "1 mha 0 0 1 ncy 0 0 1 q9o 0 0 1 sjg 0 0 1 vil 0 0 1 k94 0 0 1 tny 0 0 1 gax 0 0 1 kfv 0 0 1 kj7 0 0 1 " ++
  "lkx 0 0 1 luk 0 0 1 mx5 0 0 1 n6h 0 0 1 nsb 0 0 1 opc 0 0 1 u3i 0 0 1 g31 0 0 1 je6 0 0 1 tq0 0 0 1 fu3 " ++
  "0 0 1 ie1 0 0 1 lpm 0 0 1 sa2 0 0 1 ivf 0 0 1 j7o 0 0 1 kk7 0 0 1 mtj 0 0 1 tqe 0 0 1 g89 0 0 1 glr 0 0 " ++
  "1 i91 0 0 1 k5v 0 0 1 kem 0 0 1 ko8 0 0 1 lid 0 0 1 mx2 0 0 1 naa 0 0 1 p6h 0 0 1 r0v 0 0 1 r1d 0 0 1 " ++
  "sss 0 0 1 tsy 0 0 1 gfz 0 0 1 lve 0 0 1 gm5 0 0 1 mhc 0 0 1 n14 0 0 1 qgq 0 0 1 tr7 0 0 1 uvr 0 0 1 vbz " ++
  "0 0 1 kgn 0 0 1 lor 0 0 1 pns 0 0 1 o97 0 0 1 obk 0 0 1 olu 0 0 1 mo0 0 0 1 m8p 0 0 1 riw 0 0 1 fk0 0 0 " ++
  "1 px2 0 0 1 g8q 0 0 1 g7b 0 0 1 ip2 0 0 1 jir 0 0 1 onq 0 0 1 i2t 0 0 1 ljy 0 0 1 kac 0 0 1 saj 0 0 1 " ++
  "qx8 0 0 1 tot 0 0 1 r63 0 0 1 iqb 0 0 1 g1s 0 0 1 gxs 2 0 1 hga 1 0 1 k8k 2 0 1 g66 0 0 1 mqy 0 0 1 ngq " ++
  "0 0 1 ny4 0 0 1 nz2 0 0 1 nz9 0 0 1 o0f 0 0 1 tw6 0 0 1 on2 0 0 1 p8d 1 0 1 qhe 1 0 1 rg8 2 0 1 shk 0 0 " ++
  "1 sn1 3 0 1 u7j 0 0 1 u7w 0 0 1 u94 0 0 1 v5g 0 0 1 sm6 0 0 1 trr 0 0 1 fqm 0 0 1 fzb 0 0 1 g25 0 0 1 " ++
  "gcp 0 0 1 gdg 0 0 1 ggh 0 0 1 gwt 0 0 1 gzq 0 0 1 h2g 0 0 1 hfk 0 0 1 hig 0 0 1 i90 0 0 1 i9a 0 0 1 j2s " ++
  "0 0 1 j8o 0 0 1 j9q 0 0 1 jci 0 0 1 k0f 0 0 1 k4i 0 0 1 k9d 0 0 1 kn9 0 0 1 lmf 0 0 1 lqy 0 0 1 lya 0 0 " ++
  "1 mem 0 0 1 mjv 0 0 1 mxu 0 0 1 ntd 0 0 1 ny6 0 0 1 nyh 0 0 1 nyg 0 0 1 nyo 0 0 1 nyu 0 0 1 nz1 0 3 1 " ++
  "o0d 0 0 1 o5c 0 0 1 o75 0 0 1 og0 0 0 1 ovo 0 0 1 ow9 0 0 1 oxt 0 0 1 p6a 0 0 1 pad 0 0 1 pnx 0 2 1 prt " ++
  "0 0 1 q53 0 0 1 r2o 0 0 1 r6e 0 0 1 rgh 0 0 1 ri1 0 0 1 rtf 0 0 1 ruw 0 0 1 sdy 0 0 1 shk 0 0 1 tsz 0 0 " ++
  "1 u0v 0 0 1 u2j 0 0 1 j1x 0 0 1 36cu 0 0 1 pp4 2 0 1 ffq 0 0 1 g51 0 0 1 g2w 0 0 1 fpc 0 0 1 g1x 0 0 1 " ++
  "g3k 0 0 1 gcn 0 0 1 ge2 0 0 1 gwt 0 0 1 gut 0 0 1 gwp 0 0 1 gyq 0 0 1 hga 0 0 1 hir 0 0 1 hms 0 0 1 hn8 " ++
  "0 0 1 huq 0 0 1 i08 0 0 1 iqa 0 0 1 iqh 0 0 1 iuh 0 0 1 iwd 0 0 1 j4o 0 0 1 j7y 0 0 1 j60 0 0 1 j9q 0 0 " ++
  "1 j8g 0 0 1 jci 0 0 1 jec 0 0 1 jpg 0 0 1 jrw 0 0 1 jte 0 0 1 k0m 0 0 1 k8k 0 0 1 kd3 0 0 1 kd7 0 0 1 " ++
  "keu 0 0 1 l89 0 0 1 la2 0 0 1 lkx 0 0 1 lwb 0 0 1 lvv 0 0 1 lya 0 0 1 m5a 0 0 1 mem 0 0 1 nmv 0 0 1 mk5 " ++
  "0 0 1 mnj 0 0 1 mqy 0 0 1 n01 0 0 1 n46 0 0 1 n5n 0 0 1 nbx 0 0 1 nbz 0 0 1 ngq 0 0 1 nh7 0 0 1 nhw 0 0 " ++
  "1 nka 0 0 1 nk0 0 0 1 nv0 0 0 1 o8h 0 0 1 og0 0 0 1 ol7 0 0 1 orf 0 0 1 ovo 0 0 1 p4u 0 0 1 pad 0 0 1 " ++
  "pxu 0 0 1 q27 0 0 1 qrd 0 0 1 r41 0 0 1 r5y 0 0 1 r6e 0 0 1 ren 0 0 1 rg8 0 0 1 rez 0 0 1 rgh 0 0 1 rge " ++
  "0 0 1 rfx 0 0 1 ri1 0 0 1 rka 0 0 1 ruw 0 0 1 sag 0 0 1 sj6 0 0 1 srd 0 0 1 sxi 0 0 1 tq4 0 0 1 tsz 0 0 " ++
  "1 tw6 0 0 1 tzv 0 0 1 u0v 0 0 1 u17 0 0 1 u2j 0 0 1 umq 0 0 1 vj0 0 0 1 313e 0 0 1 3138 0 0 1 33dh 0 0 " ++
  "1 brx 0 0 1 cns 0 0 1 cop 0 0 1 39e1 0 0 1 3bgw 0 0 1 3i6r 0 0 1 vgj 0 0 1 vim 1v 0 2 15l 14k 1 0 2 16a " ++
  "14n a 0 2 161 14x 0 0 2 161 14y 0 0 2 1dmx 14x 0 0 2 1dmx 14y 0 0 2 15c 14n 0 0 2 15c 14o 0 d 2 15c 14s " ++
  "1 9 2 15k 14s 1 0 2 15q 14s 1 3 2 15s 14s 1 3 2 15v 14s 1 9 2 15y 14s 0 0 2 15h 14p 0 0 2 15d 14v 0 0 2 " ++
  "15n 14v 0 0 2 15w 14v 47f 0 2 1huh 1hve 1 0 2 1huj 1hve e 0 2 1hut 1hve 3m 3 2 1hyp 1hyf ez 0 2 1idj " ++
  "1ida 0 0 2 1idj 1idz a6 0 2 1int 1inu 0 0 2 1int 1ink 1 0 2 1int 1inx 6z 3 2 1iuw 1iun os 0 2 1jjp 1jjk " ++
  "10dh 3 2 2jx3 2jxh 0 0 2 2jxb 2jxq 0 0 2 2jxb 2jxr 0 0 2 2jxb 2jxs 0 0 2 2jxb 2jxt 0 0 2 2jxb 2jxu 2e 3 " ++
  "2 2jzt 2jxh 0 3 2 2jzv 2jxq 0 3 2 2jzv 2jxr 1m4f 0 1 fgd 0 0 1 fg8 0 0 1 fgh 0 0 1 2tcy 0 0 1 fog 0 0 1 " ++
  "fqm 0 0 1 fqz 0 0 1 fsy 0 0 1 fwa 0 0 1 fx5 0 0 1 fzb 0 0 1 fyn 0 0 1 ae6 0 0 1 2ud6 0 0 1 g25 0 0 1 " ++
  "g2c 0 0 1 g2s 0 0 1 g3b 0 0 1 2u58 0 0 1 aex 0 0 1 g2v 0 0 1 g3x 0 0 1 2u6j 0 0 1 g47 0 0 1 g4k 0 0 1 " ++
  "fkc 0 0 1 g4s 0 0 1 g51 0 0 1 3ly7 0 0 1 g6t 0 0 1 g77 0 0 1 afz 0 0 1 g8r 0 0 1 g92 0 0 1 gaa 0 0 1 " ++
  "gaf 0 0 1 ahh 0 0 1 gcn 0 0 1 gcp 0 0 1 gdg 0 0 1 ge2 0 3 1 ged 0 0 1 gev 0 0 1 gg9 0 0 1 ggh 0 0 1 ggq " ++
  "0 0 1 ghf 0 0 1 ghp 0 4 1 ghr 0 0 1 2v58 0 0 1 m7k 0 0 1 gju 0 0 1 gkf 0 0 1 2vdv 0 0 1 gkr 0 0 1 gkx 0 " ++
  "0 1 gli 0 0 1 gpq 0 0 1 gmw 0 0 1 gnc 0 0 1 go8 0 0 1 gpu 0 0 1 gs6 0 0 1 gsw 0 0 1 gur 0 0 1 gv7 0 2 1 " ++
  "gw4 0 0 1 gwp 0 0 1 gx7 0 0 1 gxf 0 0 1 gxu 0 0 1 h7a 0 0 1 gzq 0 0 1 h7b 0 0 1 h1t 0 0 1 h2s 0 0 1 g7b " ++
  "0 0 1 hke 0 0 1 hce 0 0 1 hdg 0 0 1 he5 0 0 1 haj 0 0 1 hf6 0 0 1 hf5 0 0 1 hik 0 0 1 2x9g 0 0 1 hki 0 " ++
  "0 1 hkn 0 0 1 hl2 0 0 1 hlm 0 0 1 hlu 0 0 1 hnm 0 0 1 2xm0 0 0 1 2xnu 0 0 1 hrg 0 0 1 hsr 0 0 1 ht3 0 0 " ++
  "1 hqw 0 0 1 huu 0 0 1 aum 0 0 1 av0 0 0 1 hzc 0 2 1 i0u 0 0 1 2y88 0 0 1 i4j 0 0 1 i54 0 0 1 i5j 0 0 1 " ++
  "i5v 0 0 1 2yhk 0 0 1 i67 0 0 1 i6e 0 0 1 itv 0 0 1 i76 0 0 1 ayp 0 0 1 i8w 0 0 1 i9a 0 0 1 ibk 0 0 1 " ++
  "ia5 0 0 1 2z1g 0 0 1 if7 0 0 1 2z1i 0 0 1 ige 0 0 1 igb 0 0 1 igs 0 3 1 ijl 0 0 1 b3j 0 0 1 ikd 0 0 1 " ++
  "ilk 0 0 1 im5 0 0 1 ind 0 0 1 b4y 0 0 1 2zr7 0 0 1 b5o 0 0 1 ipc 0 0 1 ipf 0 0 1 ipi 0 0 1 iq2 0 0 1 " ++
  "3pg2 0 0 1 iri 0 2 1 3035 0 0 1 poh 0 2 1 isi 0 0 1 b7r 0 0 1 335k 0 0 1 3cgq 0 0 1 iua 0 0 1 iuj 0 0 1 " ++
  "b8j 0 0 1 ivu 0 0 1 ix9 0 0 1 ixj 0 0 1 iyh 0 0 1 j29 0 0 1 bay 0 0 1 ba4 0 0 1 j2s 0 0 1 30t0 0 0 1 " ++
  "j47 0 0 1 j7s 0 0 1 j7w 0 0 1 j7y 0 0 1 j7w 0 0 1 j96 0 0 1 j9q 0 0 1 jaq 0 0 1 jac 0 0 1 jan 0 0 1 jby " ++
  "0 0 1 jci 0 0 1 jcm 0 0 1 jdc 0 0 1 jdn 0 0 1 jfh 0 0 1 jht 0 0 1 jis 0 0 1 jm8 0 0 1 31n0 0 0 1 jlp 0 " ++
  "0 1 jjw 0 0 1 jmw 0 0 1 jnn 0 0 1 jqc 0 0 1 31td 0 0 1 js2 0 0 1 jph 0 0 1 jop 0 0 1 bhq 0 0 1 ju1 0 0 " ++
  "1 jum 0 0 1 jvh 0 0 1 juf 0 0 1 bjg 0 0 1 k0f 0 0 1 k18 0 0 1 32mi 0 0 1 k4j 0 0 1 kc8 0 0 1 k7d 0 0 1 " ++
  "bo9 0 0 1 k9d 0 0 1 bns 0 0 1 bms 0 0 1 g42 0 0 1 g45 0 0 1 kcg 0 0 1 k9o 0 0 1 pf1 0 0 1 deh 0 0 1 kd3 " ++
  "0 0 1 kd7 0 0 1 kdd 0 0 1 kf2 0 0 1 ker 0 0 1 33cz 0 0 1 bpl 0 0 1 kje 0 0 1 kg5 0 0 1 klu 0 0 1 kn9 0 " ++
  "0 1 33hp 0 0 1 kni 0 0 1 kkf 0 0 1 kr8 0 0 1 brx 0 0 1 ksi 0 0 1 kv7 0 0 1 kx6 0 0 1 l2g 0 0 1 33xf 0 0 " ++
  "1 l3v 0 0 1 bvc 0 0 1 l5t 0 0 1 34br 0 0 1 l78 0 0 1 bwu 0 0 1 l82 0 0 1 l9b 0 3 1 la2 0 0 1 34p9 0 0 1 " ++
  "2yvf 0 0 1 34sa 0 0 1 le6 0 0 1 354s 0 0 1 lhb 0 0 1 lhp 0 0 1 lev 0 0 1 ljq 0 0 1 lku 0 0 1 lmf 0 0 1 " ++
  "lkx 0 0 1 lm1 0 0 1 lmg 0 0 1 lmt 0 0 1 357i 0 0 1 lkk 0 0 1 lrj 0 0 1 lta 0 0 1 c37 0 0 1 lvv 0 0 1 " ++
  "lvr 0 0 1 35jl 0 0 1 lq1 0 0 1 m0e 0 0 1 35ni 0 0 1 35ou 0 0 1 m2u 0 0 1 m61 0 0 1 m5a 0 0 1 m57 0 0 1 " ++
  "c5y 0 0 1 m6i 0 0 1 m7x 0 0 1 m7r 0 0 1 m99 0 0 1 2u5h 0 0 1 mdh 0 0 1 368z 0 0 1 mfw 0 0 1 36i3 0 0 1 " ++
  "mjs 0 0 1 mk5 0 0 1 mkw 0 0 1 36yw 0 0 1 mm8 0 0 1 mmt 0 0 1 3779 0 0 1 37dg 0 0 1 mt6 0 0 1 mtn 0 0 1 " ++
  "cdo 0 0 1 mud 0 2 1 ce0 0 0 1 myv 0 0 1 mzg 0 0 1 n01 0 0 1 n0l 0 0 1 n2i 0 0 1 cgr 0 0 1 n50 0 0 1 " ++
  "386u 0 0 1 n5q 0 0 1 389e 0 0 1 n74 0 0 1 2zrz 0 0 1 nbk 0 0 1 38v5 0 0 1 38vs 0 0 1 38zo 0 0 1 cn0 0 0 " ++
  "1 cnc 0 0 1 nhw 0 0 1 394j 0 0 1 394i 0 0 1 395l 0 0 1 396b 0 3 1 nj2 0 0 1 nj3 0 0 1 nka 0 0 1 cop 0 0 " ++
  "1 nm3 0 0 1 cp2 0 0 1 cra 0 0 1 39r1 0 0 1 nri 0 0 1 nt8 0 0 1 nv0 0 0 1 ctf 0 0 1 3a5i 0 0 1 nyu 0 0 1 " ++
  "3a8q 0 0 1 3a9x 0 0 1 o0f 0 0 1 o2z 0 0 1 cvj 0 0 1 o5c 0 0 1 o5m 0 0 1 o5r 0 0 1 3at8 0 2 1 3b1j 0 0 1 " ++
  "oa6 0 0 1 d1e 0 0 1 3b8r 0 0 1 og6 0 0 1 og9 0 0 1 d2f 0 0 1 3beo 0 0 1 onm 0 0 1 d5s 0 0 1 oo8 0 0 1 " ++
  "oo3 0 0 1 oow 0 0 1 3c06 0 0 1 orn 0 0 1 d8h 0 0 1 ouf 0 0 1 ow2 0 0 1 oxx 0 0 1 d9w 0 0 1 3ciw 0 0 1 " ++
  "3cjr 0 0 1 dax 0 0 1 3cnt 0 0 1 p6i 0 0 1 3cqm 0 0 1 p79 0 0 1 pa2 0 0 1 pad 0 0 1 3d22 0 0 1 3d43 0 0 " ++
  "1 pcw 0 0 1 3d7s 0 0 1 pdc 0 0 1 33a7 0 0 1 ded 0 0 1 pf6 0 0 1 phf 0 0 1 dfv 0 0 1 pj2 0 0 1 hx1 0 0 1 " ++
  "3dlz 0 0 1 3dmd 0 0 1 33bn 0 0 1 33bw 0 0 1 poh 0 0 1 pok 0 0 1 sda 0 0 1 dij 0 0 1 psh 0 0 1 psb 0 0 1 " ++
  "pst 0 0 1 gc3 0 0 1 ptd 0 0 1 ptf 0 0 1 ptp 0 0 1 puu 0 0 1 3ebg 0 0 1 put 0 0 1 pwd 0 0 1 pyb 0 0 1 " ++
  "q0d 0 0 1 pwj 0 0 1 q0t 0 0 1 q1z 0 0 1 q53 0 0 1 pxv 0 0 1 q16 0 0 1 q18 0 0 1 q1o 0 0 1 3eie 0 0 1 " ++
  "3eqz 0 0 1 3emt 0 0 1 dnv 0 0 1 q9d 0 0 1 q9f 0 0 1 qae 0 0 1 3g0a 0 0 1 qck 0 0 1 3f3g 0 0 1 dp9 0 0 1 " ++
  "dpd 0 0 1 3f75 0 0 1 3ff6 0 0 1 dpn 0 0 1 qj4 0 0 1 qjg 0 0 1 qjr 0 0 1 qjt 0 0 1 qll 0 0 1 qko 0 0 1 " ++
  "qoe 0 0 1 qn6 0 0 1 qrd 0 0 1 qp4 0 0 1 qqz 0 0 1 qrq 0 0 1 dsn 0 0 1 qu9 0 0 1 qv5 0 0 1 dtl 0 0 1 qxs " ++
  "0 0 1 qxv 0 0 1 3giv 0 0 1 r13 0 0 1 r1a 0 0 1 dv9 0 0 1 r22 0 0 1 aez 0 0 1 3gz2 0 0 1 3h46 0 0 1 dz2 " ++
  "0 0 1 dzb 0 0 1 rds 0 0 1 rfx 0 0 1 rka 0 0 1 rpx 0 0 1 3hrc 0 0 1 rsb 0 0 1 rsx 0 0 1 rvf 0 0 1 rxz 0 " ++
  "0 1 3i9b 0 0 1 2upw 0 0 1 s0b 0 0 1 rzw 0 0 1 s1c 0 0 1 2uvy 0 0 1 s7o 0 0 1 sag 0 0 1 3jki 0 0 1 3jl9 " ++
  "0 0 1 sk4 0 0 1 smp 0 0 1 snl 0 0 1 3ju6 0 0 1 snv 0 0 1 svs 0 3 1 t07 0 0 1 sxo 0 0 1 t89 0 0 1 t91 0 " ++
  "0 1 3ksa 0 0 1 tjf 0 0 1 ej9 0 0 1 tkn 0 0 1 3l2v 0 0 1 eli 0 0 1 ts3 0 0 1 iia 0 0 1 tur 0 0 1 3ltx 0 " ++
  "0 1 3lzu 0 0 1 epa 0 0 1 epi 0 0 1 u00 0 0 1 3mdm 0 0 1 er6 0 0 1 3mhi 0 2 1 u17 0 0 1 u21 0 0 1 3mpi 0 " ++
  "0 1 u76 0 0 1 eur 0 0 1 u95 0 0 1 ucn 0 0 1 ude 0 0 1 uf2 0 0 1 ez2 0 0 1 3nsg 0 0 1 umq 0 0 1 uv4 0 0 " ++
  "1 v0d 0 0 1 f66 0 0 1 f71 0 0 1 v3b 0 0 1 3owe 0 0 1 f7c 0 0 1 3oxx 0 0 1 3p5a 0 0 1 3p8x 0 0 1 vcr 0 0 " ++
  "1 f9y 0 0 1 veh 0 0 1 vem 0 0 1 vet 0 0 1 vf3 0 0 1 vfa 0 0 1 vgb 0 0 1 3pxc "))

def compatibleRuns : Array DecompositionRun := DecompositionRun.table (CharacterRuns.numbers (
  "4g 0 1 w 7 0 2 w lk 1 0 1 2p 4 0 2 w lg 2 3 1 1e 0 0 2 w ld 0 0 1 qk 2 0 2 w mf 0 0 1 1d 0 0 1 33 1 0 3 " ++
  "1d 6dg 1g 0 0 3 1d 6dg 1e 0 0 3 1f 6dg 1g 37 0 2 21 22 0 0 2 2x 2y b 0 2 24 53 0 0 2 30 53 8 0 2 jg 32 " ++
  "1h 0 1 37 1w 0 2 1w al 0 0 2 1w am 0 0 2 2s am 0 0 2 24 22 0 0 2 24 2y 0 0 2 30 2y 0 0 2 26 22 0 0 2 26 " ++
  "2y 0 0 2 32 2y 10 0 2 1w 2i 0 0 2 1w 3e 0 0 2 2s 3e 58 0 1 2w 0 0 1 h2 0 0 1 2y 0 0 1 36 0 0 1 hl 0 0 1 " ++
  "hn 0 0 1 ht 0 0 1 3b 0 0 1 3d v 0 2 w li 0 0 2 w lj 0 0 2 w lm 0 0 2 w mg 0 0 2 w lf 0 0 2 w ln 2 0 1 " ++
  "gz 0 0 1 30 0 0 1 37 0 0 1 3c 0 0 1 id 45 0 2 w n9 9 0 2 w ld 23 0 1 qa 0 0 1 qg 0 0 1 px 2 0 1 qu 0 0 " ++
  "1 qo p 0 1 qi 0 3 1 qp 1 0 1 pk 0 0 1 qd 3 0 1 pv b1 0 2 12d 136 6l 0 2 17r 19w 0 0 2 18o 19w 0 0 2 1c7 " ++
  "19w 0 0 2 18q 19w 1iy 0 2 2tp 2sy 3j 0 2 2x9 2wi 14 0 2 2wb 2vt 0 0 2 2wb 2w1 1a 0 1 2yz 2y 0 2 33m 329 " ++
  "1 0 2 33n 329 aq 0 1 3bw 2en 0 1 1t 0 0 1 5i 0 0 1 1u 1 3 1 1w 0 0 1 b2 0 f 1 1z 1 0 1 27 0 0 1 f6 0 0 " ++
  "1 28 0 0 1 2a 0 3 1 2c 0 0 1 2f 0 0 1 2p 0 3 1 gg 0 0 1 5qa 0 0 1 2q 0 3 1 2s 0 0 1 gp 0 3 1 gr 0 0 1 " ++
  "2v 1 0 1 2z 0 0 1 31 0 0 1 97 0 0 1 33 0 0 1 gk 0 3 1 5qu 0 0 1 34 0 3 1 38 0 0 1 5r1 0 0 1 hb 0 0 1 3a " ++
  "0 0 1 5r9 0 5 1 qa 0 3 1 qu 0 0 1 2x 0 0 1 36 0 3 1 39 0 3 1 qa 0 0 1 qp 0 3 1 qu d 0 1 u5 y 0 1 gi 0 0 " ++
  "1 2r 0 0 1 gl 0 0 1 6o 0 0 1 gs 0 0 1 2u 0 0 1 gv 0 0 1 gx 0 0 1 h1 0 5 1 h4 0 0 1 5tn 0 0 1 il 0 0 1 " ++
  "h9 0 0 1 5tx 0 0 1 in 0 0 1 hd 0 0 1 hc 0 7 1 he 0 0 1 hk 0 3 1 hu 0 0 1 bv 0 3 1 i1 0 0 1 5r0 0 3 1 i3 " ++
  "0 0 1 3e 0 5 1 i8 0 0 1 qg 62 0 2 2p ji 82 0 2 w lv 1 0 2 w lv 0 0 2 w n6 1p 0 2 w lw 3 g 1 w 6 0 1 6c0 " ++
  "5 0 2 w mr c 0 1 1a 0 0 2 1a 1a 0 0 3 1a 1a 1a 8 0 1 w 3 0 2 6cy 6cy 0 0 3 6cy 6cy 6cy 1 0 2 6d1 6d1 0 " ++
  "0 3 6d1 6d1 6d1 4 0 2 x x 1 0 2 w lh 8 0 2 1r 1r 0 0 2 1r x 0 0 2 x 1r d 0 4 6cy 6cy 6cy 6cy 7 0 1 w g " ++
  "0 1 1c 0 0 1 2x 2 b 1 1g 0 0 1 17 0 0 1 6qa 0 0 1 1p 0 3 1 14 0 0 1 32 0 j 1 1c 0 0 1 17 0 0 1 6qa 0 0 " ++
  "1 1p 0 3 1 14 1 0 1 2p 0 0 1 2t 0 0 1 33 0 0 1 3c 0 0 1 gp 0 0 1 2w 0 7 1 2z 0 0 1 34 0 3 1 37 b 0 2 2a " ++
  "37 2f 0 3 2p 1b 2r 0 0 3 2p 1b 37 0 0 1 1v 0 0 2 4w 1v 1 0 3 2r 1b 33 0 0 3 2r 1b 39 0 0 1 b4 1 0 2 4w " ++
  "1y 0 0 1 2v 0 4 1 20 0 0 1 2w 0 0 1 87 0 2 1 21 0 0 1 24 0 0 1 30 1 0 1 26 0 0 2 26 33 2 5 1 28 0 2 1 " ++
  "2a 2 0 2 2b 25 0 0 3 2c 1x 24 0 0 2 2c 25 1 0 1 2i 3 0 1 2i 3 3 1 1u 1 0 1 2t 0 3 1 1x 1 0 1 25 0 0 1 " ++
  "33 0 7 1 15c 0 0 1 2x 1 0 3 1y 1t 2g 0 0 1 qo 0 0 1 qb 0 0 1 pf 0 0 1 ps 0 0 1 6q9 4 0 1 1w 0 3 1 2s 0 " ++
  "3 1 2x 6 0 3 1d 6dg 1j 0 0 3 1d 6dg 1l 0 0 4 1d 6dg 1d 1c 0 3 3 1d 6dg 1f 0 7 3 1d 6dg 1h 0 0 3 1d 6dg " ++
  "1i 0 0 3 1h 6dg 1i 0 0 3 1d 6dg 1k 0 0 3 1f 6dg 1k 0 0 3 1h 6dg 1k 0 0 3 1j 6dg 1k 0 0 2 1d 6dg 0 0 1 " ++
  "21 0 0 2 21 21 0 0 3 21 21 21 0 0 2 21 2e 0 0 1 2e 0 0 2 2e 21 0 0 3 2e 21 21 0 0 4 2e 21 21 21 0 0 2 " ++
  "21 2g 0 0 1 2g 0 0 2 2g 21 0 0 3 2g 21 21 0 0 1 24 0 3 1 1v 0 0 1 25 0 0 1 2x 0 0 2 2x 2x 0 0 3 2x 2x " ++
  "2x 0 0 2 2x 3a 0 0 1 3a 0 0 2 3a 2x 0 0 3 3a 2x 2x 0 0 4 3a 2x 2x 2x 0 0 2 2x 3c 0 0 1 3c 0 0 2 3c 2x 0 " ++
  "0 3 3c 2x 2x 0 0 1 30 0 3 1 2r 0 0 1 31 9 0 3 1c 6dg 1f 4i 0 2 6qz 6qz 0 0 3 6qz 6qz 6qz 1 0 2 6r2 6r2 " ++
  "0 0 3 6r2 6r2 6r2 fj h 1 1d 0 0 2 1d 1c 0 0 2 1d 1d 0 0 2 1d 1e 0 0 2 1d 1f 0 0 2 1d 1g 0 0 2 1d 1h 0 0 " ++
  "2 1d 1i 0 0 2 1d 1j 0 0 2 1d 1k 0 0 2 1d 1l 0 0 2 1e 1c 0 0 3 14 1d 15 0 0 3 14 1e 15 0 0 3 14 1f 15 0 " ++
  "0 3 14 1g 15 0 0 3 14 1h 15 0 0 3 14 1i 15 0 0 3 14 1j 15 0 0 3 14 1k 15 0 0 3 14 1l 15 0 0 4 14 1d 1c " ++
  "15 0 0 4 14 1d 1d 15 0 0 4 14 1d 1e 15 0 0 4 14 1d 1f 15 0 0 4 14 1d 1g 15 0 0 4 14 1d 1h 15 0 0 4 14 " ++
  "1d 1i 15 0 0 4 14 1d 1j 15 0 0 4 14 1d 1k 15 0 0 4 14 1d 1l 15 0 0 4 14 1e 1c 15 0 h 2 1d 1a 0 0 3 1d " ++
  "1c 1a 0 0 3 1d 1d 1a 0 0 3 1d 1e 1a 0 0 3 1d 1f 1a 0 0 3 1d 1g 1a 0 0 3 1d 1h 1a 0 0 3 1d 1i 1a 0 0 3 " ++
  "1d 1j 1a 0 0 3 1d 1k 1a 0 0 3 1d 1l 1a 0 0 3 1e 1c 1a 0 0 3 14 2p 15 0 0 3 14 2q 15 0 0 3 14 2r 15 0 0 " ++
  "3 14 2s 15 0 0 3 14 2t 15 0 0 3 14 2u 15 0 0 3 14 2v 15 0 0 3 14 2w 15 0 0 3 14 2x 15 0 0 3 14 2y 15 0 " ++
  "0 3 14 2z 15 0 0 3 14 30 15 0 0 3 14 31 15 0 0 3 14 32 15 0 0 3 14 33 15 0 0 3 14 34 15 0 0 3 14 35 15 " ++
  "0 0 3 14 36 15 0 0 3 14 37 15 0 0 3 14 38 15 0 0 3 14 39 15 0 0 3 14 3a 15 0 0 3 14 3b 15 0 0 3 14 3c " ++
  "15 0 0 3 14 3d 15 0 0 3 14 3e 15 0 1f 1 1t 0 1f 1 2p 0 0 1 1c 10h 0 4 6qz 6qz 6qz 6qz 2v 0 3 1m 1m 1p 0 " ++
  "0 2 1p 1p 0 0 3 1p 1p 1p ed 0 1 2y 0 0 1 2e 6p 0 1 8yp 8f 0 1 lal 2b 0 1 vj3 c 0 1 feo 0 0 1 ffs 0 0 1 " ++
  "fg6 0 0 1 fgf 0 0 1 fh5 0 0 1 fid 0 0 1 fik 0 0 1 fj4 0 0 1 fju 0 0 1 g1r 0 0 1 g2t 0 0 1 g2z 0 0 1 g3m " ++
  "0 0 1 g46 0 0 1 g4r 0 0 1 g68 0 0 1 g6t 0 0 1 g74 0 0 1 gbf 0 0 1 ge1 0 0 1 get 0 0 1 gey 0 0 1 gfs 0 0 " ++
  "1 gg1 0 0 1 ggs 0 0 1 gh5 0 0 1 ghu 0 0 1 gja 0 0 1 gjs 0 0 1 gkj 0 0 1 h5j 0 0 1 h7j 0 0 1 hkb 0 0 1 " ++
  "hky 0 0 1 hl6 0 0 1 hlh 0 0 1 hlz 0 0 1 ho3 0 0 1 i1c 0 0 1 i2o 0 0 1 i60 0 0 1 i6n 0 0 1 i76 0 0 1 i7s " ++
  "0 0 1 i9a 0 0 1 i9d 0 0 1 ijf 0 0 1 ijp 0 0 1 ik1 0 0 1 ike 0 0 1 inm 0 0 1 inu 0 0 1 inz 0 0 1 ir8 0 0 " ++
  "1 iri 0 0 1 irv 0 0 1 is3 0 0 1 its 0 0 1 iu9 0 0 1 iur 0 0 1 iwz 0 0 1 jd4 0 0 1 jee 0 0 1 jez 0 0 1 " ++
  "jzj 0 0 1 jzo 0 0 1 k1z 0 0 1 k2f 0 0 1 k2s 0 0 1 k3d 0 0 1 k4g 0 0 1 k4l 0 0 1 kc0 0 0 1 kco 0 0 1 kdk " ++
  "0 0 1 l5s 0 0 1 l7m 0 0 1 l89 0 0 1 l9v 0 0 1 laj 0 0 1 las 0 0 1 laz 0 0 1 lcf 0 0 1 lck 0 0 1 ldg 0 0 " ++
  "1 m7f 0 0 1 mju 0 0 1 mk6 0 0 1 mkb 0 0 1 mkf 0 0 1 mkn 0 0 1 ml5 0 0 1 ml7 0 0 1 mng 0 0 1 mtg 0 0 1 " ++
  "mtl 0 0 1 n30 0 0 1 n3a 0 0 1 n4o 0 0 1 n4v 0 0 1 n54 0 0 1 n5c 0 0 1 n7v 0 0 1 n82 0 0 1 nee 0 0 1 nel " ++
  "0 0 1 nfy 0 0 1 ngf 0 0 1 nhq 0 0 1 nob 0 0 1 noi 0 0 1 noz 0 0 1 ny2 0 0 1 o1k 0 0 1 o1q 0 0 1 o6s 0 0 " ++
  "1 o97 0 0 1 oah 0 0 1 okz 0 0 1 ooo 0 0 1 p4m 0 0 1 p5d 0 0 1 p6y 0 0 1 p8d 0 0 1 pa9 0 0 1 pak 0 0 1 " ++
  "paq 0 0 1 pbn 0 0 1 pdr 0 0 1 pe1 0 0 1 pnn 0 0 1 pnu 0 0 1 po3 0 0 1 poc 0 0 1 pos 0 0 1 pp7 0 0 1 ppb " ++
  "0 0 1 pri 0 0 1 prm 0 0 1 prs 0 0 1 qj1 0 0 1 qjv 0 0 1 qww 0 0 1 qx8 0 0 1 qxv 0 0 1 r5q 0 0 1 r63 0 0 " ++
  "1 r82 0 0 1 r9c 0 0 1 rp3 0 0 1 rpi 0 0 1 rpx 0 0 1 rqw 0 0 1 rrx 0 0 1 rxg 0 0 1 rxs 0 0 1 rzn 0 0 1 " ++
  "s6j 0 0 1 s7e 0 0 1 sd7 0 0 1 sds 0 0 1 sdx 0 0 1 sk1 0 0 1 sp5 0 0 1 ssm 0 0 1 sss 0 0 1 ssx 0 0 1 tiv " ++
  "0 0 1 tj4 0 0 1 tng 0 0 1 trq 0 0 1 trt 0 0 1 tt4 0 0 1 tw1 0 0 1 twe 0 0 1 twi 0 0 1 twp 0 0 1 tzf 0 0 " ++
  "1 u0d 0 0 1 u0j 0 0 1 u0x 0 0 1 u5k 0 0 1 u6z 0 0 1 u73 0 0 1 uc6 0 0 1 uc9 0 0 1 ucs 0 0 1 ujs 0 0 1 " ++
  "ul4 0 0 1 ulb 0 0 1 un9 0 0 1 unj 0 0 1 unm 0 0 1 unw 0 0 1 uoq 0 0 1 uzp 0 0 1 vat 0 0 1 vb3 0 0 1 vc5 " ++
  "0 0 1 vcr 0 0 1 vcz 0 0 1 vd9 0 0 1 vdd 0 0 1 veh 0 0 1 vel 0 0 1 vf2 0 0 1 vf7 0 0 1 vfk 0 0 1 vgb 0 0 " ++
  "1 vgq 0 0 1 vgy 0 0 1 vil 0 0 1 vj0 0 0 1 vj4 16 0 1 w 1h 0 1 9hu 1 0 1 gg1 0 3 1 gg4 2o 0 2 w 9ll 0 0 " ++
  "2 w 9lm 2 0 2 9l4 9l6 2n 0 2 9mb 9mw 1d 3 1 3cw 0 0 1 3hm 0 0 1 3cy 0 3 1 3ho 0 5 1 3cz 0 b 1 3hs 0 0 1 " ++
  "3dm 0 5 1 3d2 0 0 1 3dt 0 j 1 3d5 0 15 1 3fl 0 0 1 3fk 0 3 1 3dg 0 3 1 3if 0 0 1 3ik 0 0 1 3im 0 0 1 " ++
  "3ir 0 0 1 3iv 0 0 1 3ix 0 0 1 3do 0 0 1 3j1 0 0 1 3j3 0 3 1 3dp 0 0 1 3ds 0 3 1 3du 0 0 1 3dz 0 0 1 3e1 " ++
  "0 9 1 3e3 0 0 1 3ea 0 0 1 3ee 0 0 1 3eo 0 0 1 3ev 0 0 1 3f0 0 3 1 3jl 0 5 1 3fb 0 3 1 3gk 0 0 1 3go 0 3 " ++
  "1 3gx 0 0 1 3h0 0 0 1 3ha 0 0 1 3hd 3 0 1 feo 0 0 1 fik 0 0 1 fex 0 0 1 h5n 0 0 1 fey 0 0 1 ffx 0 0 1 " ++
  "fez 0 0 1 n5e 0 0 1 fh5 0 0 1 ffd 0 0 1 fep 0 0 1 hm1 0 0 1 h80 0 0 1 fju 2o 0 3 14 3cw 15 0 0 3 14 3cy " ++
  "15 0 0 3 14 3cz 15 0 0 3 14 3d1 15 0 0 3 14 3d2 15 0 0 3 14 3d3 15 0 0 3 14 3d5 15 0 0 3 14 3d7 15 0 0 " ++
  "3 14 3d8 15 0 0 3 14 3da 15 0 0 3 14 3db 15 0 0 3 14 3dc 15 0 0 3 14 3dd 15 0 0 3 14 3de 15 0 0 4 14 " ++
  "3cw 3fl 15 0 0 4 14 3cy 3fl 15 0 0 4 14 3cz 3fl 15 0 0 4 14 3d1 3fl 15 0 0 4 14 3d2 3fl 15 0 0 4 14 3d3 " ++
  "3fl 15 0 0 4 14 3d5 3fl 15 0 0 4 14 3d7 3fl 15 0 0 4 14 3d8 3fl 15 0 0 4 14 3da 3fl 15 0 0 4 14 3db 3fl " ++
  "15 0 0 4 14 3dc 3fl 15 0 0 4 14 3dd 3fl 15 0 0 4 14 3de 3fl 15 0 0 4 14 3d8 3fy 15 0 0 7 14 3d7 3ft 3d8 " ++
  "3fp 3hn 15 0 0 6 14 3d7 3ft 3de 3fy 15 1 0 3 14 feo 15 0 0 3 14 fik 15 0 0 3 14 fex 15 0 0 3 14 h5n 15 " ++
  "0 0 3 14 fis 15 0 0 3 14 g31 15 0 0 3 14 fer 15 0 0 3 14 g2z 15 0 0 3 14 fh9 15 0 0 3 14 gg1 15 0 0 3 " ++
  "14 kco 15 0 0 3 14 m7f 15 0 0 3 14 ldg 15 0 0 3 14 kdk 15 0 0 3 14 ssx 15 0 0 3 14 h7j 15 0 0 3 14 k4l " ++
  "15 0 0 3 14 kkq 15 0 0 3 14 kcp 15 0 0 3 14 ny6 15 0 0 3 14 glp 15 0 0 3 14 mm1 15 0 0 3 14 rs1 15 0 0 " ++
  "3 14 nz1 15 0 0 3 14 gc4 15 0 0 3 14 fkz 15 0 0 3 14 gos 15 0 0 3 14 i1y 15 0 0 3 14 nhf 15 0 0 3 14 " ++
  "flt 15 0 0 3 14 rt3 15 0 0 3 14 ggk 15 0 0 3 14 nzh 15 0 0 3 14 fm9 15 0 0 3 14 pnu 15 0 0 3 14 po3 15 " ++
  "0 0 1 gun 0 0 1 inw 0 0 1 k1z 0 0 1 oen 8 0 3 28 2c 1x 0 0 2 1e 1d 0 0 2 1e 1e 0 0 2 1e 1f 0 0 2 1e 1g " ++
  "0 0 2 1e 1h 0 0 2 1e 1i 0 0 2 1e 1j 0 0 2 1e 1k 0 0 2 1e 1l 0 0 2 1f 1c 0 0 2 1f 1d 0 0 2 1f 1e 0 0 2 " ++
  "1f 1f 0 0 2 1f 1g 0 0 2 1f 1h 0 0 1 3cw 0 3 1 3cy 0 5 1 3d1 0 0 1 3d5 0 3 1 3d7 0 9 1 3da 0 0 2 3cw 3fl " ++
  "0 3 2 3cy 3fl 0 5 2 3d1 3fl 0 0 2 3d5 3fl 0 3 2 3d7 3fl 0 9 2 3da 3fl 0 0 5 3da 3fl 3hz 3cw 3ft 0 0 4 " ++
  "3d8 3fy 3d7 3g4 0 0 2 3d7 3fy 1 0 1 feo 0 0 1 fik 0 0 1 fex 0 0 1 h5n 0 0 1 fis 0 0 1 g31 0 0 1 fer 0 0 " ++
  "1 g2z 0 0 1 fh9 0 0 1 gg1 0 0 1 kco 0 0 1 m7f 0 0 1 ldg 0 0 1 kdk 0 0 1 ssx 0 0 1 h7j 0 0 1 k4l 0 0 1 " ++
  "kkq 0 0 1 kcp 0 0 1 ny6 0 0 1 glp 0 0 1 mm1 0 0 1 rs1 0 0 1 nz1 0 0 1 gc4 0 0 1 o2g 0 0 1 n5j 0 0 1 ho3 " ++
  "0 0 1 six 0 0 1 g16 0 0 1 ghc 0 0 1 lig 0 0 1 u11 0 0 1 fm9 0 0 1 g49 0 0 1 l7n 0 0 1 fey 0 0 1 ffx 0 0 " ++
  "1 fez 0 0 1 ijq 0 0 1 gkz 0 0 1 gfv 0 0 1 i3b 0 0 1 i1y 0 0 1 nhf 0 0 1 flt 0 0 1 rt3 0 0 1 ggk 0 0 1 " ++
  "hlo 0 0 2 1f 1i 0 0 2 1f 1j 0 0 2 1f 1k 0 0 2 1f 1l 0 0 2 1g 1c 0 0 2 1g 1d 0 0 2 1g 1e 0 0 2 1g 1f 0 0 " ++
  "2 1g 1g 0 0 2 1g 1h 0 0 2 1g 1i 0 0 2 1g 1j 0 0 2 1g 1k 0 0 2 1g 1l 0 0 2 1h 1c 0 h 2 1d kco 0 0 3 1d " ++
  "1c kco 0 0 3 1d 1d kco 0 0 3 1d 1e kco 0 0 2 20 2v 0 0 3 2t 36 2v 0 0 2 2t 2e 0 0 3 24 2c 1w 0 0 1 9lu " ++
  "0 0 1 9lw 0 0 1 9ly 0 0 1 9m0 0 3 1 9m2 0 0 1 9m5 0 0 1 9m7 0 0 1 9m9 0 0 1 9mb 0 0 1 9md 0 0 1 9mf 0 0 " ++
  "1 9mh 0 0 1 9mj 0 0 1 9ml 0 0 1 9mn 0 0 1 9mp 0 0 1 9ms 0 0 1 9mu 0 0 1 9mw 0 b 1 9my 0 0 1 9n6 0 0 1 " ++
  "9n9 0 0 1 9nc 0 0 1 9nf 0 9 1 9ni 0 0 1 9no 0 0 1 9nq 0 b 1 9ns 0 7 1 9nz 0 0 2 fl0 gp8 0 0 4 9lu 9n5 " ++
  "9oc 9mw 0 0 4 9lu 9nv 9n9 9lt 0 0 4 9lu 9o3 9ne 9lu 0 0 3 9lu 9oc 9nv 0 0 4 9lw 9mz 9o3 9m8 0 0 3 9lw " ++
  "9o3 9mp 0 0 3 9ly 9m1 9o3 0 0 5 9m0 9mh 9m7 9oc 9mx 0 0 4 9m0 9oc 9m3 9oc 0 0 3 9m2 9o3 9mh 0 0 3 9m2 " ++
  "9oc 9nk 0 0 3 9m3 9lw 9nu 0 0 4 9m3 9nt 9mr 9mw 0 0 4 9m3 9nx 9nu 9oc 0 0 3 9m4 9nx 9o3 0 0 3 9m4 9o3 " ++
  "9ni 0 0 2 9m6 9m4 0 0 3 9m6 9mz 9oc 0 0 4 9m5 9np 9nu 9oc 0 0 4 9m6 9nv 9mo 9oc 0 0 2 9m5 9nx 0 0 5 9m5 " ++
  "9nx 9m8 9nt 9nk 0 0 6 9m5 9nx 9nl 9oc 9mw 9nv 0 0 5 9m5 9nx 9nz 9mr 9mw 0 0 3 9m8 9nt 9nk 0 0 5 9m8 9nt " ++
  "9nk 9mw 9o3 0 0 5 9m7 9nv 9mk 9lw 9nx 0 0 4 9m7 9nx 9oc 9n1 0 0 3 9m9 9oc 9mh 0 0 3 9mb 9nv 9my 0 0 3 " ++
  "9mb 9oc 9nh 0 0 4 9md 9lw 9m7 9nv 0 0 5 9md 9o3 9mp 9oc 9nk 0 0 4 9mf 9nu 9o3 9m8 0 0 3 9mj 9o3 9mp 0 0 " ++
  "3 9mj 9o3 9mw 0 0 3 9mo 9oc 9mh 0 0 2 9mv 9mf 0 0 2 9mx 9nv 0 0 2 9mw 9o3 0 0 2 9my 9n2 0 0 3 9n2 9mr " ++
  "9mw 0 0 3 9n3 9lw 9ms 0 0 5 9n5 9oc 9mj 9o3 9mw 0 0 3 9n5 9oc 9ms 0 0 4 9n4 9oc 9nw 9nv 0 0 5 9n8 9lu " ++
  "9mh 9mw 9nv 0 0 3 9n8 9m7 9nv 0 0 2 9n8 9mb 0 0 2 9n7 9nv 0 0 5 9n9 9lt 9nt 9mr 9mx 0 0 4 9n9 9lv 9oc " ++
  "9mw 0 0 5 9na 9mr 9mf 9lz 9nv 0 0 3 9n9 9nt 9o3 0 0 5 9nc 9m7 9mn 9oc 9nv 0 0 2 9ne 9ml 0 0 3 9ne 9mz " ++
  "9n6 0 0 3 9nc 9nv 9ms 0 0 3 9ne 9o3 9mh 0 0 3 9ne 9oc 9mg 0 0 3 9nd 9oc 9mn 0 0 4 9nh 9lw 9o3 9mw 0 0 3 " ++
  "9ng 9nv 9mw 0 0 2 9nf 9o3 0 0 3 9nh 9o3 9mx 0 0 3 9nf 9oc 9nv 0 0 3 9nf 9oc 9o3 0 0 4 9ni 9lw 9m7 9nx 0 " ++
  "0 3 9ni 9lw 9nv 0 0 3 9ni 9mr 9n3 0 0 3 9ni 9nv 9m7 0 0 5 9ni 9o3 9mf 9nr 9o3 0 0 4 9nj 9m7 9nx 9o3 0 0 " ++
  "2 9nj 9nu 0 0 5 9nj 9nu 9n4 9oc 9nv 0 0 2 9nl 9m4 0 0 4 9nl 9m4 9mw 9o3 0 0 4 9nl 9oc 9mw 9nv 0 0 3 9no " ++
  "9oc 9mx 0 0 3 9no 9oc 9nv 0 0 3 9nq 9lu 9o3 0 0 4 9nu 9mr 9mw 9nv 0 0 2 9nu 9nt 0 0 3 9nv 9n8 9oc 0 0 4 " ++
  "9nv 9oc 9na 9nv 0 0 2 9nw 9nk 0 0 5 9nw 9o3 9mw 9ma 9o3 0 0 3 9nz 9mr 9mw 0 j 2 1c m9l 0 0 3 1d 1c m9l " ++
  "0 0 3 1d 1d m9l 0 0 3 1d 1e m9l 0 0 3 1d 1f m9l 0 0 3 1d 1g m9l 0 0 3 1d 1h m9l 0 0 3 1d 1i m9l 0 0 3 " ++
  "1d 1j m9l 0 0 3 1d 1k m9l 0 0 3 1d 1l m9l 0 0 3 1e 1c m9l 0 0 3 1e 1d m9l 0 0 3 1e 1e m9l 0 0 3 1e 1f " ++
  "m9l 0 0 3 1e 1g m9l 0 0 3 2w 28 2p 0 0 2 2s 2p 0 0 2 1t 2d 0 0 3 2q 2p 36 0 0 2 33 2e 0 0 2 34 2r 0 0 2 " ++
  "2s 31 0 0 3 2s 31 4y 0 0 3 2s 31 4z 0 0 2 21 2d 0 0 2 inn jdc 0 0 2 k6l gp8 0 0 2 hlz l7n 0 0 2 k5q lh7 " ++
  "0 0 4 kkq irz fmi ny6 0 0 2 34 1t 0 0 2 32 1t 0 0 2 qk 1t 0 0 2 31 1t 0 0 2 2z 1t 0 0 2 23 1u 0 0 2 25 " ++
  "1u 0 0 2 1z 1u 0 0 3 2r 2p 30 0 0 4 2z 2r 2p 30 0 0 2 34 1y 0 0 2 32 1y 0 0 2 qk 1y 0 0 2 qk 2v 0 0 2 " ++
  "31 2v 0 0 2 2z 2v 0 0 2 20 3e 0 0 3 2z 20 3e 0 0 3 25 20 3e 0 0 3 1z 20 3e 0 0 3 2c 20 3e 0 0 2 qk 6j7 " ++
  "0 0 2 31 6j7 0 0 2 2s 6j7 0 0 2 2z 6j7 0 0 2 2u 31 0 0 2 32 31 0 0 2 qk 31 0 0 2 31 31 0 0 2 2r 31 0 0 " ++
  "2 2z 31 0 0 3 31 31 4y 0 0 3 2r 31 4y 0 0 2 31 4y 0 0 3 2z 31 4y 0 0 3 31 31 4z 0 0 3 2r 31 4z 0 0 2 31 " ++
  "4z 0 0 3 2z 31 4z 0 0 3 31 6qd 37 0 0 4 31 6qd 37 4y 0 0 2 28 2p 0 0 3 2z 28 2p 0 0 3 25 28 2p 0 0 3 1z " ++
  "28 2p 0 0 3 36 2p 2s 0 0 5 36 2p 2s 6qd 37 0 0 6 36 2p 2s 6qd 37 4y 0 0 2 34 37 0 0 2 32 37 0 0 2 qk 37 " ++
  "0 0 2 31 37 0 0 2 34 2e 0 0 2 32 2e 0 0 2 qk 2e 0 0 2 31 2e 0 0 2 2z 2e 0 0 2 25 2e 0 0 2 34 2f 0 0 2 " ++
  "32 2f 0 0 2 qk 2f 0 0 2 31 2f 0 0 2 2z 2f 0 0 2 25 2f 0 0 2 2z q1 0 0 2 25 q1 0 0 4 2p 1a 31 1a 0 0 2 " ++
  "1u 35 0 0 2 2r 2r 0 0 2 2r 2s 0 0 4 1v 6qd 2z 2v 0 0 3 1v 33 1a 0 0 2 2s 1u 0 0 2 1z 3d 0 0 2 2w 2p 0 0 " ++
  "2 20 28 0 0 2 2x 32 0 0 2 23 23 0 0 2 23 25 0 0 2 2z 38 0 0 2 30 31 0 0 2 30 32 0 0 3 30 33 2v 0 0 2 30 " ++
  "3c 0 0 2 31 2q 0 0 3 31 2x 30 0 0 3 31 33 30 0 0 2 28 20 0 0 4 34 1a 31 1a 0 0 3 28 28 25 0 0 2 28 2a 0 " ++
  "0 2 37 36 0 0 2 2b 3a 0 0 2 2f 2q 0 0 3 2e 6qd 31 0 0 3 1t 6qd 31 0 h 2 1d k4l 0 0 3 1d 1c k4l 0 0 3 1d " ++
  "1d k4l 0 0 3 1d 1e k4l 0 0 3 1d 1f k4l 0 0 3 1d 1g k4l 0 0 3 1d 1h k4l 0 0 3 1d 1i k4l 0 0 3 1d 1j k4l " ++
  "0 0 3 1d 1k k4l 0 0 3 1d 1l k4l 0 0 3 1e 1c k4l 0 0 3 1e 1d k4l 0 0 3 1e 1e k4l 0 0 3 1e 1f k4l 0 0 3 " ++
  "1e 1g k4l 0 0 3 1e 1h k4l 0 0 3 1e 1i k4l 0 0 3 1e 1j k4l 0 0 3 1e 1k k4l 0 0 3 1e 1l k4l 0 0 3 1f 1c " ++
  "k4l 0 0 3 1f 1d k4l 0 0 3 2v 2p 30 mn0 0 1 ui 0 0 1 uk 5u 0 1 x2n 3l 0 1 1v 0 0 1 1y 0 0 1 29 3 0 1 86 " ++
  "0 0 1 9f o2 0 1 x0n 0 0 1 xtj 0 0 1 h7 0 0 1 xua 9 0 1 i5 fpy 0 2 2u 2u 0 0 2 2u 2x 0 0 2 2u 30 0 0 3 " ++
  "2u 2u 2x 0 0 3 2u 2u 30 0 0 2 an 38 0 0 2 37 38 c 0 2 12s 12u 0 0 2 12s 12d 0 0 2 12s 12j 0 0 2 132 12u " ++
  "0 0 2 12s 12l 8 0 1 15u 0 0 1 15c 0 3 1 15f 0 5 1 15n 0 0 1 160 0 0 1 162 0 0 1 17 11 0 2 15c 15o 0 2 1 " ++
  "19t 0 6 1 1a3 0 6 1 1a6 0 6 1 1a8 0 6 1 1a2 0 6 1 1a7 0 6 1 1a1 0 6 1 1b8 0 6 1 1ba 0 6 1 1ac 0 6 1 1ab " ++
  "0 6 1 1ae 0 6 1 1af 0 2 1 1al 0 2 1 1ak 0 2 1 1am 0 2 1 1ag 0 2 1 1aw 0 2 1 1ap 0 6 1 1bd 0 6 1 1bj 0 6 " ++
  "1 1bn 0 6 1 1bl 0 2 1 1bu 0 6 1 1bv 0 2 1 1c0 0 6 1 1c1 0 6 1 1by 0 2 1 1ci 0 2 1 1cj x 6 1 1bh 0 2 1 " ++
  "1c7 0 2 1 1c6 0 2 1 1c8 0 0 1 19z 0 2 1 1cb 0 2 1 1c5 0 2 1 1c9 0 6 1 1cg 0 2 1 18p 0 2 2 17q 17r 0 2 2 " ++
  "17q 1cl 0 2 2 17q 18o 0 2 2 17q 1c7 0 2 2 17q 1c6 0 2 2 17q 1c8 0 4 2 17q 1cg 0 4 2 17q 18p 0 6 1 1cc 0 " ++
  "0 2 17q 17w 0 0 2 17q 17x 0 0 2 17q 18l 0 0 2 17q 18p 0 0 2 17q 18q 0 0 2 17s 17w 0 0 2 17s 17x 0 0 2 " ++
  "17s 17y 0 0 2 17s 18l 0 0 2 17s 18p 0 0 2 17s 18q 0 0 2 17u 17w 0 0 2 17u 17x 0 0 2 17u 17y 0 0 2 17u " ++
  "18l 0 0 2 17u 18p 0 0 2 17u 18q 0 0 2 17v 17w 0 0 2 17v 18l 0 0 2 17v 18p 0 0 2 17v 18q 0 0 2 17w 17x 0 " ++
  "0 2 17w 18l 0 0 2 17x 17w 0 0 2 17x 18l 0 0 2 17y 17w 0 0 2 17y 17x 0 0 2 17y 18l 0 0 2 183 17w 0 0 2 " ++
  "183 17x 0 0 2 183 17y 0 0 2 183 18l 0 0 2 185 17x 0 0 2 185 18l 0 0 2 186 17w 0 0 2 186 17x 0 0 2 186 " ++
  "17y 0 0 2 186 18l 0 0 2 187 17x 0 3 2 187 18l 0 0 2 189 17w 0 0 2 189 18l 0 0 2 18a 17w 0 0 2 18a 18l 0 " ++
  "0 2 18h 17w 0 0 2 18h 17x 0 0 2 18h 17y 0 0 2 18h 18l 0 0 2 18h 18p 0 0 2 18h 18q 0 0 2 18i 17x 0 0 2 " ++
  "18i 18l 0 0 2 18i 18p 0 0 2 18i 18q 0 0 2 18j 17r 0 0 2 18j 17w 0 0 2 18j 17x 0 0 2 18j 17y 0 0 2 18j " ++
  "18k 0 0 2 18j 18l 0 0 2 18j 18p 0 0 2 18j 18q 0 0 2 18k 17w 0 0 2 18k 17x 0 0 2 18k 17y 0 0 2 18k 18l 0 " ++
  "0 2 18k 18p 0 0 2 18k 18q 0 0 2 18l 17w 0 0 2 18l 17x 0 0 2 18l 17y 0 0 2 18l 18l 0 0 2 18l 18p 0 0 2 " ++
  "18l 18q 0 0 2 18m 17w 0 0 2 18m 17x 0 0 2 18m 17y 0 0 2 18m 18l 0 0 2 18m 18p 0 0 2 18m 18q 0 0 2 18n " ++
  "17w 0 0 2 18n 18l 0 0 2 18n 18p 0 0 2 18n 18q 0 0 2 18q 17w 0 0 2 18q 17x 0 0 2 18q 17y 0 0 2 18q 18l 0 " ++
  "0 2 18q 18p 0 0 2 18q 18q 0 3 2 180 19s 0 0 2 18p 19s 0 0 3 w 18s 18x 0 0 3 w 18t 18x 0 0 3 w 18u 18x 0 " ++
  "0 3 w 18v 18x 0 0 3 w 18w 18x 0 0 3 w 18x 19s 0 0 2 17q 181 0 0 2 17q 182 0 0 2 17q 18l 0 0 2 17q 18m 0 " ++
  "0 2 17q 18p 0 0 2 17q 18q 0 0 2 17s 181 0 0 2 17s 182 0 0 2 17s 18l 0 0 2 17s 18m 0 0 2 17s 18p 0 0 2 " ++
  "17s 18q 0 0 2 17u 181 0 0 2 17u 182 0 0 2 17u 18l 0 0 2 17u 18m 0 0 2 17u 18p 0 0 2 17u 18q 0 0 2 17v " ++
  "181 0 0 2 17v 182 0 0 2 17v 18l 0 0 2 17v 18m 0 0 2 17v 18p 0 0 2 17v 18q 0 0 2 18h 18p 0 0 2 18h 18q 0 " ++
  "0 2 18i 18p 0 0 2 18i 18q 0 0 2 18j 17r 0 0 2 18j 18k 0 0 2 18j 18l 0 0 2 18j 18p 0 0 2 18j 18q 0 0 2 " ++
  "18k 18l 0 0 2 18k 18p 0 0 2 18k 18q 0 0 2 18l 17r 0 0 2 18l 18l 0 0 2 18m 181 0 0 2 18m 182 0 0 2 18m " ++
  "18l 0 0 2 18m 18m 0 0 2 18m 18p 0 0 2 18m 18q 0 0 2 18p 19s 0 0 2 18q 181 0 0 2 18q 182 0 0 2 18q 18l 0 " ++
  "0 2 18q 18m 0 0 2 18q 18p 0 0 2 18q 18q 0 0 2 17q 17w 0 0 2 17q 17x 0 0 2 17q 17y 0 0 2 17q 18l 0 0 2 " ++
  "17q 18n 0 0 2 17s 17w 0 0 2 17s 17x 0 0 2 17s 17y 0 0 2 17s 18l 0 0 2 17s 18n 0 0 2 17u 17w 0 0 2 17u " ++
  "17x 0 0 2 17u 17y 0 0 2 17u 18l 0 0 2 17u 18n 0 0 2 17v 18l 0 0 2 17w 17x 0 0 2 17w 18l 0 0 2 17x 17w 0 " ++
  "0 2 17x 18l 0 0 2 17y 17w 0 0 2 17y 18l 0 0 2 183 17w 0 0 2 183 17x 0 0 2 183 17y 0 0 2 183 18l 0 0 2 " ++
  "185 17x 0 0 2 185 17y 0 0 2 185 18l 0 0 2 186 17w 0 0 2 186 17x 0 0 2 186 17y 0 0 2 186 18l 0 0 2 187 " ++
  "17x 0 0 2 188 18l 0 0 2 189 17w 0 0 2 189 18l 0 0 2 18a 17w 0 0 2 18a 18l 0 0 2 18h 17w 0 0 2 18h 17x 0 " ++
  "0 2 18h 17y 0 0 2 18h 18l 0 0 2 18i 17x 0 0 2 18i 18l 0 0 2 18j 17w 0 0 2 18j 17x 0 0 2 18j 17y 0 0 2 " ++
  "18j 18k 0 0 2 18j 18l 0 0 2 18k 17w 0 0 2 18k 17x 0 0 2 18k 17y 0 0 2 18k 18l 0 0 2 18k 18n 0 0 2 18l " ++
  "17w 0 0 2 18l 17x 0 0 2 18l 17y 0 0 2 18l 18l 0 0 2 18m 17w 0 0 2 18m 17x 0 0 2 18m 17y 0 0 2 18m 18l 0 " ++
  "0 2 18m 18n 0 0 2 18n 17w 0 0 2 18n 18l 0 0 2 18n 19s 0 0 2 18q 17w 0 0 2 18q 17x 0 0 2 18q 17y 0 0 2 " ++
  "18q 18l 0 0 2 18q 18n 0 0 2 17q 18l 0 0 2 17q 18n 0 0 2 17s 18l 0 0 2 17s 18n 0 0 2 17u 18l 0 0 2 17u " ++
  "18n 0 0 2 17v 18l 0 0 2 17v 18n 0 0 2 183 18l 0 0 2 183 18n 0 0 2 184 18l 0 0 2 184 18n 0 0 2 18j 18k 0 " ++
  "3 2 18j 18l 0 0 2 18m 18l 0 0 2 18m 18n 0 0 2 18q 18l 0 0 2 18q 18n 0 0 3 18g 18u 18x 0 0 3 18g 18v 18x " ++
  "0 0 3 18g 18w 18x 0 0 2 187 18p 0 0 2 187 18q 0 0 2 189 18p 0 0 2 189 18q 0 0 2 18a 18p 0 0 2 18a 18q 0 " ++
  "0 2 183 18p 0 0 2 183 18q 0 0 2 184 18p 0 0 2 184 18q 0 0 2 17x 18p 0 0 2 17x 18q 0 0 2 17w 18p 0 0 2 " ++
  "17w 18q 0 0 2 17y 18p 0 0 2 17y 18q 0 0 2 185 18p 0 0 2 185 18q 0 0 2 186 18p 0 0 2 186 18q 0 0 2 184 " ++
  "17w 0 0 2 184 17x 0 0 2 184 17y 0 0 2 184 18l 0 0 2 184 181 0 0 2 183 181 0 3 2 185 181 0 0 2 187 18p 0 " ++
  "0 2 187 18q 0 0 2 189 18p 0 0 2 189 18q 0 0 2 18a 18p 0 0 2 18a 18q 0 0 2 183 18p 0 0 2 183 18q 0 0 2 " ++
  "184 18p 0 0 2 184 18q 0 0 2 17x 18p 0 0 2 17x 18q 0 0 2 17w 18p 0 0 2 17w 18q 0 0 2 17y 18p 0 0 2 17y " ++
  "18q 0 0 2 185 18p 0 0 2 185 18q 0 0 2 186 18p 0 0 2 186 18q 0 0 2 184 17w 0 0 2 184 17x 0 0 2 184 17y 0 " ++
  "0 2 184 18l 0 0 2 184 181 0 0 2 183 181 0 3 2 185 181 0 0 2 184 17w 0 0 2 184 17x 0 0 2 184 17y 0 0 2 " ++
  "184 18l 0 3 2 183 18n 0 0 2 187 18l 0 0 2 183 17w 0 0 2 183 17x 0 0 2 183 17y 0 0 2 184 17w 0 0 2 184 " ++
  "17x 0 0 2 184 17y 0 3 2 187 18l 0 2 2 17r 18r i 0 3 17u 17w 18l 0 2 3 17u 17x 17w 0 0 3 17u 17x 18l 0 0 " ++
  "3 17u 17y 18l 0 0 3 17u 18l 17w 0 0 3 17u 18l 17x 0 0 3 17u 18l 17y 0 2 3 17w 18l 17x 0 0 3 17x 18l 18q " ++
  "0 0 3 17x 18l 18p 0 0 3 183 17x 17w 0 0 3 183 17w 17x 0 0 3 183 17w 18p 0 2 3 183 18l 17x 0 0 3 183 18l " ++
  "17w 0 2 3 183 18l 18l 0 2 3 185 17x 17x 0 0 3 185 18l 18l 0 2 3 184 17x 18l 0 0 3 184 17w 18q 0 2 3 184 " ++
  "18l 17y 0 2 3 184 18l 18l 0 0 3 186 17x 18p 0 2 3 186 17y 18l 0 2 3 187 18l 17x 0 0 3 187 18l 18l 0 0 3 " ++
  "187 18l 18q 0 0 3 189 17w 18l 0 2 3 189 18l 18l 0 0 3 189 18l 18p 0 0 3 18a 18l 18l 0 0 3 18a 18l 18q 0 " ++
  "0 3 18a 18l 18p 0 2 3 18h 17y 18l 0 0 3 18i 18l 17x 0 0 3 18i 18l 18l 0 0 3 18k 17x 18l 0 0 3 18k 17x " ++
  "18q 0 0 3 18k 17x 18p 0 2 3 18k 17w 17w 0 2 3 18k 17y 18l 0 2 3 18k 18l 17x 0 0 3 18l 17x 17w 0 0 3 18l " ++
  "17x 18l 0 0 3 18l 17x 18q 0 0 3 18l 17w 17x 0 0 3 18l 17w 18l 0 0 3 18l 17y 17w 0 0 3 18l 17y 18l 2 0 3 " ++
  "18l 17w 17y 0 0 3 18n 18l 17w 0 0 3 18n 18l 18l 0 0 3 18m 17x 18l 0 0 3 18m 17x 18p 0 2 3 18m 17w 18l 0 " ++
  "0 3 18m 17w 18p 0 0 3 18m 18l 18q 0 0 3 18m 18l 18p 0 2 3 18q 18l 18l 0 0 3 17s 17y 18q 0 0 3 17u 17w " ++
  "18q 0 0 3 17u 17w 18p 0 0 3 17u 17y 18q 0 0 3 17u 17y 18p 0 0 3 17u 18l 18q 0 0 3 17u 18l 18p 0 0 3 17w " ++
  "18l 18q 0 0 3 17w 17x 18p 0 0 3 17w 18l 18p 0 0 3 183 17y 18p 0 0 3 185 17x 18q 0 0 3 184 17x 18q 0 0 3 " ++
  "186 17x 18q 0 0 3 18k 17w 18q 0 0 3 18k 18l 18q 0 0 3 18q 17x 18q 0 0 3 18q 17w 18q 0 0 3 18q 18l 18q 0 " ++
  "0 3 18l 18l 18q 0 0 3 18i 18l 18q 0 0 3 18m 17x 18q 0 0 3 18i 18l 17x 0 0 3 18k 17x 18l 0 0 3 189 18l " ++
  "18q 0 0 3 18j 18l 18q 0 0 3 18m 17w 17x 0 0 3 18l 17y 18q 0 0 3 18k 17w 18l 0 0 3 18j 18l 18l 0 0 3 18k " ++
  "17w 18l 0 0 3 18m 17w 17x 0 0 3 17w 17x 18q 0 0 3 17x 17w 18q 0 0 3 18l 17w 18q 0 0 3 18h 18l 18q 0 0 3 " ++
  "17s 17x 18q 0 0 3 18j 18l 18l 0 0 3 189 17w 18l 0 0 3 185 18l 18l 0 0 3 183 17y 18q 0 0 3 18m 17w 18q " ++
  "14 0 3 185 18k 1ci 0 0 3 18i 18k 1ci 0 0 4 17r 18k 18k 18n 0 0 4 17r 18j 17s 181 0 0 4 18l 17x 18l 17z " ++
  "0 0 4 185 18k 189 18l 0 0 4 181 183 18o 18k 0 0 4 189 18k 18q 18n 0 0 4 18o 183 18k 18l 0 0 3 185 18k " ++
  "18p 0 0 i 185 18k 18p w 17r 18k 18k 18n w 189 18k 18q 18n w 18o 183 18k 18l 0 0 8 17w 18k w 17w 18k 17r " ++
  "18k 18n 0 0 4 181 1cc 17r 18k j 0 1 18 0 3 1 9hd 0 3 1 1m 0 0 1 x 0 0 1 1r 0 3 1 9hy 0 0 1 6cm m 0 1 " ++
  "6cl 0 0 1 6c4 0 0 1 6c3 0 2 1 2n 0 3 1 14 0 0 1 3f 0 0 1 3h 0 3 1 9hw 0 3 1 9hs 0 3 1 9hm 0 3 1 9hk 0 7 " ++
  "1 9ho 2 0 1 2j 0 0 1 2l 0 6 1 6da 0 4 1 2n 0 0 1 18 0 0 1 9hd 0 0 1 1a 1 0 1 1n 0 0 1 1m 0 0 1 1r 0 0 1 " ++
  "x 0 0 1 6c4 0 3 1 14 0 0 1 3f 0 0 1 3h 0 3 1 9hw 0 0 1 z 0 0 1 12 0 3 1 16 0 0 1 19 0 0 1 1o 0 0 1 1q 0 " ++
  "0 1 1p 1 0 1 2k 0 3 1 10 0 0 1 1s 4 0 2 w 18r 0 0 2 18g 18r 0 0 2 w 18s 1 0 2 w 18t 1 0 2 w 18u 0 0 2 " ++
  "18g 18u 0 0 2 w 18v 0 0 2 18g 18v 0 0 2 w 18w 0 0 2 18g 18w 0 0 2 w 18x 0 0 2 18g 18x 0 0 2 w 18y 0 0 2 " ++
  "18g 18y 0 3 1 17l 0 3 1 17m 0 3 1 17n 0 3 1 17o 0 3 1 17p 0 4 1 17q 0 2 1 17r 0 6 1 17s 0 2 1 17t 0 6 1 " ++
  "17u 0 6 1 17v 0 6 1 17w 0 6 1 17x 0 6 1 17y 0 2 1 17z 0 2 1 180 0 2 1 181 0 2 1 182 0 6 1 183 0 6 1 184 " ++
  "0 6 1 185 0 6 1 186 0 6 1 187 0 6 1 188 0 6 1 189 0 6 1 18a 0 6 1 18h 0 6 1 18i 0 6 1 18j 0 6 1 18k 0 6 " ++
  "1 18l 0 6 1 18m 0 6 1 18n 0 2 1 18o 0 2 1 18p 0 6 1 18q 0 2 2 18k 17m 0 2 2 18k 17n 0 2 2 18k 17p 0 2 2 " ++
  "18k 17r 4 57 1 x 0 3 1 879 0 0 1 9he 0 3 1 9ho 0 0 1 9hd 0 0 1 9ob 0 0 1 9o2 0 0 1 9lt 0 0 1 9lv 0 0 1 " ++
  "9lx 0 0 1 9lz 0 0 1 9m1 0 0 1 9nn 0 0 1 9np 0 0 1 9nr 0 0 1 9mr 0 0 1 9oc 0 0 1 9lu 0 0 1 9lw 0 0 1 9ly " ++
  "0 0 1 9m0 0 3 1 9m2 0 0 1 9m5 0 0 1 9m7 0 0 1 9m9 0 0 1 9mb 0 0 1 9md 0 0 1 9mf 0 0 1 9mh 0 0 1 9mj 0 0 " ++
  "1 9ml 0 0 1 9mn 0 0 1 9mp 0 0 1 9ms 0 0 1 9mu 0 0 1 9mw 0 b 1 9my 0 0 1 9n6 0 0 1 9n9 0 0 1 9nc 0 0 1 " ++
  "9nf 0 9 1 9ni 0 0 1 9no 0 0 1 9nq 0 b 1 9ns 0 0 1 9nz 0 0 1 9o3 0 3 1 9ll 0 0 1 9r8 0 1n 1 9pt 3 b 1 " ++
  "9qn 2 b 1 9qt 2 b 1 9qz 2 5 1 9r5 3 3 1 4i 0 0 1 4s 0 0 1 4v 0 0 1 4m 0 0 1 4l 0 0 1 6g9 1 0 1 7b6 0 7 " ++
  "1 6mo 0 0 1 7fk 0 0 1 7gr 1hu 3 1 k0 0 0 1 6e 0 0 1 ih 0 0 1 gj 1 0 1 ir 0 0 1 xuu 0 0 1 it 0 0 1 is 0 " ++
  "3 1 gm 0 0 1 5u9 0 0 1 go 0 0 1 gu 0 0 1 ix 0 0 1 h0 0 0 1 gy 0 0 1 gw 0 0 1 ij 0 0 1 87 0 0 1 ik 0 0 1 " ++
  "h3 0 0 1 hw 0 3 1 iy 0 0 1 h8 0 0 1 2mmc 0 0 1 x3i 0 0 1 ha 0 0 1 2mmd 0 0 1 i6 0 0 1 2mme 0 0 1 6w 0 3 " ++
  "1 hi 0 0 1 35 0 0 1 hm 0 0 1 2mmg 0 3 1 hp 0 0 1 hs 0 0 1 iw 0 0 1 iu 0 0 1 xuv 0 0 1 iv 0 0 1 i0 0 0 1 " ++
  "8s1 1 0 1 i7 0 3 1 ip 0 0 1 ig 0 5 1 cg 0 0 1 2mmi 0 0 1 2mn2 14cl 1f 1 1t 0 1f 1 2p 0 1f 1 1t 0 d 1 2p " ++
  "1 z 1 2x 0 1f 1 1t 0 1f 1 2p 0 0 1 1t 1 3 1 1v 2 0 1 1z 2 3 1 22 2 7 1 26 1 f 1 2b 0 7 1 2p 1 0 1 2u 1 " ++
  "d 1 2w 1 l 1 34 0 1f 1 1t 0 1f 1 2p 0 3 1 1t 1 7 1 1w 2 f 1 22 1 d 1 2b 1 1f 1 2p 0 3 1 1t 1 7 1 1w 1 9 " ++
  "1 21 1 0 1 27 3 d 1 2b 1 1f 1 2p 0 1f 1 1t 0 1f 1 2p 0 1f 1 1t 0 1f 1 2p 0 1f 1 1t 0 1f 1 2p 0 1f 1 1t " ++
  "0 1f 1 2p 0 1f 1 1t 0 1f 1 2p 0 1f 1 1t 0 1f 1 2p 0 0 1 8h 0 0 1 fr 2 x 1 pd 0 0 1 s4 0 d 1 pv 0 0 1 " ++
  "6pz 0 1d 1 q9 0 0 1 6pu 0 0 1 s5 0 0 1 r5 0 0 1 s0 0 0 1 r9 0 0 1 s1 0 0 1 ra 0 x 1 pd 0 0 1 s4 0 d 1 " ++
  "pv 0 0 1 6pz 0 1d 1 q9 0 0 1 6pu 0 0 1 s5 0 0 1 r5 0 0 1 s0 0 0 1 r9 0 0 1 s1 0 0 1 ra 0 x 1 pd 0 0 1 " ++
  "s4 0 d 1 pv 0 0 1 6pz 0 1d 1 q9 0 0 1 6pu 0 0 1 s5 0 0 1 r5 0 0 1 s0 0 0 1 r9 0 0 1 s1 0 0 1 ra 0 x 1 " ++
  "pd 0 0 1 s4 0 d 1 pv 0 0 1 6pz 0 1d 1 q9 0 0 1 6pu 0 0 1 s5 0 0 1 r5 0 0 1 s0 0 0 1 r9 0 0 1 s1 0 0 1 " ++
  "ra 0 x 1 pd 0 0 1 s4 0 d 1 pv 0 0 1 6pz 0 1d 1 q9 0 0 1 6pu 0 0 1 s5 0 0 1 r5 0 0 1 s0 0 0 1 r9 0 0 1 " ++
  "s1 0 0 1 ra 0 3 1 rg 2 j 1 1c 0 j 1 1c 0 j 1 1c 0 j 1 1c 0 j 1 1c 4cg 3 1 17r 0 0 1 17w 0 0 1 17z 1 0 1 " ++
  "18o 0 0 1 182 0 0 1 17x 0 0 1 187 0 0 1 18q 0 7 1 18j 0 0 1 183 0 0 1 189 0 0 1 18h 0 0 1 185 0 0 1 18i " ++
  "0 0 1 181 0 0 1 184 0 3 1 17u 0 0 1 17y 0 0 1 180 0 0 1 186 0 0 1 188 0 0 1 18a 0 0 1 19q 0 0 1 1bu 0 0 " ++
  "1 1b5 0 0 1 19r 1 0 1 17s 0 0 1 17w 1 0 1 18n 2 0 1 17x 1 0 1 18q 0 7 1 18j 0 0 1 183 0 0 1 189 0 0 1 " ++
  "18h 0 0 1 185 0 0 1 18i 1 0 1 184 0 3 1 17u 0 0 1 17y 1 0 1 186 1 0 1 18a 6 0 1 17w 4 0 1 17x 1 0 1 18q " ++
  "1 0 1 18k 1 0 1 18m 0 0 1 183 0 0 1 189 1 0 1 185 0 0 1 18i 1 0 1 184 2 0 1 17y 1 0 1 186 1 0 1 18a 1 0 " ++
  "1 1bu 1 0 1 19r 1 0 1 17s 0 0 1 17w 1 0 1 18n 2 0 1 17x 0 0 1 187 0 0 1 18q 0 0 1 18j 1 3 1 18l 0 0 1 " ++
  "183 0 0 1 189 0 0 1 18h 0 0 1 185 0 0 1 18i 1 0 1 184 0 3 1 17u 0 0 1 17y 1 0 1 186 0 0 1 188 0 0 1 18a " ++
  "0 0 1 19q 1 0 1 1b5 1 3 1 17r 0 0 1 17w 0 0 1 17z 0 3 1 18n 0 0 1 182 0 0 1 17x 0 0 1 187 0 0 1 18q 1 5 " ++
  "1 18k 0 0 1 183 0 0 1 189 0 0 1 18h 0 0 1 185 0 0 1 18i 0 0 1 181 0 0 1 184 0 3 1 17u 0 0 1 17y 0 0 1 " ++
  "180 0 0 1 186 0 0 1 188 0 0 1 18a 5 0 1 17s 0 0 1 17w 0 0 1 17z 1 0 1 18o 0 0 1 182 0 0 1 17x 0 0 1 187 " ++
  "0 0 1 18q 1 5 1 18k 0 0 1 183 0 0 1 189 0 0 1 18h 0 0 1 185 0 0 1 18i 0 0 1 181 0 0 1 184 0 3 1 17u 0 0 " ++
  "1 17y 0 0 1 180 0 0 1 186 0 0 1 188 0 0 1 18a g4 0 2 1c 1a 0 j 2 1c 18 5 0 3 14 1t 15 0 0 3 14 1u 15 0 " ++
  "0 3 14 1v 15 0 0 3 14 1w 15 0 0 3 14 1x 15 0 0 3 14 1y 15 0 0 3 14 1z 15 0 0 3 14 20 15 0 0 3 14 21 15 " ++
  "0 0 3 14 22 15 0 0 3 14 23 15 0 0 3 14 24 15 0 0 3 14 25 15 0 0 3 14 26 15 0 0 3 14 27 15 0 0 3 14 28 " ++
  "15 0 0 3 14 29 15 0 0 3 14 2a 15 0 0 3 14 2b 15 0 0 3 14 2c 15 0 0 3 14 2d 15 0 0 3 14 2e 15 0 0 3 14 " ++
  "2f 15 0 0 3 14 2g 15 0 0 3 14 2h 15 0 0 3 14 2i 15 0 0 3 9hw 2b 9hx 0 0 1 1v 0 0 1 2a 0 0 2 1v 1w 0 0 2 " ++
  "2f 2i 1 1f 1 1t 0 0 2 20 2e 0 0 2 25 2e 0 0 2 2b 1w 0 0 2 2b 2b 0 0 3 28 28 2e 0 0 2 2f 1v q 0 2 25 1v " ++
  "0 0 2 25 1w 0 0 2 25 2a z 0 2 1w 22 33 0 2 9kr 9jf 0 0 2 9mb 9mb 0 0 1 9md d 0 1 jez 0 0 1 i1j 0 0 1 " ++
  "gjw 0 0 1 9mv 0 0 1 fik 0 0 1 hlm 0 0 1 r8j 0 0 1 hm1 0 0 1 fj8 0 0 1 k68 0 0 1 mch 0 0 1 k2h 0 0 1 g99 " ++
  "0 0 1 ivg 0 0 1 g3x 0 0 1 k34 0 0 1 g7x 0 0 1 oqq 0 0 1 n4v 0 0 1 rs9 0 0 1 hkg 0 0 1 gmx 0 0 1 lxw 0 0 " ++
  "1 jh1 0 0 1 jmd 0 0 1 feo 0 0 1 fex 0 0 1 si2 0 0 1 ijq 0 0 1 ffx 0 0 1 gkz 0 0 1 jk7 0 0 1 rxs 0 0 1 " ++
  "jf7 0 0 1 o01 0 0 1 o6y 0 0 1 glk 0 0 1 lts 0 0 1 kcp 0 0 1 kco 0 0 1 n5f 0 0 1 gaa 0 0 1 gxi 0 0 1 sp9 " ++
  "4 0 3 9hw kdo 9hx 0 0 3 9hw fex 9hx 0 0 3 9hw fik 9hx 0 0 3 9hw i2x 9hx 0 0 3 9hw m9l 9hx 0 0 3 9hw jf7 " ++
  "9hx 0 0 3 9hw nh3 9hx 0 0 3 9hw gd9 9hx 0 0 3 9hw k0n 9hx 7 0 1 ivr 0 0 1 gkv 1we j 1 1c "))

def combiningRuns : List (Nat × Nat × Nat) := classRuns 0 (CharacterRuns.numbers (
  "lc k 6e 0 0 6g 0 3 64 0 0 6g 0 0 60 0 4 64 0 1 5m 0 3 64 0 1 5m 0 a 64 0 4 1 0 3 64 0 7 6e 0 0 6o 0 0 " ++
  "6e 0 2 64 0 2 6e 0 1 64 1 2 6e 0 3 64 0 0 6e 0 0 6g 0 1 64 0 0 6e 0 0 6h 0 1 6i 0 0 6h 0 1 6i 0 0 6h 0 " ++
  "c 6e 7n 4 6e 7d 0 64 0 3 6e 0 0 64 0 2 6e 0 0 66 0 0 64 0 5 6e 0 5 64 0 1 6e 0 0 64 0 1 6e 0 0 66 0 0 " ++
  "6c 0 0 6e 0 0 a 0 0 b 0 0 c 0 0 d 0 0 e 0 0 f 0 0 g 0 0 h 0 0 i 0 1 j 0 0 k 0 0 l 0 0 m 1 0 n 1 0 o 0 0 " ++
  "p 1 0 6e 0 0 64 1 0 i 20 7 6e 0 0 u 0 0 v 0 0 w 1c 0 r 0 0 s 0 0 t 0 0 u 0 0 v 0 0 w 0 0 x 0 0 y 0 1 6e " ++
  "0 1 64 0 4 6e 0 0 64 0 1 6e 0 0 64 g 0 z 2t 6 6e 2 3 6e 0 0 64 0 0 6e 2 1 6e 1 0 64 0 1 6e 0 0 64 z 0 " ++
  "10 u 0 6e 0 0 64 0 1 6e 0 0 64 0 1 6e 0 2 64 0 0 6e 0 1 64 0 0 6e 0 0 64 0 2 6e 0 0 64 0 0 6e 0 0 64 0 " ++
  "0 6e 0 0 64 0 0 6e 0 0 64 0 1 6e 4g 6 6e 0 0 64 0 0 6e 9 0 64 o 3 6e 1 8 6e 1 2 6e 1 4 6e 17 2 64 1o 0 " ++
  "6e 0 2 64 0 3 6e 16 4 6e 0 4 64 0 d 6e 1 0 64 0 1 6e 0 0 64 0 1 6e 0 0 64 0 2 6e 0 2 64 0 0 r 0 0 s 0 0 " ++
  "t 0 2 6e 0 0 64 0 1 6e 0 1 64 0 4 6e 1o 0 7 g 0 9 3 0 6e 0 0 64 0 1 6e 2v 0 7 g 0 9 1c 0 6e 1p 0 7 g 0 " ++
  "9 32 0 7 g 0 9 32 0 7 g 0 9 3j 0 9 32 0 7 g 0 9 7 0 2c 0 0 2j 2t 0 7 g 0 9 31 1 9 g 0 9 3g 0 9 31 1 2v " ++
  "0 0 9 d 3 2z 30 1 3a 0 0 9 d 3 3e 24 1 64 r 0 64 1 0 64 1 0 60 1j 0 3l 0 0 3m 1 0 3o 5 3 3m 2 0 3m 1 1 " ++
  "6e 0 0 9 1 1 6e 1q 0 64 34 0 7 1 1 9 2a 0 64 jz 2 6e qc 1 9 u 0 9 4d 0 9 a 0 6e 5n 0 6c 3z 0 66 0 0 6e " ++
  "0 0 64 63 0 6e 0 0 64 1z 0 9 k 7 6e 2 0 64 1c 4 6e 0 5 64 0 1 6e 0 0 64 1 1 64 0 1 6e 0 1 64 0 4 6e 0 0 " ++
  "64 0 3 6e 2t 0 7 f 0 9 12 0 6e 0 0 64 0 6 6e 1i 1 9 1m 0 7 b 1 9 1v 0 7 48 2 6e 1 0 1 0 4 64 0 1 6e 0 3 " ++
  "64 0 0 6e 1 6 1 4 0 64 6 0 6e 3 1 6e 5i 1 6e 0 0 64 0 6 6e 0 0 64 0 1 6e 0 0 6i 0 0 5y 0 0 64 0 0 5m 0 " ++
  "10 6e 0 0 6g 0 1 6c 0 0 64 0 0 62 0 0 6e 0 0 6h 0 0 64 0 0 6e 0 0 64 k0 1 6e 0 1 1 0 3 6e 0 2 1 0 1 6e " ++
  "4 0 6e 3 1 1 0 0 6e 0 0 64 0 0 6e 0 1 1 0 3 64 0 0 6e 2da 2 6e 3x 0 9 2o v 6e fe 0 62 0 0 6c 0 0 6g 0 0 " ++
  "66 0 1 68 2x 1 8 n9w 0 6e 4 9 6e w 1 6e 28 1 6e 7o 0 9 11 0 9 47 0 9 r h 6e 1l 2 64 11 0 9 2n 0 7 c 0 9 " ++
  "6n 0 6e 1 1 6e 0 0 64 2 1 6e 5 1 6e 1 0 6e 1g 0 9 6u 0 9 fn4 0 q ld 6 6e 0 6 64 0 1 6e r1 0 64 6a 0 64 " ++
  "45 4 6e 1aq 0 64 1 0 6e 14 0 6e 0 0 1 0 0 64 4 0 9 4l 0 6e 0 0 64 fx 3 6e ar 1 6e 49 1 64 0 2 6e 0 0 64 " ++
  "0 0 6e 0 3 64 1d 0 6e 0 0 64 0 0 6e 0 0 64 5c 0 9 15 0 9 e 0 9 1l 0 9 0 0 7 1x 2 6e 1c 1 9 1q 0 7 24 0 " ++
  "9 9 0 7 2y 0 9 0 0 7 4y 0 7 0 0 9 28 1 7 g 0 9 o 6 6e 3 4 6e 5p 0 9 3 0 7 n 0 6e 2r 0 9 0 0 7 6z 0 9 0 " ++
  "0 7 3i 0 9 3a 0 9 0 0 7 37 0 9 7h 0 9 0 0 7 76 1 9 4 0 7 4c 0 9 2b 0 9 i 0 9 29 0 9 bp 0 9 76 0 7 1 1 9 " ++
  "29 0 9 fa0 4 1 1n 6 6e xl 1 6 f58 0 1 43q 1 60 0 2 1 3 0 6a 0 4 60 8 7 64 2 4 6e 0 1 64 u 3 6e 44 2 6e " ++
  "2pn 6 6e 1 g 6e 2 6 6e 1 1 6e 1 4 6e 79 6 6e af 0 6e 1p 3 6e 15s 6 64 31 5 6e 0 0 7 "))

def neverComposed : List Nat := sums 0 (CharacterRuns.numbers (
  "n8 178 1 1 1 1 1 1 1 3h 1 2 2c 3 z 1 1 3 72 1 rq a 5 5 5 d a 2 1 2 9 i a 5 5 5 d 5cz 154x 2 b 1 1 1 1 1 " ++
  "1 1 1 1 1 1 1 2 1 1 1 1 2 2 1 2 1 2 1 1 1 1 1 1 1 1 16a8 1 1 1 1 1 1 2f 1 1 1 1 1 "))

end Embedding
