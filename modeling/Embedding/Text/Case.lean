import Embedding.Text.Letters
import Embedding.Text.Units

namespace Embedding

/-- Characters from `first` on, `stride` apart, that lie `shift` from their other case. -/
structure CaseRun where
  first : Nat
  count : Nat
  stride : Nat
  shift : Int

def caseRuns (previous : Nat) : List Nat → List CaseRun
  | gap :: size :: shift :: rest =>
    let first := previous + gap
    ⟨first, size / 2, size % 2 + 1, if shift % 2 = 0 then shift / 2 else -(shift / 2 : Nat)⟩ ::
      caseRuns first rest
  | _ => []

def caseExpansions (previous : Nat) : List Nat → List (Nat × List Nat)
  | gap :: a :: b :: c :: rest =>
    (previous + gap, [a, b, c].filter (· != 0)) :: caseExpansions (previous + gap) rest
  | _ => []

def upperRuns : List CaseRun := caseRuns 0 (CharacterRuns.numbers (
  "51 2 15a 17 1a 1t o e 1t 7 2 6q 2 1d 3 1c 2 cx 2 7 3 7 h 3 h 1b 3 1b 7 3 5 2 gp 1 2 au 3 5 " ++
  "3 5 2 3 4 2 3 6 2 3 3 2 5e 4 2 3 1 2 92 4 2 78 3 7 3 7 2 3 5 2 3 3 2 3 4 5 3 5 2 3 4 2 3 2 " ++
  "2 34 6 2 3 1 2 5 2 2 3 1 2 5 2 2 3 1 2 5 2 h 3 f 2 4f 2 j 3 j 2 3 1 2 5 2 2 3 4 15 3 16 j 3 " ++
  "p 2 3 3 4 gou 3 2 3 5 b 3 9 2 gn2 1 2 gmw 1 2 gn0 1 2 bp 1 2 bh 2 4 bf 3 2 b9 2 2 bb 1 2 " ++
  "1tb2 4 2 bf 1 2 1tau 2 2 bj 2 2 1t8w 1 2 1tag 2 2 bn 1 2 br 1 2 1tag 1 2 gku 1 2 1taa 3 2 " ++
  "br 2 2 gl6 1 2 bv 3 2 bx 8 2 gjy 3 2 c5 2 2 1tae 1 2 c5 4 2 1t90 1 2 c5 1 2 3v 1 4 c3 2 2 " ++
  "3z 6 2 c7 b 2 1t7u 1 2 1t7o 4n 2 4o 18 5 3 6 2 3 4 6 78 1d 2 25 1 6 23 4 y 1t h 2 1r 1 i 1t " ++
  "9 2 3l 1 4 3j 3 2 3h 1 2 37 4 2 2n 1 2 31 1 2 h 2 p 3 n 2 4t 1 2 4h 1 2 e 1 2 6h 2 2 5d 3 2 " ++
  "3 3 2 3 1h 1s 1t w w 4h h z 3 16 1j 3 1j f 3 d 2 v 2 2p 3 40 24 2p 29b 2e 4n4 19 6 4n4 l7 c " ++
  "h 1oo 2 9nh 1 2 9nf 1 2 9mx 1 4 9mt 2 2 9mv 1 2 9mh 1 2 9jf 1 2 1if8 6p 2 1iiw 4 2 5vw h 2 " ++
  "1ils 37 47 3 4a 2 3b 6 2p 3 2n g g g c g g g g g g g g c g h 9 g f g g g 4 44 2 8 4s 4 4 5k " ++
  "2 4 74 2 4 68 2 4 70 1g 4 g e 2 b4b i 4 g g 4 g 5 2 e a1 2 1l y w x k 2 3 ng 1g 1h 1gg 2o " ++
  "2p 1d 2 3 4 2 gnr 1 2 gnl 2 7 3 b 2 3 3 2 3 b 2t 3 2z 5 3 7 2 3 d 24 b7l 13 2 b7l 6 2 b7l " ++
  "nx0 1b 3 1s t 3 4i f 3 g 1r 3 1z 5 3 5 b 3 d 2 3 5 5 3 3 2 2o 3 l 3 u h 3 j 5 3 9 2 3 6 5 3 " ++
  "v 2 3 nx 2 1fl t 4g 1nz5 gk1 1g 1t yv 28 29 4w 20 29 5b 13 27 1 b 27 c f 27 g 7 27 8 2 27 " ++
  "1dw 2u 3l 2dc 1s 1t gww 1s 1t o8y 1w 1x "
  ))

def lowerRuns : List CaseRun := caseRuns 0 (CharacterRuns.numbers (
  "5c 1a 1s o e 1s 14 1d 2 1e 7 2 7 h 2 h 1b 2 1a 2 6r 1 7 2 8 2 bo 1 5 2 4 2 bg 1 2 2 2 4 be " ++
  "2 2 2 3 2 4e 1 2 b8 1 2 ba 1 2 2 2 2 be 1 2 bi 2 2 bq 1 2 bm 1 2 2 4 2 bq 1 2 bu 2 2 bw 1 7 " ++
  "2 6 2 c4 1 2 2 2 2 c4 3 2 2 2 2 c4 1 2 2 2 4 c2 2 5 2 4 2 c6 1 2 2 4 2 2 8 2 4 1 2 2 2 2 4 " ++
  "1 2 2 2 2 4 1 j 2 j j 2 j 2 4 1 5 2 4 2 5f 1 2 35 1 15 2 14 2 79 2 j 2 o 2 gnq 1 2 2 2 2 93 " ++
  "1 2 gnk 3 2 2 2 2 av 1 2 3u 1 2 3y 1 b 2 8a 5 2 6 2 2 9 2 6g 7 2 24 2 6 22 4 2 3k 2 4 3i 3 " ++
  "y 1s i i 1s 18 2 g 9 p 2 s 2 3d 3 2 2 2 2 f 1 2 2 3 6 79 3 w 4g g 1s 1s 28 z 2 16 1j 2 1i 2 " ++
  "u 1 f 2 f 2p 2 2p 24 2o 29b 24 b7k 13 2 b7k 6 2 b7k k3 4g 1nz4 28 c g 1pc 2e 4n5 19 6 4n5 " ++
  "8z 47 2 4e 2 br3 2 2p 2 2w g h g c h g g h g g h g c h h 9 h f g h w g h g g h g g h g 4 h " ++
  "2 4 45 2 2 j c 8 4t 4 2 j c 4 h 2 4 5l e 4 h 2 4 69 2 2 f c 4 75 2 4 71 2 2 j 8a 2 bln 4 2 " ++
  "cxr 1 2 cr1 7 2 1k 1a w w z 2 2 mr 1g 1g 1fu 2o 2o 2o 2 2 2 2 gkv 1 2 5vx 1 2 gjz 3 7 2 6 2 " ++
  "gmx 1 2 gl7 1 2 gn3 1 2 gn1 2 2 2 3 2 2 9 4 gov 2 2t 2 2z 5 2 7 2 2 nym 1b 2 1s t 2 4i f 2 " ++
  "g 1r 2 1z 5 2 4 2 1iix 1 b 2 d 2 2 2 2 1t8x 3 5 2 6 l 2 k 2 1tah 1 2 1tb3 1 2 1tav 1 2 1tab " ++
  "1 2 1tah 2 2 1t7p 1 2 1t91 1 2 1t7v 1 2 1fk 1 h 2 g 2 2p 1 2 1taf 1 2 1ilt 1 5 2 9 2 2 6 5 " ++
  "2 v 2 2 h7w 1g 1s yn 28 28 4w 20 28 5c 13 26 1 b 26 c f 26 g 7 26 8 2 26 1d7 2u 3k 2e8 1s " ++
  "1s gww 1s 1s o8w 1w 1w "
  ))

def upperExpansions : List (Nat × List Nat) := caseExpansions 0 (CharacterRuns.numbers (
  "67 2b 2b 0 2y jg 26 0 4n 22 lo 0 bk pl lk ld w px lk ld d3 111 11u 0 4y7 20 mp 0 1 2c lk 0 " ++
  "1 2f lm 0 1 2h lm 0 1 1t ji 0 52 px lv 0 2 px lv lc 2 px lv ld 2 px lv n6 16 64o pl 0 1 64p " ++
  "pl 0 1 64q pl 0 1 64r pl 0 1 64s pl 0 1 64t pl 0 1 64u pl 0 1 64v pl 0 1 64o pl 0 1 64p pl " ++
  "0 1 64q pl 0 1 64r pl 0 1 64s pl 0 1 64t pl 0 1 64u pl 0 1 64v pl 0 1 65k pl 0 1 65l pl 0 1 " ++
  "65m pl 0 1 65n pl 0 1 65o pl 0 1 65p pl 0 1 65q pl 0 1 65r pl 0 1 65k pl 0 1 65l pl 0 1 65m " ++
  "pl 0 1 65n pl 0 1 65o pl 0 1 65p pl 0 1 65q pl 0 1 65r pl 0 1 67c pl 0 1 67d pl 0 1 67e pl " ++
  "0 1 67f pl 0 1 67g pl 0 1 67h pl 0 1 67i pl 0 1 67j pl 0 1 67c pl 0 1 67d pl 0 1 67e pl 0 1 " ++
  "67f pl 0 1 67g pl 0 1 67h pl 0 1 67i pl 0 1 67j pl 0 3 69m pl 0 1 pd pl 0 1 p2 pl 0 2 pd n6 " ++
  "0 1 pd n6 pl 5 pd pl 0 6 6a2 pl 0 1 pj pl 0 1 p5 pl 0 2 pj n6 0 1 pj n6 pl 5 pj pl 0 6 pl " ++
  "lk lc 1 pl lk ld 3 pl n6 0 1 pl lk n6 b px lk lc 1 px lk ld 1 pt lv 0 2 px n6 0 1 px lk n6 " ++
  "b 6be pl 0 1 q1 pl 0 1 pb pl 0 2 q1 n6 0 1 q1 n6 pl 5 q1 pl 0 179g 1y 1y 0 1 1y 21 0 1 1y " ++
  "24 0 1 1y 1y 21 1 1y 1y 24 1 2b 2c 0 1 2b 2c 0 d 11g 11i 0 1 11g 111 0 1 11g 117 0 1 11q " ++
  "11i 0 1 11g 119 0 "
  ))

def shiftCase (runs : List CaseRun) (n : Nat) : Nat :=
  match runs.find? fun r =>
      r.first ≤ n && (n - r.first) % r.stride == 0 && (n - r.first) / r.stride < r.count with
  | some r => ((n : Int) + r.shift).toNat
  | none => n

def upperCase (n : Nat) : List Nat :=
  if n < 128 then [if 97 ≤ n && n ≤ 122 then n - 32 else n]
  else
    match upperExpansions.lookup n with
    | some l => l
    | none => [shiftCase upperRuns n]

def lowerCase (n : Nat) : List Nat :=
  if n < 128 then [if 65 ≤ n && n ≤ 90 then n + 32 else n]
  else if n = 0x130 then [0x69, 0x307]
  else [shiftCase lowerRuns n]

/-- The form in which letters are compared without regard to case: the upper case where it is one
character. A letter beyond ASCII does not become an ASCII one. -/
def foldCase (n : Nat) : Nat :=
  match upperCase n with
  | [m] => if 128 ≤ n && m < 128 then n else m
  | _ => n

namespace Text

def mapCodePoints (f : Nat → List Nat) (t : Text) : Text :=
  ⟨(t.codePoints.flatMap fun n => (f n).flatMap unitsOfCodePoint).toArray⟩

def toUpper (t : Text) : Text := t.mapCodePoints upperCase

/-- Whether a sigma at the end of these letters ends a word; they are read backwards. -/
def precededByLetter : List Nat → Bool
  | n :: _ => n != 0x27 && isNameStart n
  | [] => false

/-- Lower case; a sigma behind a letter and before none takes its final form. -/
def toLower (t : Text) : Text := ⟨(go [] t.codePoints).toArray⟩
where
  go (before : List Nat) : List Nat → List UInt16
    | [] => []
    | n :: rest =>
      let final := n == 0x3A3 && precededByLetter before && !precededByLetter rest
      (if final then unitsOfCodePoint 0x3C2 else (lowerCase n).flatMap unitsOfCodePoint) ++
        go (n :: before) rest

end Text

end Embedding
