import Embedding.Text.Decomposition
import Embedding.Text.Units

namespace Embedding

/-- The order of a combining character among its neighbours; zero for those that do not combine. -/
def combiningClass (n : Nat) : Nat :=
  match combiningRuns.find? fun r => r.1 ≤ n && n ≤ r.2.1 with
  | some (_, _, k) => k
  | none => 0

namespace Hangul

def syllable : Nat := 0xAC00

def lead : Nat := 0x1100

def vowel : Nat := 0x1161

def trail : Nat := 0x11A7

def isSyllable (n : Nat) : Bool := syllable ≤ n && n < syllable + 11172

def parts (n : Nat) : List Nat :=
  let i := n - syllable
  let t := i % 28
  [lead + i / 588, vowel + i % 588 / 28] ++ (if t = 0 then [] else [trail + t])

def compose? (a b : Nat) : Option Nat :=
  if lead ≤ a && a < lead + 19 && vowel ≤ b && b < vowel + 21 then
    some (syllable + ((a - lead) * 21 + (b - vowel)) * 28)
  else if isSyllable a && (a - syllable) % 28 == 0 && trail < b && b < trail + 28 then some (a + (b - trail))
  else none

end Hangul

/-- Decomposes a character as far as it goes; no character needs as many rounds as there is fuel. -/
def decompose (compatible : Bool) : Nat → Nat → List Nat
  | 0, n => [n]
  | fuel + 1, n =>
    if n < 0xA0 then [n]
    else if Hangul.isSyllable n then Hangul.parts n
    else
      match DecompositionRun.find? canonicalRuns n with
      | some ts => ts.flatMap (decompose compatible fuel)
      | none =>
        if compatible then
          match DecompositionRun.find? compatibleRuns n with
          | some ts => ts.flatMap (decompose compatible fuel)
          | none => [n]
        else [n]

/-- Sorts each run of combining characters by class; equal classes keep their order. -/
def orderCombining : List (Nat × Nat) → List (Nat × Nat) → List Nat
  | pending, [] => flush pending
  | pending, (n, 0) :: rest => flush pending ++ n :: orderCombining [] rest
  | pending, x :: rest => orderCombining (x :: pending) rest
where
  flush (pending : List (Nat × Nat)) : List Nat :=
    (pending.reverse.mergeSort fun a b => a.2 ≤ b.2).map (·.1)

def compositions : List ((Nat × Nat) × Nat) :=
  canonicalRuns.toList.flatMap fun r =>
    match r.targets with
    | [a, b] =>
      ((List.range r.count).map fun i => ((if r.moves then a + i else a, b), r.first + i)).filter fun e =>
        !neverComposed.contains e.2
    | _ => []

def composePair? (a b : Nat) : Option Nat :=
  match Hangul.compose? a b with
  | some n => some n
  | none => compositions.lookup (a, b)

/-- Joins characters with the last one that does not combine, unless something stands between. -/
def composeOnto (starter : Nat) (between : List (Nat × Nat)) : List (Nat × Nat) → List Nat
  | [] => starter :: between.reverse.map (·.1)
  | (n, k) :: rest =>
    let blocked : Bool := match between with
      | (_, last) :: _ => k ≤ last
      | [] => false
    match if blocked then none else composePair? starter n with
    | some joined => composeOnto joined between rest
    | none =>
      if k = 0 then starter :: between.reverse.map (·.1) ++ composeOnto n [] rest
      else composeOnto starter ((n, k) :: between) rest

def composeAll : List (Nat × Nat) → List Nat
  | [] => []
  | (n, 0) :: rest => composeOnto n [] rest
  | (n, _ + 1) :: rest => n :: composeAll rest

def withClasses (ns : List Nat) : List (Nat × Nat) := ns.map fun n => (n, combiningClass n)

namespace Text

/-- The normal form of a text, decomposed or composed, with or without compatible characters told
apart. -/
def normalize (compatible composed : Bool) (t : Text) : Text :=
  let parts := t.codePoints.flatMap (decompose compatible 32)
  let ordered := orderCombining [] (withClasses parts)
  let result := if composed then composeAll (withClasses ordered) else ordered
  ⟨(result.flatMap unitsOfCodePoint).toArray⟩

end Text

end Embedding
