import Embedding.Guest.Bridge.OfNative
import Embedding.Guest.Bridge.ToNative
import Embedding.Proofs.Doubles
import Embedding.Proofs.Texts

namespace Embedding

namespace Native

/-- The guest form of a host value, if that is not an object. -/
def primitive? : Native → Option Guest.Value
  | .null | .unmapped => some .null
  | .bool b => some (.bool b)
  | .int n => some (.ofInt n.toInt)
  | .float d => some (.number (if d.isNaN then Double.nan else d))
  | .bigint n => some (.bigint n)
  | .string s => some (.text (Text.ofString s))
  | .array _ | .bytes _ | .typed .. | .map _ | .set _ | .date _ | .function _ => none

/-- Whether a guest set takes two host values for one element. Each object is made anew and equal to no other. -/
def sameElement (a b : Native) : Bool :=
  match a.primitive?, b.primitive? with
  | some x, some y => Guest.Act.sameValueZero x y
  | _, _ => false

def isNegativeZero : Native → Bool
  | .float d => d.isNegativeZero
  | _ => false

/-- Floats without a fraction become integers, except for negative zero and those too large. -/
def normFloat (d : Double) : Native :=
  match d.toInt? with
  | some n => if n.natAbs < 2 ^ 53 ∧ d.isNegativeZero = false then .int (Int64.ofInt n) else .float d
  | none => .float (if d.isNaN then Double.nan else d)

mutual

/-- What a host value is after a round trip through the guest. -/
def norm : Native → Native
  | .int n => if n.toInt.natAbs < 2 ^ 53 then .int n else .float (Double.ofInt n.toInt)
  | .float d => normFloat d
  | .array items => .array (normItems items)
  | .map entries => .map (normEntries entries)
  | .set items => .set (normElements [] items)
  | .date i => .date ⟨i.seconds, i.nanoseconds / 1000000 * 1000000⟩
  | .function _ => .unmapped
  | .unmapped => .null
  | .null => .null
  | .bool b => .bool b
  | .bigint n => .bigint n
  | .string s => .string s
  | .bytes data => .bytes data
  | .typed t xs => .typed t xs

def normItems : List Native → List Native
  | [] => []
  | x :: xs => x.norm :: normItems xs

def normEntries : List (String × Native) → List (String × Native)
  | [] => []
  | (k, x) :: rest => (k, x.norm) :: normEntries rest

/-- The elements that a set keeps, in their order, after some that it has already. It keeps negative zero as zero. -/
def normElements (seen : List Native) : List Native → List Native
  | [] => []
  | x :: xs =>
    if seen.any (·.sameElement x) then normElements seen xs
    else (if x.isNegativeZero then .int 0 else x.norm) :: normElements (x :: seen) xs

end

/-- Whether a host value is nested no deeper than so many levels, and the engine has room for what it is made of. Keys
of maps and the fields of dates are what they are in every host value. -/
def FitsWithin : Nat → Native → Prop
  | 0, _ => False
  | n + 1, t => match t with
    | .array items => items.length < 2 ^ 32 ∧ ∀ x ∈ items, FitsWithin n x
    | .bytes data => data.length < 2 ^ 53
    | .typed t xs => xs.length * t.width < 2 ^ 53
    | .map entries => entries.length < 2 ^ 53 ∧ (entries.map (·.1)).Nodup ∧ ∀ e ∈ entries, FitsWithin n e.2
    | .set items => items.length < 2 ^ 53 ∧ ∀ x ∈ items, FitsWithin n x
    | .date i => i.nanoseconds < 10 ^ 9 ∧ Instant.leastMilliseconds ≤ i.milliseconds ∧
      i.milliseconds ≤ Instant.greatestMilliseconds
    | _ => True

theorem normFloat_eq (d : Double) : Guest.Bridge.nativeOfNumber (if d.isNaN then Double.nan else d) = normFloat d := by
  cases hd : d.toInt? with
  | some n =>
    have hnan := Double.isNaN_of_isFinite (Double.isFinite_of_toInt? hd)
    have hsafe : n.natAbs ≤ Guest.Bridge.safeInteger.toNat ↔ n.natAbs < 2 ^ 53 := by
      unfold Guest.Bridge.safeInteger
      omega
    simp only [hnan, Bool.false_eq_true, if_false, Guest.Bridge.nativeOfNumber, normFloat, hd, hsafe]
    congr 1
    simp
  | none =>
    by_cases hnan : d.isNaN = true
    · have hcanonical : Double.nan.toInt? = none := by decide +kernel
      simp only [hnan, if_true, normFloat, hd, Guest.Bridge.nativeOfNumber, hcanonical]
    · simp only [hnan, Bool.false_eq_true, if_false, Guest.Bridge.nativeOfNumber, normFloat, hd]

theorem nativeOfNumber_ofInt (n : Int64) :
    Guest.Bridge.nativeOfNumber (Double.ofInt n.toInt) = (Native.int n).norm := by
  have hsafe : Guest.Bridge.safeInteger.toNat = 2 ^ 53 - 1 := by decide
  rw [norm]
  by_cases h : n.toInt.natAbs < 2 ^ 53
  · have hle : n.toInt.natAbs ≤ 2 ^ 53 - 1 := by omega
    simp only [Guest.Bridge.nativeOfNumber, Double.toInt?_ofInt h, Double.isNegativeZero_ofInt h, hsafe, if_pos h,
      decide_eq_true hle, Bool.not_false, Bool.and_self, if_true, Int64.ofInt_toInt]
  · have hbound : n.toInt.natAbs < 2 ^ 64 := by
      have hlow := n.le_toInt
      have hhigh := n.toInt_lt
      omega
    obtain ⟨k, hk, hlarge⟩ := Double.exists_toInt?_ofInt (Nat.not_lt.mp h) hbound
    have hgt : ¬ k.natAbs ≤ 2 ^ 53 - 1 := by omega
    simp only [Guest.Bridge.nativeOfNumber, hk, hsafe, decide_eq_false hgt, Bool.false_and, Bool.false_eq_true,
      if_false, if_neg h]

theorem ofMilliseconds_milliseconds {i : Instant} (h : i.nanoseconds < 10 ^ 9) :
    Instant.ofMilliseconds i.milliseconds = ⟨i.seconds, i.nanoseconds / 1000000 * 1000000⟩ := by
  have hdiv : i.milliseconds.fdiv 1000 = i.seconds := by
    rw [Instant.milliseconds, Int.fdiv_eq_ediv_of_nonneg _ (by decide)]
    omega
  have hmod : (i.milliseconds.fmod 1000).toNat = i.nanoseconds / 1000000 := by
    rw [Instant.milliseconds, Int.fmod_eq_emod_of_nonneg _ (by decide)]
    omega
  rw [Instant.ofMilliseconds, hdiv, hmod]

end Native

end Embedding
