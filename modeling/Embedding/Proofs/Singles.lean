import Embedding.Proofs.Doubles

namespace Embedding

namespace Double

/-- The magnitude of a finite number, counted in the smallest positive number. -/
def units (d : Double) : Nat := d.significand * 2 ^ (d.exponent + 1074).toNat

theorem isFinite_eq_false_iff {d : Double} : d.isFinite = false ↔ d.isNaN = true ∨ d.isInfinite = true := by
  simp only [isFinite, isNaN, isInfinite, bne_eq_false_iff_eq, Bool.and_eq_true, beq_iff_eq, bne_iff_ne]
  rw [← and_or_left, and_iff_left (Decidable.em _).symm]

theorem HasParts.units_eq {d : Double} {negative : Bool} {q : Nat} {k : Nat} (h : d.HasParts negative q (k - 1074)) :
    d.units = q * 2 ^ k := by
  rw [units, h.significand, h.exponent, show ((k : Int) - 1074 + 1074).toNat = k by omega]

theorem roundDivEven_mul_self (n : Nat) {d : Nat} (hd : 0 < d) : roundDivEven (n * d) d = n := by
  simp [roundDivEven, Nat.mul_div_cancel _ hd, hd]

section Shifted

variable {num : Nat} (h : num ≠ 0) (a b : Nat)
include h

theorem shifted_ne_zero : num * 2 ^ a ≠ 0 := Nat.mul_ne_zero h (Nat.ne_of_gt (Nat.two_pow_pos a))

theorem two_pow_le_shifted : 2 ^ (num.log2 + a) ≤ num * 2 ^ a := by
  rw [Nat.pow_add]
  exact Nat.mul_le_mul_right _ (Nat.log2_self_le h)

theorem log2_shifted : (num * 2 ^ a).log2 = num.log2 + a := by
  rw [Nat.log2_eq_iff (shifted_ne_zero h a)]
  refine ⟨two_pow_le_shifted h a, ?_⟩
  rw [show num.log2 + a + 1 = num.log2 + 1 + a by omega, Nat.pow_add]
  exact Nat.mul_lt_mul_of_pos_right Nat.lt_log2_self (Nat.two_pow_pos a)

theorem floorLog2_shifted : floorLog2 (num * 2 ^ a) (2 ^ b) = (num.log2 + a : Nat) - (b : Nat) := by
  have hlow := two_pow_le_shifted h a
  simp only [floorLog2, log2_shifted h, Nat.log2_two_pow]
  generalize hguess : ((num.log2 + a : Nat) : Int) - (b : Nat) = guess
  by_cases hneg : guess < 0
  · have hreached : 2 ^ b ≤ num * 2 ^ a * 2 ^ (-guess).toNat := by
      calc 2 ^ b = 2 ^ (num.log2 + a) * 2 ^ (-guess).toNat := by rw [← Nat.pow_add]; congr 1; omega
        _ ≤ num * 2 ^ a * 2 ^ (-guess).toNat := Nat.mul_le_mul_right _ hlow
    simp only [if_pos hneg, if_pos hreached]
  · have hreached : 2 ^ b * 2 ^ guess.toNat ≤ num * 2 ^ a := by
      calc 2 ^ b * 2 ^ guess.toNat = 2 ^ (num.log2 + a) := by rw [← Nat.pow_add]; congr 1; omega
        _ ≤ num * 2 ^ a := hlow
    simp only [if_neg hneg, if_pos hreached]

theorem magnitudeOfRatio_shifted (hsmall : num < 2 ^ 53) (hlow : b ≤ num.log2 + a + 1022)
    (hhigh : num.log2 + a ≤ b + 900) :
    magnitudeOfRatio (num * 2 ^ a) (2 ^ b) =
      (num.log2 + a + 1022 - b) * 2 ^ 52 + num * 2 ^ (52 - num.log2) := by
  have hlog : num.log2 < 53 := (Nat.log2_lt h).mpr hsmall
  have hwide := (shifted_bounds h hsmall).2
  have hexponent : max (((num.log2 + a : Nat) : Int) - (b : Nat) - 52) (-1074) =
      ((num.log2 + a : Nat) : Int) - (b : Nat) - 52 := by omega
  simp only [magnitudeOfRatio, if_neg (shifted_ne_zero h a), floorLog2_shifted h, hexponent]
  generalize he : ((num.log2 + a : Nat) : Int) - (b : Nat) - 52 = e
  have hround : (if e < 0 then roundDivEven (num * 2 ^ a * 2 ^ (-e).toNat) (2 ^ b)
      else roundDivEven (num * 2 ^ a) (2 ^ b * 2 ^ e.toNat)) = num * 2 ^ (52 - num.log2) := by
    split
    · rw [Nat.mul_assoc, ← Nat.pow_add, show a + (-e).toNat = 52 - num.log2 + b by omega, Nat.pow_add, ← Nat.mul_assoc,
        roundDivEven_mul_self _ (Nat.two_pow_pos b)]
    · rw [← Nat.pow_add, show a = 52 - num.log2 + (b + e.toNat) by omega, Nat.pow_add, ← Nat.mul_assoc,
        roundDivEven_mul_self _ (Nat.two_pow_pos _)]
  have hfield : (e + 1074).toNat = num.log2 + a + 1022 - b := by omega
  have hsmaller : num.log2 + a + 1022 - b ≤ 1922 := by omega
  rw [hround, hfield]
  generalize num.log2 + a + 1022 - b = k at hsmaller ⊢
  generalize num * 2 ^ (52 - num.log2) = q at hwide ⊢
  exact Nat.min_eq_left (by omega)

theorem hasParts_ofRatio_shifted (negative : Bool) (hsmall : num < 2 ^ 53) (hlow : b ≤ num.log2 + a + 1022)
    (hhigh : num.log2 + a ≤ b + 900) :
    HasParts (ofRatio negative (num * 2 ^ a) (2 ^ b)) negative (num * 2 ^ (52 - num.log2))
      ((num.log2 + a + 1022 - b : Nat) - 1074) := by
  obtain ⟨hfull, hwide⟩ := shifted_bounds h hsmall
  rw [ofRatio, magnitudeOfRatio_shifted h a b hsmall hlow hhigh]
  exact hasParts_withSign negative (by omega) hfull hwide

end Shifted

end Double

namespace Single

variable (s : Single)

def isFinite : Bool := s.biasedExponent != 0xff

def isInfinite : Bool := s.biasedExponent == 0xff && s.fraction == 0

/-- The magnitude of a finite number is `significand * 2 ^ exponent`. -/
def significand : Nat := if s.biasedExponent = 0 then s.fraction else 2 ^ 23 + s.fraction

def exponent : Int := (max 1 s.biasedExponent : Nat) - 150

/-- A binary64 number is the same number as a finite binary32 number: it has its sign and its magnitude. -/
structure Is (s : Single) (d : Double) : Prop where
  finite : d.isFinite = true
  isNegative : d.isNegative = s.isNegative
  units : d.units = s.significand * 2 ^ (s.exponent + 1074).toNat

variable {s}

theorem isFinite_eq_false_iff : s.isFinite = false ↔ s.isNaN = true ∨ s.isInfinite = true := by
  simp only [isFinite, isNaN, isInfinite, bne_eq_false_iff_eq, Bool.and_eq_true, beq_iff_eq, bne_iff_ne]
  rw [← and_or_left, and_iff_left (Decidable.em _).symm]

theorem significand_lt (s : Single) : s.significand < 2 ^ 24 := by
  unfold significand fraction
  split <;> omega

theorem exponent_bounds (s : Single) : -149 ≤ s.exponent ∧ s.exponent ≤ 105 := by
  have hfield : s.biasedExponent < 2 ^ 8 := Nat.mod_lt _ (by decide)
  unfold exponent
  omega

theorem isFinite_toDouble_of_not (h : s.isFinite = false) : s.toDouble.isFinite = false := by
  have hfull : s.biasedExponent = 0xff := by simpa [isFinite] using h
  rw [toDouble, if_pos hfull]
  split
  · decide
  · rw [Double.isFinite, Double.biasedExponent_withSign (by decide)]
    decide

theorem is_toDouble (h : s.isFinite = true) : s.Is s.toDouble := by
  have hfield : s.biasedExponent ≠ 0xff := by simpa [isFinite] using h
  have hnan : ¬s.isNaN = true := by simp [isNaN, hfield]
  have hratio : s.toDouble = .ofRatio s.isNegative (s.significand * 2 ^ s.exponent.toNat) (2 ^ (-s.exponent).toNat) := by
    rw [toDouble, if_neg hnan, if_neg hfield]
    show (if s.exponent < 0 then Double.ofRatio s.isNegative s.significand (2 ^ (-s.exponent).toNat)
      else Double.ofRatio s.isNegative (s.significand * 2 ^ s.exponent.toNat) 1) = _
    split
    · rw [show s.exponent.toNat = 0 by omega, Nat.pow_zero, Nat.mul_one]
    · rw [show (-s.exponent).toNat = 0 by omega, Nat.pow_zero]
  obtain ⟨hleast, hgreatest⟩ := s.exponent_bounds
  by_cases hzero : s.significand = 0
  · have hwithSign : s.toDouble = .withSign s.isNegative 0 := by rw [hratio, hzero, Nat.zero_mul]; rfl
    refine ⟨?_, ?_, ?_⟩
    · rw [hwithSign, Double.isFinite, Double.biasedExponent_withSign (by decide)]
      decide
    · rw [hwithSign, Double.isNegative_withSign (by decide)]
    · rw [hwithSign, hzero, Double.units, Double.significand, Double.biasedExponent_withSign (by decide),
        Double.fraction_withSign (by decide)]
      simp
  · have hsmall := s.significand_lt
    have hlog : s.significand.log2 < 24 := (Nat.log2_lt hzero).mpr hsmall
    have hparts := Double.hasParts_ofRatio_shifted hzero s.exponent.toNat (-s.exponent).toNat s.isNegative
      (by omega) (by omega) (by omega)
    rw [← hratio] at hparts
    refine ⟨hparts.isFinite, hparts.isNegative, ?_⟩
    rw [hparts.units_eq, Nat.mul_assoc, ← Nat.pow_add]
    congr 2
    omega

end Single

end Embedding
