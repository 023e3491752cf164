import Embedding.Double.Basic

namespace Embedding.Double

/-- The parts of a number that is neither zero nor too small nor too large for a full significand. -/
structure HasParts (d : Double) (negative : Bool) (significand : Nat) (exponent : Int) : Prop where
  isNegative : d.isNegative = negative
  isFinite : d.isFinite = true
  significand : d.significand = significand
  exponent : d.exponent = exponent

section WithSign

variable {negative : Bool} {magnitude : Nat} (h : magnitude < 2 ^ 63)
include h

theorem toNat_bits_withSign :
    (withSign negative magnitude).bits.toNat = if negative then 2 ^ 63 + magnitude else magnitude := by
  rw [withSign, UInt64.toNat_ofNat']
  apply Nat.mod_eq_of_lt
  split <;> omega

theorem isNegative_withSign : (withSign negative magnitude).isNegative = negative := by
  rw [isNegative, toNat_bits_withSign h]
  cases negative
  · exact decide_eq_false (Nat.not_le_of_lt h)
  · exact decide_eq_true (Nat.le_add_right _ _)

theorem biasedExponent_withSign : (withSign negative magnitude).biasedExponent = magnitude / 2 ^ 52 := by
  rw [biasedExponent, toNat_bits_withSign h]
  split <;> omega

theorem fraction_withSign : (withSign negative magnitude).fraction = magnitude % 2 ^ 52 := by
  rw [fraction, toNat_bits_withSign h]
  split <;> omega

theorem isZero_withSign : (withSign negative magnitude).isZero = (magnitude == 0) := by
  rw [isZero, toNat_bits_withSign h]
  split <;> congr 1 <;> omega

theorem orderKey_withSign :
    (withSign negative magnitude).orderKey = if negative then -(magnitude : Int) else magnitude := by
  rw [orderKey, isNegative_withSign h, toNat_bits_withSign h]
  cases negative <;> simp <;> omega

end WithSign

theorem hasParts_withSign (negative : Bool) {k q : Nat} (hk : k < 2000) (hq : 2 ^ 52 ≤ q) (hq' : q < 2 ^ 53) :
    HasParts (withSign negative (k * 2 ^ 52 + q)) negative q (k - 1074) := by
  have hsmall : k * 2 ^ 52 + q < 2 ^ 63 := by omega
  have hbiased : (withSign negative (k * 2 ^ 52 + q)).biasedExponent = k + 1 := by
    rw [biasedExponent_withSign hsmall]
    omega
  have hfraction : (withSign negative (k * 2 ^ 52 + q)).fraction = q - 2 ^ 52 := by
    rw [fraction_withSign hsmall]
    omega
  refine ⟨isNegative_withSign hsmall, ?_, ?_, ?_⟩
  · rw [isFinite, hbiased]
    simp
    omega
  · rw [significand, hbiased, hfraction, if_neg (Nat.succ_ne_zero k)]
    omega
  · rw [exponent, hbiased]
    omega

namespace HasParts

variable {d : Double} {negative : Bool} {q : Nat} {e : Int} (h : d.HasParts negative q e)
include h

theorem ratio_of_neg (he : e < 0) : d.ratio = (q, 2 ^ (-e).toNat) := by
  rw [ratio, h.exponent, h.significand, if_pos he]

theorem ratio_of_nonneg (he : 0 ≤ e) : d.ratio = (q * 2 ^ e.toNat, 1) := by
  rw [ratio, h.exponent, h.significand, if_neg (Int.not_lt.mpr he)]

theorem toInt?_of_ratio {n den : Nat} (hden : 0 < den) (hratio : d.ratio = (n * den, den)) :
    d.toInt? = some (if negative then -(n : Int) else n) := by
  rw [toInt?, isIntegral, truncated?, h.isFinite, h.isNegative, hratio]
  simp [Nat.mul_div_cancel _ hden]

end HasParts

theorem truncated?_of_toInt? {d : Double} {n : Int} (h : d.toInt? = some n) : d.truncated? = some n := by
  unfold toInt? at h
  split at h
  · exact h
  · cases h

theorem isFinite_of_toInt? {d : Double} {n : Int} (h : d.toInt? = some n) : d.isFinite = true := by
  have htruncated := truncated?_of_toInt? h
  unfold truncated? at htruncated
  split at htruncated
  · assumption
  · cases htruncated

theorem isFinite_eq_isSome_truncated? (d : Double) : d.isFinite = d.truncated?.isSome := by
  rw [truncated?]
  cases d.isFinite <;> rfl

theorem isNaN_of_isFinite {d : Double} (h : d.isFinite = true) : d.isNaN = false := by
  simp only [isFinite, bne_iff_ne, ne_eq] at h
  simp [isNaN, h]

theorem roundDivEven_one (n : Nat) : roundDivEven n 1 = n := by
  simp [roundDivEven, Nat.mod_one]

theorem le_roundDivEven {lo num den : Nat} (hden : 0 < den) (h : lo * den ≤ num) : lo ≤ roundDivEven num den := by
  have hq : lo ≤ num / den := (Nat.le_div_iff_mul_le hden).mpr h
  simp only [roundDivEven]
  split
  · exact hq
  · split <;> omega

theorem roundDivEven_le {hi num den : Nat} (hden : 0 < den) (h : num < hi * den) : roundDivEven num den ≤ hi := by
  have hq : num / den < hi := (Nat.div_lt_iff_lt_mul hden).mpr h
  simp only [roundDivEven]
  split
  · omega
  · split <;> omega

theorem floorLog2_one {num : Nat} (h : num ≠ 0) : floorLog2 num 1 = num.log2 := by
  have hone : Nat.log2 1 = 0 := by decide
  have hguess : ((num.log2 : Nat) : Int) - (0 : Nat) = num.log2 := by omega
  have hnonneg : ¬(num.log2 : Int) < 0 := by omega
  have hreached : 2 ^ num.log2 ≤ num := Nat.log2_self_le h
  simp only [floorLog2, hone, hguess, hnonneg, if_false, Int.toNat_natCast, Nat.one_mul, hreached, if_true]

section Magnitude

variable {num : Nat} (h : num ≠ 0)
include h

theorem shifted_bounds (hsmall : num < 2 ^ 53) :
    2 ^ 52 ≤ num * 2 ^ (52 - num.log2) ∧ num * 2 ^ (52 - num.log2) < 2 ^ 53 := by
  have hlog : num.log2 < 53 := (Nat.log2_lt h).mpr hsmall
  constructor
  · calc 2 ^ 52 = 2 ^ num.log2 * 2 ^ (52 - num.log2) := by rw [← Nat.pow_add]; congr 1; omega
      _ ≤ num * 2 ^ (52 - num.log2) := Nat.mul_le_mul_right _ (Nat.log2_self_le h)
  · calc num * 2 ^ (52 - num.log2) < 2 ^ (num.log2 + 1) * 2 ^ (52 - num.log2) :=
          Nat.mul_lt_mul_of_pos_right Nat.lt_log2_self (Nat.two_pow_pos _)
      _ = 2 ^ 53 := by rw [← Nat.pow_add]; congr 1; omega

theorem magnitudeOfRatio_small (hsmall : num < 2 ^ 53) :
    magnitudeOfRatio num 1 = (num.log2 + 1022) * 2 ^ 52 + num * 2 ^ (52 - num.log2) := by
  have hlog : num.log2 < 53 := (Nat.log2_lt h).mpr hsmall
  have hwide := (shifted_bounds h hsmall).2
  have hexponent : max (((num.log2 : Nat) : Int) - 52) (-1074) = (num.log2 : Int) - 52 := by omega
  have hfield : (((num.log2 : Nat) : Int) - 52 + 1074).toNat = num.log2 + 1022 := by omega
  have hshift : (-(((num.log2 : Nat) : Int) - 52)).toNat = 52 - num.log2 := by omega
  simp only [magnitudeOfRatio, if_neg h, floorLog2_one h, hexponent, hfield]
  split
  · rw [hshift, roundDivEven_one]
    omega
  · have h52 : num.log2 = 52 := by omega
    rw [h52] at hwide ⊢
    simp [roundDivEven_one] at hwide ⊢
    omega

theorem magnitudeOfRatio_mono {num' : Nat} (hle : num ≤ num') (hsmall : num' < 2 ^ 53) :
    magnitudeOfRatio num 1 ≤ magnitudeOfRatio num' 1 := by
  have h' : num' ≠ 0 := by omega
  have hwide := (shifted_bounds h (by omega)).2
  have hwide' := (shifted_bounds h' hsmall).1
  have hlog : num.log2 ≤ num'.log2 := (Nat.le_log2 h').mpr (Nat.le_trans (Nat.log2_self_le h) hle)
  rw [magnitudeOfRatio_small h (by omega), magnitudeOfRatio_small h' hsmall]
  rcases Nat.lt_or_eq_of_le hlog with hlt | heq
  · generalize num * 2 ^ (52 - num.log2) = p at hwide ⊢
    generalize num' * 2 ^ (52 - num'.log2) = p' at hwide' ⊢
    omega
  · rw [heq]
    exact Nat.add_le_add_left (Nat.mul_le_mul_right _ hle) _

theorem magnitudeOfRatio_large (hlarge : 2 ^ 53 ≤ num) (hbound : num < 2 ^ 64) :
    ∃ q, 2 ^ 52 ≤ q ∧ q ≤ 2 ^ 53 ∧ magnitudeOfRatio num 1 = (num.log2 + 1022) * 2 ^ 52 + q := by
  have hlog : 53 ≤ num.log2 := (Nat.le_log2 h).mpr hlarge
  have hlog' : num.log2 < 64 := (Nat.log2_lt h).mpr hbound
  have hpos : 0 < 2 ^ (num.log2 - 52) := Nat.two_pow_pos _
  have hlow : 2 ^ 52 * 2 ^ (num.log2 - 52) ≤ num := by
    rw [← Nat.pow_add, show 52 + (num.log2 - 52) = num.log2 by omega]
    exact Nat.log2_self_le h
  have hhigh : num < 2 ^ 53 * 2 ^ (num.log2 - 52) := by
    rw [← Nat.pow_add, show 53 + (num.log2 - 52) = num.log2 + 1 by omega]
    exact Nat.lt_log2_self
  have hexponent : max (((num.log2 : Nat) : Int) - 52) (-1074) = (num.log2 : Int) - 52 := by omega
  have hfield : (((num.log2 : Nat) : Int) - 52 + 1074).toNat = num.log2 + 1022 := by omega
  have hshift : (((num.log2 : Nat) : Int) - 52).toNat = num.log2 - 52 := by omega
  have hnonneg : ¬ ((num.log2 : Nat) : Int) - 52 < 0 := by omega
  have hle := le_roundDivEven hpos hlow
  have hge := roundDivEven_le hpos hhigh
  refine ⟨roundDivEven num (2 ^ (num.log2 - 52)), hle, hge, ?_⟩
  simp only [magnitudeOfRatio, if_neg h, floorLog2_one h, hexponent, hfield, if_neg hnonneg, hshift, Nat.one_mul]
  omega

end Magnitude

theorem ofInt_zero : ofInt 0 = zero := by decide

theorem toInt?_zero : zero.toInt? = some 0 := by decide +kernel

section Small

variable {n : Int} (hn : n ≠ 0) (hsmall : n.natAbs < 2 ^ 53)
include hn hsmall

theorem hasParts_ofInt : HasParts (ofInt n) (decide (n < 0)) (n.natAbs * 2 ^ (52 - n.natAbs.log2))
    (n.natAbs.log2 - 52) := by
  have hnum : n.natAbs ≠ 0 := by omega
  have hlog : n.natAbs.log2 < 53 := (Nat.log2_lt hnum).mpr hsmall
  obtain ⟨hlow, hhigh⟩ := shifted_bounds hnum hsmall
  have hparts := hasParts_withSign (decide (n < 0)) (k := n.natAbs.log2 + 1022) (by omega) hlow hhigh
  rw [ofInt, ofRatio, magnitudeOfRatio_small hnum hsmall]
  have hexponent : (((n.natAbs.log2 + 1022 : Nat) : Int) - 1074) = (n.natAbs.log2 : Int) - 52 := by omega
  rwa [hexponent] at hparts

theorem toInt?_ofInt_of_ne_zero : (ofInt n).toInt? = some n := by
  have hparts := hasParts_ofInt hn hsmall
  have hlog : n.natAbs.log2 < 53 := (Nat.log2_lt (by omega)).mpr hsmall
  have hsign : (if decide (n < 0) then -(n.natAbs : Int) else n.natAbs) = n := by
    by_cases hneg : n < 0
    · rw [if_pos (decide_eq_true hneg)]
      omega
    · rw [if_neg (by rwa [decide_eq_true_eq])]
      omega
  have hratio : (ofInt n).ratio = (n.natAbs * 2 ^ (52 - n.natAbs.log2), 2 ^ (52 - n.natAbs.log2)) := by
    by_cases hlast : n.natAbs.log2 = 52
    · rw [hparts.ratio_of_nonneg (by omega), hlast]
      simp
    · rw [hparts.ratio_of_neg (by omega), show (-((n.natAbs.log2 : Int) - 52)).toNat = 52 - n.natAbs.log2 by omega]
  rw [hparts.toInt?_of_ratio (Nat.two_pow_pos _) hratio, hsign]

end Small

theorem toInt?_ofInt {n : Int} (h : n.natAbs < 2 ^ 53) : (ofInt n).toInt? = some n := by
  by_cases hn : n = 0
  · rw [hn, ofInt_zero, toInt?_zero]
  · exact toInt?_ofInt_of_ne_zero hn h

theorem isZero_ofInt {n : Int} (hn : n ≠ 0) (h : n.natAbs < 2 ^ 53) : (ofInt n).isZero = false := by
  have hnum : n.natAbs ≠ 0 := by omega
  have hlog : n.natAbs.log2 < 53 := (Nat.log2_lt hnum).mpr h
  have hwide := (shifted_bounds hnum h).2
  rw [ofInt, ofRatio, magnitudeOfRatio_small hnum h, isZero_withSign (by omega), beq_eq_false_iff_ne]
  omega

theorem isNegativeZero_ofInt {n : Int} (h : n.natAbs < 2 ^ 53) : (ofInt n).isNegativeZero = false := by
  by_cases hn : n = 0
  · subst n
    decide
  · rw [isNegativeZero, isZero_ofInt hn h, Bool.false_and]

theorem isNaN_withSign (negative : Bool) {magnitude : Nat} (h : magnitude < 0x7ff * 2 ^ 52) :
    (withSign negative magnitude).isNaN = false := by
  have hbiased : (withSign negative magnitude).biasedExponent = magnitude / 2 ^ 52 :=
    biasedExponent_withSign (by omega)
  have hne : magnitude / 2 ^ 52 ≠ 0x7ff := by omega
  rw [isNaN, hbiased, beq_eq_false_iff_ne.mpr hne, Bool.false_and]

theorem abs_ofInt_le {n limit : Int} (hn : n ≠ 0) (hlimit : limit.natAbs < 2 ^ 53) (h : n.natAbs ≤ limit.natAbs)
    (hpos : 0 ≤ limit) : (ofInt n).abs.le (ofInt limit) = true := by
  have hlog : limit.natAbs.log2 < 53 := (Nat.log2_lt (by omega)).mpr hlimit
  have hwide := (shifted_bounds (show limit.natAbs ≠ 0 by omega) hlimit).2
  have hgreat := magnitudeOfRatio_small (show limit.natAbs ≠ 0 by omega) hlimit
  have hmono := magnitudeOfRatio_mono (show n.natAbs ≠ 0 by omega) h hlimit
  have hsmall : magnitudeOfRatio limit.natAbs 1 < 2 ^ 63 := by omega
  have habs : (ofInt n).abs = withSign false (magnitudeOfRatio n.natAbs 1) := by
    rw [abs, ofInt, ofRatio, toNat_bits_withSign (by omega)]
    congr 1
    split <;> omega
  have hsign : ofInt limit = withSign false (magnitudeOfRatio limit.natAbs 1) := by
    rw [ofInt, ofRatio, decide_eq_false (by omega)]
  rw [habs, hsign, le, isNaN_withSign false (by omega), isNaN_withSign false (by omega),
    orderKey_withSign (by omega), orderKey_withSign hsmall]
  simpa using hmono

theorem exists_toInt?_ofInt {n : Int} (h : 2 ^ 53 ≤ n.natAbs) (hbound : n.natAbs < 2 ^ 64) :
    ∃ k : Int, (ofInt n).toInt? = some k ∧ 2 ^ 53 ≤ k.natAbs := by
  have hnum : n.natAbs ≠ 0 := by omega
  have hlog : 53 ≤ n.natAbs.log2 := (Nat.le_log2 hnum).mpr h
  have hlog' : n.natAbs.log2 < 64 := (Nat.log2_lt hnum).mpr hbound
  obtain ⟨q, hlow, hhigh, hmagnitude⟩ := magnitudeOfRatio_large hnum h hbound
  obtain ⟨p, e, hp, he, hparts⟩ : ∃ p e : Nat, 2 ^ 52 ≤ p ∧ 1 ≤ e ∧ HasParts (ofInt n) (decide (n < 0)) p e := by
    rw [ofInt, ofRatio, hmagnitude]
    by_cases hcarry : q = 2 ^ 53
    · subst q
      have hsum : (n.natAbs.log2 + 1022) * 2 ^ 52 + 2 ^ 53 = (n.natAbs.log2 + 1023) * 2 ^ 52 + 2 ^ 52 := by omega
      have hcarried := hasParts_withSign (decide (n < 0)) (k := n.natAbs.log2 + 1023) (q := 2 ^ 52)
        (by omega) (by omega) (by omega)
      have hexponent : ((n.natAbs.log2 + 1023 : Nat) : Int) - 1074 = (n.natAbs.log2 - 51 : Nat) := by omega
      rw [hexponent] at hcarried
      rw [hsum]
      exact ⟨2 ^ 52, n.natAbs.log2 - 51, by omega, by omega, hcarried⟩
    · have hkept := hasParts_withSign (decide (n < 0)) (k := n.natAbs.log2 + 1022) (q := q)
        (by omega) hlow (by omega)
      have hexponent : ((n.natAbs.log2 + 1022 : Nat) : Int) - 1074 = (n.natAbs.log2 - 52 : Nat) := by omega
      rw [hexponent] at hkept
      exact ⟨q, n.natAbs.log2 - 52, hlow, by omega, hkept⟩
  refine ⟨_, hparts.toInt?_of_ratio (n := p * 2 ^ e) Nat.one_pos ?_, ?_⟩
  · rw [hparts.ratio_of_nonneg (by omega)]
    simp
  · have hwide : 2 ^ 53 ≤ p * 2 ^ e := by
      calc 2 ^ 53 = 2 ^ 52 * 2 ^ 1 := by decide
        _ ≤ p * 2 ^ e := Nat.mul_le_mul hp (Nat.pow_le_pow_right (by decide) he)
    split <;> omega

theorem trunc_of_toInt? {d : Double} {n : Int} (h : d.toInt? = some n) : d.trunc = d := by
  have hintegral : d.isIntegral = true := by
    unfold toInt? at h
    split at h
    · assumption
    · cases h
  rw [trunc, truncated?_of_toInt? h]
  simp only [hintegral, if_true]

theorem isNaN_of_isZero {d : Double} (h : d.isZero = true) : d.isNaN = false := by
  have hfraction : d.fraction = 0 := by
    simp only [isZero, beq_iff_eq] at h
    rw [fraction]
    omega
  rw [isNaN, hfraction]
  simp

theorem eq_zero {d : Double} (h : d.isZero = true) (hsign : d.isNegative = false) : d = zero := by
  obtain ⟨bits⟩ := d
  simp only [isZero, isNegative, beq_iff_eq, ge_iff_le, decide_eq_false_iff_not] at h hsign
  have hlt := bits.toNat_lt
  rw [zero, Double.mk.injEq, ← UInt64.toNat_inj]
  show bits.toNat = 0
  omega

theorem eq_negativeZero {d : Double} (h : d.isNegativeZero = true) : d = negativeZero := by
  obtain ⟨bits⟩ := d
  simp only [isNegativeZero, isZero, isNegative, Bool.and_eq_true, beq_iff_eq, ge_iff_le, decide_eq_true_eq] at h
  have hlt := bits.toNat_lt
  rw [negativeZero, Double.mk.injEq, ← UInt64.toNat_inj]
  show bits.toNat = 2 ^ 63
  omega

theorem isNegativeZero_ofInt_of_lt {n : Int} (h : n.natAbs < 2 ^ 64) : (ofInt n).isNegativeZero = false := by
  by_cases hsmall : n.natAbs < 2 ^ 53
  · exact isNegativeZero_ofInt hsmall
  · obtain ⟨k, hk, hlarge⟩ := exists_toInt?_ofInt (Nat.not_lt.mp hsmall) h
    cases hnegative : (ofInt n).isNegativeZero with
    | false => rfl
    | true =>
      have hzero : negativeZero.toInt? = some 0 := by decide +kernel
      rw [eq_negativeZero hnegative, hzero] at hk
      cases hk
      exact absurd hlarge (by decide)

theorem numericEq_of_isZero {a b c : Double} (ha : a.isZero = true) (hb : b.isZero = true) :
    a.numericEq c = b.numericEq c := by
  have zero_of_eq : ∀ d : Double, d.isZero = true → (d.bits == c.bits) = true → c.isZero = true := by
    intro d hd he
    rw [isZero, ← eq_of_beq he]
    exact hd
  simp only [numericEq, isNaN_of_isZero ha, isNaN_of_isZero hb, ha, hb, Bool.not_false, Bool.true_and]
  by_cases hc : c.isZero = true
  · simp [hc]
  · have hac : (a.bits == c.bits) = false := Bool.eq_false_iff.mpr fun he => hc (zero_of_eq a ha he)
    have hbc : (b.bits == c.bits) = false := Bool.eq_false_iff.mpr fun he => hc (zero_of_eq b hb he)
    rw [hac, hbc]

section Parts

variable {d : Double} {negative : Bool} {q : Nat} {e : Int}

theorem fraction_lt (d : Double) : d.fraction < 2 ^ 52 := Nat.mod_lt _ (Nat.two_pow_pos 52)

theorem significand_lt (d : Double) : d.significand < 2 ^ 53 := by
  have hfraction := d.fraction_lt
  rw [significand]
  split <;> omega

theorem HasParts.unique {d' : Double} (h : d.HasParts negative q e) (h' : d'.HasParts negative q e) (hq : 2 ^ 52 ≤ q) :
    d' = d := by
  have field {x : Double} (hx : x.HasParts negative q e) :
      x.bits.toNat = (if negative then 2 ^ 63 else 0) + (e + 1075).toNat * 2 ^ 52 + (q - 2 ^ 52) := by
    have hsignificand := hx.significand
    have hexponent := hx.exponent
    have hnegative := hx.isNegative
    have hbiased : x.biasedExponent = x.bits.toNat / 2 ^ 52 % 2 ^ 11 := rfl
    have hfraction : x.fraction = x.bits.toNat % 2 ^ 52 := rfl
    have hlt := x.bits.toNat_lt
    rw [Double.significand] at hsignificand
    rw [Double.exponent] at hexponent
    split at hsignificand
    · omega
    · cases negative with
      | true =>
        have hsign : 2 ^ 63 ≤ x.bits.toNat := of_decide_eq_true hnegative
        simp only [if_true]
        omega
      | false =>
        have hsign : ¬ 2 ^ 63 ≤ x.bits.toNat := of_decide_eq_false hnegative
        simp only [Bool.false_eq_true, if_false]
        omega
  obtain ⟨bits⟩ := d
  obtain ⟨bits'⟩ := d'
  rw [Double.mk.injEq, ← UInt64.toNat_inj]
  exact (field h').trans (field h).symm

theorem ratio_of_toInt? {n : Int} (h : d.toInt? = some n) :
    d.ratio.1 = n.natAbs * d.ratio.2 ∧ (n ≠ 0 → d.isNegative = decide (n < 0)) := by
  unfold toInt? at h
  split at h
  · next hintegral =>
    rw [isIntegral, Bool.and_eq_true, beq_iff_eq] at hintegral
    rw [truncated?, if_pos hintegral.1, Option.some_inj] at h
    have hratio : d.ratio.1 = d.ratio.1 / d.ratio.2 * d.ratio.2 :=
      (Nat.div_mul_cancel (Nat.dvd_of_mod_eq_zero hintegral.2)).symm
    generalize hk : d.ratio.1 / d.ratio.2 = k at h hratio
    cases hnegative : d.isNegative with
    | true =>
      simp only [hnegative, if_true] at h
      rw [hratio, show n.natAbs = k by omega]
      exact ⟨rfl, fun hn => (decide_eq_true (by omega)).symm⟩
    | false =>
      simp only [hnegative, Bool.false_eq_true, if_false] at h
      rw [hratio, show n.natAbs = k by omega]
      exact ⟨rfl, fun hn => (decide_eq_false (by omega)).symm⟩
  · cases h

theorem shift_le {k a b : Nat} (ha : k * 2 ^ a < 2 ^ 53) (hb : 2 ^ 52 ≤ k * 2 ^ b) : a ≤ b := by
  refine Nat.not_lt.mp fun hlt => ?_
  have hmore : k * 2 ^ (b + 1) ≤ k * 2 ^ a := Nat.mul_le_mul_left k (Nat.pow_le_pow_right (by decide) hlt)
  rw [Nat.pow_succ, ← Nat.mul_assoc] at hmore
  omega

/-- An integer below the fifty-third power of two is a full significand that has been shifted to the right. -/
theorem exists_shift_of_toInt? {n : Int} (h : d.toInt? = some n) (hn : n ≠ 0) (hsmall : n.natAbs < 2 ^ 53) :
    ∃ j : Nat, d.exponent = -(j : Int) ∧ d.significand = n.natAbs * 2 ^ j ∧ 2 ^ 52 ≤ d.significand := by
  have hratio := (ratio_of_toInt? h).1
  rw [ratio] at hratio
  split at hratio
  · next hneg =>
    simp only at hratio
    refine ⟨(-d.exponent).toNat, by omega, hratio, ?_⟩
    by_cases hbiased : d.biasedExponent = 0
    · -- What is too small for a full significand is smaller than one.
      have hexponent : 52 ≤ (-d.exponent).toNat := by
        rw [exponent, hbiased]
        decide
      rw [hratio]
      exact Nat.le_trans (Nat.pow_le_pow_right (by decide) hexponent) (Nat.le_mul_of_pos_left _ (by omega))
    · rw [significand, if_neg hbiased]
      omega
  · next hnonneg =>
    have hfull : 2 ^ 52 ≤ d.significand := by
      rw [exponent] at hnonneg
      rw [significand, if_neg (by omega)]
      omega
    simp only [Nat.mul_one] at hratio
    have hshort : d.exponent.toNat = 0 := by
      have hle : d.exponent.toNat ≤ 0 := shift_le (by rwa [hratio]) (by simpa using hfull)
      omega
    rw [hshort] at hratio
    exact ⟨0, by omega, by simpa using hratio, hfull⟩

theorem ofInt_of_toInt? {n : Int} (h : d.toInt? = some n) (hsmall : n.natAbs < 2 ^ 53) (hzero : d.isNegativeZero = false) :
    ofInt n = d := by
  obtain ⟨hratio, hsign⟩ := ratio_of_toInt? h
  by_cases hn : n = 0
  · subst hn
    have hsignificand : d.significand = 0 := by
      rw [Int.natAbs_zero, Nat.zero_mul, ratio] at hratio
      split at hratio
      · exact hratio
      · exact (Nat.mul_eq_zero.mp hratio).resolve_right (Nat.ne_of_gt (Nat.two_pow_pos _))
    have hiszero : d.isZero = true := by
      have hbiased : d.biasedExponent = d.bits.toNat / 2 ^ 52 % 2 ^ 11 := rfl
      have hfraction : d.fraction = d.bits.toNat % 2 ^ 52 := rfl
      rw [significand] at hsignificand
      rw [isZero, beq_iff_eq]
      split at hsignificand <;> omega
    rw [isNegativeZero, hiszero, Bool.true_and] at hzero
    rw [ofInt_zero, eq_zero hiszero hzero]
  · obtain ⟨j, hexponent, hsignificand, hfull⟩ := exists_shift_of_toInt? h hn hsmall
    obtain ⟨hlow, hhigh⟩ := shifted_bounds (show n.natAbs ≠ 0 by omega) hsmall
    have hlog : n.natAbs.log2 < 53 := (Nat.log2_lt (by omega)).mpr hsmall
    have hlt := d.significand_lt
    rw [hsignificand] at hfull hlt
    have hj : j = 52 - n.natAbs.log2 := Nat.le_antisymm (shift_le hlt hlow) (shift_le hhigh hfull)
    have hparts : d.HasParts (decide (n < 0)) (n.natAbs * 2 ^ (52 - n.natAbs.log2)) (n.natAbs.log2 - 52) :=
      ⟨hsign hn, isFinite_of_toInt? h, by rw [hsignificand, hj], by rw [hexponent]; omega⟩
    exact hparts.unique (hasParts_ofInt hn hsmall) hlow

theorem natAbs_lt_of_not_isIntegral {n : Int} (h : d.truncated? = some n) (hpart : d.isIntegral = false) :
    n.natAbs < 2 ^ 53 := by
  have hlt := d.significand_lt
  unfold truncated? at h
  split at h
  · next hfinite =>
    have hsmall : d.ratio.1 / d.ratio.2 < 2 ^ 53 := by
      rw [isIntegral, hfinite, Bool.true_and] at hpart
      rw [ratio] at hpart ⊢
      split
      · exact Nat.lt_of_le_of_lt (Nat.div_le_self ..) hlt
      · next hnonneg => simp [hnonneg, Nat.mod_one] at hpart
    generalize d.ratio.1 / d.ratio.2 = k at h hsmall
    cases h
    split <;> omega
  · cases h

end Parts

end Embedding.Double
