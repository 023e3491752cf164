import Embedding.Guest.Bridge.ToNative
import Embedding.Proofs.Runs
import Embedding.Proofs.Texts

namespace Embedding.Guest

theorem Value.ofInt64_eq (n : Int64) : Value.ofInt64 n = .ofInt n.toInt := ite_self _

theorem digitValue?_of_isDigit {c : Char} (h : c.isDigit = true) : Syntax.digitValue? c = some (c.toNat - 48) := by
  have hc := Text.toNat_of_isDigit h
  have hrange : ('0' ≤ c && c ≤ '9') = true := by
    simp only [Char.le_def, UInt32.le_iff_toNat_le, Bool.and_eq_true, decide_eq_true_eq]
    exact hc
  rw [Syntax.digitValue?, if_pos hrange]
  rfl

theorem digitValues_toDigits (n : Nat) :
    (Nat.toDigits 10 n).map (fun c => (Syntax.digitValue? c).getD 99) =
      (Nat.toDigits 10 n).map fun c => c.toNat - 48 := by
  apply List.map_congr_left
  intro c hc
  rw [digitValue?_of_isDigit (Text.isDigit_toDigits c hc), Option.getD_some]

theorem digitsValue_toDigits (n : Nat) :
    Double.digitsValue 10 ((Nat.toDigits 10 n).map fun c => c.toNat - 48) = n := by
  rw [Double.digitsValue, List.foldl_map]
  calc (Nat.toDigits 10 n).foldl (fun acc c => acc * 10 + (c.toNat - 48)) 0
      = (Nat.toDigits 10 n).foldl (fun acc c => 10 * acc + (c.toNat - 48)) 0 := by
        simp only [Nat.mul_comm]
    _ = Nat.ofDigitChars 10 (Nat.toDigits 10 n) 0 := Nat.ofDigitChars_eq_foldl.symm
    _ = n := Nat.ofDigitChars_ten_toDigits

theorem any_digitValues_toDigits (n : Nat) :
    ((Nat.toDigits 10 n).map fun c => c.toNat - 48).any (10 ≤ ·) = false := by
  simp only [List.any_map, List.any_eq_false, Function.comp_apply, decide_eq_true_eq]
  intro c hc
  have := Text.toNat_of_isDigit (Text.isDigit_toDigits c hc)
  omega

theorem bigIntOfText?_ofInt (n : Int) : bigIntOfText? (Text.ofInt n) = some n := by
  have hdigit {k : Nat} {c : Char} {cs : List Char} (hcs : Nat.toDigits 10 k = cs) (hc : c ∈ cs) : c.isDigit = true :=
    Text.isDigit_toDigits c (hcs ▸ hc)
  rw [Text.ofInt, Int.toString_eq_repr, Int.repr_eq_if]
  split
  · next hnonneg =>
    simp only [bigIntOfText?, Text.trim_ofString_repr, Text.toStringLossy_ofString, Nat.toList_repr]
    split
    · next h => exact absurd h Nat.toDigits_ne_nil
    · next h => exact absurd (hdigit (c := 'x') h (by simp)) (by decide)
    · next h => exact absurd (hdigit (c := 'X') h (by simp)) (by decide)
    · next h => exact absurd (hdigit (c := 'o') h (by simp)) (by decide)
    · next h => exact absurd (hdigit (c := 'O') h (by simp)) (by decide)
    · next h => exact absurd (hdigit (c := 'b') h (by simp)) (by decide)
    · next h => exact absurd (hdigit (c := 'B') h (by simp)) (by decide)
    · next h => exact absurd (hdigit (c := '-') h (by simp)) (by decide)
    · next h => exact absurd (hdigit (c := '+') h (by simp)) (by decide)
    · rw [digitValues_toDigits, any_digitValues_toDigits, digitsValue_toDigits]
      simp
      omega
  · next hneg =>
    have hlist : ("-" ++ (-n).toNat.repr).toList = '-' :: Nat.toDigits 10 (-n).toNat := by
      rw [String.toList_append, Nat.toList_repr]
      rfl
    simp only [bigIntOfText?, Text.trim_ofString_neg_repr, Text.toStringLossy_ofString, hlist]
    rw [digitValues_toDigits, any_digitValues_toDigits, digitsValue_toDigits]
    simp
    omega

namespace Bridge

theorem integerOfDecimal?_toString (n : Int) : integerOfDecimal? (toString n) = some n := by
  have hdigits (k : Nat) : ((Nat.toDigits 10 k).isEmpty || !(Nat.toDigits 10 k).all Char.isDigit) = false := by
    have hall : (Nat.toDigits 10 k).all Char.isDigit = true := List.all_eq_true.mpr Text.isDigit_toDigits
    rw [hall, Bool.not_true, Bool.or_false, List.isEmpty_eq_false_iff]
    exact Nat.toDigits_ne_nil
  rw [Int.toString_eq_repr, Int.repr_eq_if]
  split
  · next hnonneg =>
    have hsign {c : Char} {cs : List Char} (hcs : Nat.toDigits 10 n.toNat = c :: cs) : c.isDigit = true :=
      Text.isDigit_toDigits c (hcs ▸ List.mem_cons_self)
    simp only [integerOfDecimal?, Nat.toList_repr]
    split
    · next h => exact absurd (hsign h) (by decide)
    · next h => exact absurd (hsign h) (by decide)
    · rw [hdigits, if_neg Bool.false_ne_true, Nat.ofDigitChars_ten_toDigits, Int.toNat_of_nonneg hnonneg]
  · next hneg =>
    have hlist : ("-" ++ (-n).toNat.repr).toList = '-' :: Nat.toDigits 10 (-n).toNat := by
      rw [String.toList_append, Nat.toList_repr]
      rfl
    simp only [integerOfDecimal?, hlist]
    rw [hdigits, if_neg Bool.false_ne_true, Nat.ofDigitChars_ten_toDigits, Option.map_some]
    congr 1
    omega

theorem toInt_of_int64OfDecimal? {n : Int} {small : Int64} (h : int64OfDecimal? (toString n) = some small) :
    small.toInt = n := by
  rw [int64OfDecimal?, integerOfDecimal?_toString, Option.bind_some] at h
  split at h
  · next hfits =>
    cases h
    exact Int64.toInt_ofInt_of_le hfits.1 (Int.lt_of_le_of_lt hfits.2 (by decide))
  · cases h

theorem nativeOfBigInt_eq (n : Int) : nativeOfBigInt n = pure (.bigint n) := by
  have htext : coerceText (.bigint n) = pure (toString n) := by
    show (check (Act.toText (.bigint n)) >>= fun t => ofExcept (hostText t)) = _
    have hread : hostText (Text.ofInt n) = .ok (toString n) := by
      rw [hostText, Text.ofInt, Text.toString?_ofString]
    calc check (Act.toText (.bigint n)) >>= fun t => ofExcept (hostText t)
      _ = ofExcept (hostText (Text.ofInt n)) := rfl
      _ = pure (toString n) := by rw [hread]; rfl
  rw [nativeOfBigInt, htext, pure_bind]
  cases hsmall : int64OfDecimal? (toString n) with
  | some small => exact congrArg (fun n => pure (Native.bigint n)) (toInt_of_int64OfDecimal? hsmall)
  | none => rw [integerOfDecimal?_toString]

theorem nativeOf_bigint (convert : Value → Bridge Native) (n : Int) : nativeOf convert (.bigint n) = pure (.bigint n) :=
  nativeOfBigInt_eq n

end Bridge

end Embedding.Guest
