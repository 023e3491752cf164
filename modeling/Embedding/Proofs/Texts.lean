import Embedding.Guest.Convert

namespace Embedding

namespace Text

theorem codePointsOfUnits_unitsOfCodePoint (c : Char) (rest : List UInt16) :
    codePointsOfUnits (unitsOfCodePoint c.toNat ++ rest) = c.toNat :: codePointsOfUnits rest := by
  have hvalid : c.toNat < 0xD800 ∨ 0xDFFF < c.toNat ∧ c.toNat < 0x110000 := c.valid
  by_cases hplain : c.toNat < 0x10000
  · have hunit : (UInt16.ofNat c.toNat).toNat = c.toNat := by
      rw [UInt16.toNat_ofNat']
      exact Nat.mod_eq_of_lt hplain
    have hhigh : isHighSurrogate (UInt16.ofNat c.toNat) = false := by
      simp only [isHighSurrogate, hunit, Bool.and_eq_false_imp, decide_eq_true_eq, decide_eq_false_iff_not]
      omega
    rw [unitsOfCodePoint, if_pos hplain]
    cases rest with
    | nil => simp [codePointsOfUnits, hunit]
    | cons v rest => simp [codePointsOfUnits, hunit, hhigh]
  · obtain ⟨q, r, hr, hq, hn⟩ : ∃ q r, r < 0x400 ∧ q < 0x400 ∧ c.toNat = 0x10000 + q * 0x400 + r :=
      ⟨(c.toNat - 0x10000) / 0x400, (c.toNat - 0x10000) % 0x400, by omega, by omega, by omega⟩
    have hquotient : (0x10000 + q * 0x400 + r - 0x10000) / 0x400 = q := by omega
    have hremainder : (0x10000 + q * 0x400 + r - 0x10000) % 0x400 = r := by omega
    have hhigh : (UInt16.ofNat (0xD800 + q)).toNat = 0xD800 + q := by
      rw [UInt16.toNat_ofNat']
      omega
    have hlow : (UInt16.ofNat (0xDC00 + r)).toNat = 0xDC00 + r := by
      rw [UInt16.toNat_ofNat']
      omega
    have hpair : (isHighSurrogate (UInt16.ofNat (0xD800 + q)) && isLowSurrogate (UInt16.ofNat (0xDC00 + r))) = true := by
      simp only [isHighSurrogate, isLowSurrogate, hhigh, hlow, Bool.and_eq_true, decide_eq_true_eq]
      omega
    have hpoint : codePointOfPair (UInt16.ofNat (0xD800 + q)) (UInt16.ofNat (0xDC00 + r)) =
        0x10000 + q * 0x400 + r := by
      unfold codePointOfPair
      omega
    have hunits : unitsOfCodePoint c.toNat = [UInt16.ofNat (0xD800 + q), UInt16.ofNat (0xDC00 + r)] := by
      rw [hn] at hplain ⊢
      simp only [unitsOfCodePoint, if_neg hplain, hquotient, hremainder]
    rw [hunits, List.cons_append, List.cons_append, List.nil_append, codePointsOfUnits, if_pos hpair, hpoint, hn]

theorem codePoints_ofString (s : String) : (ofString s).codePoints = s.toList.map Char.toNat := by
  have hchars (cs : List Char) :
      codePointsOfUnits (cs.flatMap fun c => unitsOfCodePoint c.toNat) = cs.map Char.toNat := by
    induction cs with
    | nil => rfl
    | cons c cs ih => rw [List.flatMap_cons, codePointsOfUnits_unitsOfCodePoint, ih, List.map_cons]
  exact hchars s.toList

theorem isScalar_toNat (c : Char) : isScalar c.toNat = true := by
  have hvalid : c.toNat < 0xD800 ∨ 0xDFFF < c.toNat ∧ c.toNat < 0x110000 := c.valid
  simpa [isScalar] using hvalid

theorem toString?_ofString (s : String) : (ofString s).toString? = .ok s := by
  have hgo (cs : List Char) (offset : Nat) (done : List Char) :
      toString?.go offset done (cs.map Char.toNat) = .ok (String.ofList (done.reverse ++ cs)) := by
    induction cs generalizing offset done with
    | nil => simp [toString?.go]
    | cons c cs ih => simp [toString?.go, isScalar_toNat, Char.ofNat_toNat, ih]
  rw [toString?, codePoints_ofString, hgo]
  simp

theorem toStringLossy_ofString (s : String) : (ofString s).toStringLossy = s := by
  rw [toStringLossy, codePoints_ofString, List.map_map]
  have hid : (fun n => if isScalar n then Char.ofNat n else Char.ofNat 0xFFFD) ∘ Char.toNat = id := by
    funext c
    simp [isScalar_toNat, Char.ofNat_toNat]
  rw [hid, List.map_id, String.ofList_toList]

theorem ofString_injective {s t : String} (h : ofString s = ofString t) : s = t := by
  have hlossy := congrArg toStringLossy h
  rwa [toStringLossy_ofString, toStringLossy_ofString] at hlossy

section Digits

theorem toNat_of_isDigit {c : Char} (h : c.isDigit = true) : 48 ≤ c.toNat ∧ c.toNat ≤ 57 := by
  simp only [Char.isDigit, ge_iff_le, Bool.and_eq_true, decide_eq_true_eq, UInt32.le_iff_toNat_le] at h
  exact h

theorem toNat_unit_of_isDigit {c : Char} (h : c.isDigit = true) : (UInt16.ofNat c.toNat).toNat = c.toNat := by
  have hc := toNat_of_isDigit h
  rw [UInt16.toNat_ofNat']
  omega

theorem isDigit_toDigits {n : Nat} : ∀ c ∈ Nat.toDigits 10 n, c.isDigit = true :=
  fun _ hc => Nat.isDigit_of_mem_toDigits (by decide) (by decide) hc

theorem exists_toDigits {n : Nat} (hn : n ≠ 0) : ∃ c cs, Nat.toDigits 10 n = c :: cs ∧ c ≠ '0' := by
  induction n using Nat.strongRecOn with
  | ind n ih =>
    by_cases hsmall : n < 10
    · refine ⟨_, _, Nat.toDigits_of_lt_base hsmall, ?_⟩
      intro h
      have hdigit := congrArg Char.toNat h
      rw [Nat.toNat_digitChar_of_lt_ten hsmall] at hdigit
      have hzero : '0'.toNat = 48 := rfl
      omega
    · obtain ⟨c, cs, hcs, hc⟩ := ih (n / 10) (by omega) (by omega)
      refine ⟨c, cs ++ [(n % 10).digitChar], ?_, hc⟩
      rw [Nat.toDigits_of_base_le (by decide) (by omega), hcs, List.cons_append]

theorem units_ofString_repr (n : Nat) :
    (ofString n.repr).units = ((Nat.toDigits 10 n).map fun c => UInt16.ofNat c.toNat).toArray := by
  have hchars (cs : List Char) (h : ∀ c ∈ cs, c.isDigit = true) :
      (cs.flatMap fun c => unitsOfCodePoint c.toNat) = cs.map fun c => UInt16.ofNat c.toNat := by
    induction cs with
    | nil => rfl
    | cons c cs ih =>
      have hc := toNat_of_isDigit (h c List.mem_cons_self)
      rw [List.flatMap_cons, ih fun d hd => h d (List.mem_cons_of_mem c hd), unitsOfCodePoint, if_pos (by omega)]
      rfl
  rw [ofString, Nat.toList_repr, ofChars, hchars _ isDigit_toDigits]

theorem foldl_units_ofString_repr (n : Nat) :
    (ofString n.repr).units.foldl (fun acc u => acc * 10 + (u.toNat - 48)) 0 = n := by
  have hchars (cs : List Char) (hcs : ∀ c ∈ cs, c.isDigit = true) (acc : Nat) :
      (cs.map fun c => UInt16.ofNat c.toNat).foldl (fun acc u => acc * 10 + (u.toNat - 48)) acc =
        Nat.ofDigitChars 10 cs acc := by
    induction cs generalizing acc with
    | nil => simp
    | cons c cs ih =>
      rw [List.map_cons, List.foldl_cons, ih fun d hd => hcs d (List.mem_cons_of_mem c hd),
        Nat.ofDigitChars_cons, toNat_unit_of_isDigit (hcs c List.mem_cons_self), Nat.mul_comm acc 10]
      rfl
  rw [units_ofString_repr, List.foldl_toArray, hchars _ isDigit_toDigits, Nat.ofDigitChars_ten_toDigits]

theorem head_units_ofString_repr {n : Nat} (hn : n ≠ 0) : (ofString n.repr).units[0]? ≠ some 48 := by
  obtain ⟨c, cs, hcs, hc⟩ := exists_toDigits hn
  have hdigit := toNat_unit_of_isDigit (isDigit_toDigits (n := n) c (hcs ▸ List.mem_cons_self))
  rw [units_ofString_repr, hcs]
  intro h
  have hunit : (UInt16.ofNat c.toNat).toNat = 48 := congrArg UInt16.toNat (Option.some.inj h)
  exact hc (Char.toNat_inj.mp (hdigit.symm.trans hunit))

theorem all_units_ofString_repr (n : Nat) :
    (ofString n.repr).units.all (fun u => 48 ≤ u.toNat && u.toNat ≤ 57) = true := by
  rw [units_ofString_repr]
  simp only [List.all_toArray, List.all_map, List.all_eq_true, Function.comp_apply, Bool.and_eq_true, decide_eq_true_eq]
  intro c hc
  rw [toNat_unit_of_isDigit (isDigit_toDigits c hc)]
  exact toNat_of_isDigit (isDigit_toDigits c hc)

theorem length_ofString_repr (n : Nat) : (ofString n.repr).length = (Nat.toDigits 10 n).length := by
  rw [length, units_ofString_repr, List.size_toArray, List.length_map]

theorem toIndex?_ofNat {n : Nat} (h : n < 2 ^ 32 - 1) : (ofNat n).toIndex? = some n := by
  by_cases hn : n = 0
  · subst n
    decide
  · have hlength : (Nat.toDigits 10 n).length ≤ 10 :=
      (Nat.length_toDigits_le_iff (by decide) (by decide)).mpr (by omega)
    have hsize : ¬ ((ofString n.repr).length = 0 ∨ 10 < (ofString n.repr).length) := by
      rw [length_ofString_repr]
      have := Nat.length_toDigits_pos (b := 10) (n := n)
      omega
    rw [ofNat, Nat.toString_eq_repr, toIndex?]
    simp only [Bool.or_eq_true, decide_eq_true_eq, if_neg hsize, beq_iff_eq, if_neg (head_units_ofString_repr hn),
      all_units_ofString_repr, if_true, foldl_units_ofString_repr, if_pos h]

end Digits

theorem trim_of_forall {t : Text} (h : ∀ u ∈ t.units.toList, isGuestBlank u.toNat = false) : t.trim = t := by
  have hkeep (us : List UInt16) (hus : ∀ u ∈ us, isGuestBlank u.toNat = false) :
      us.dropWhile (fun u => isGuestBlank u.toNat) = us := by
    cases us with
    | nil => rfl
    | cons u us => rw [List.dropWhile_cons_of_neg (by simp [hus u List.mem_cons_self])]
  rw [trim, trimStart, hkeep _ h, trimEnd]
  simp only [hkeep t.units.toList.reverse fun u hu => h u (List.mem_reverse.mp hu), List.reverse_reverse,
    Array.toArray_toList]

theorem isGuestBlank_of_isDigit {c : Char} (h : c.isDigit = true) : isGuestBlank c.toNat = false := by
  have hc := toNat_of_isDigit h
  simp [isGuestBlank, isUnicodeBlank]
  omega

theorem trim_ofString_repr (n : Nat) : (ofString n.repr).trim = ofString n.repr := by
  apply trim_of_forall
  rw [units_ofString_repr]
  intro u hu
  obtain ⟨c, hc, rfl⟩ := List.mem_map.mp hu
  rw [toNat_unit_of_isDigit (isDigit_toDigits c hc)]
  exact isGuestBlank_of_isDigit (isDigit_toDigits c hc)

theorem trim_ofString_neg_repr (n : Nat) : (ofString ("-" ++ n.repr)).trim = ofString ("-" ++ n.repr) := by
  apply trim_of_forall
  have hunits : (ofString ("-" ++ n.repr)).units.toList = 45 :: (ofString n.repr).units.toList := by
    simp [ofString, ofChars, unitsOfCodePoint]
  rw [hunits, units_ofString_repr]
  intro u hu
  rcases List.mem_cons.mp hu with rfl | hu
  · decide
  · obtain ⟨c, hc, rfl⟩ := List.mem_map.mp hu
    rw [toNat_unit_of_isDigit (isDigit_toDigits c hc)]
    exact isGuestBlank_of_isDigit (isDigit_toDigits c hc)

end Text

namespace Guest

theorem Key.index?_ofNat {n : Nat} (h : n < 2 ^ 32 - 1) : (Key.ofNat n).index? = some n := by
  rw [Key.ofNat, Key.index?, Text.toIndex?_ofNat h]

end Guest

end Embedding
