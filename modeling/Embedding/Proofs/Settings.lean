import Embedding.Config
import Embedding.Proofs.Skipping

namespace Embedding.Json

theorem mem_hexDigits_hexDigit : ∀ n < 16, (hexDigit n, n) ∈ hexDigits := by decide

theorem spells_escaped {c : Char} {s cs t : List Char} (h : Spells s cs t) : Spells (escaped c ++ s) (c :: cs) t := by
  have hofNat {n : Nat} (hc : c.toNat = n) : c = Char.ofNat n := hc ▸ (Char.ofNat_toNat c).symm
  rw [escaped]
  split
  · next hc => subst hc; exact .escape (by decide) h
  next hquote =>
  split
  · next hc => subst hc; exact .escape (by decide) h
  next hbackslash =>
  split
  · next hc => subst hc; exact .escape (by decide) h
  split
  · next hc => subst hc; exact .escape (by decide) h
  split
  · next hc => subst hc; exact .escape (by decide) h
  split
  · next hc => rw [hofNat hc]; exact .escape (by decide) h
  split
  · next hc => rw [hofNat hc]; exact .escape (by decide) h
  split
  · have hhex : FourHex (['0', '0', hexDigit (c.toNat / 16), hexDigit (c.toNat % 16)] ++ s) _ s :=
      .digits (i := 0) (j := 0) (by decide) (by decide) (mem_hexDigits_hexDigit _ (by omega))
        (mem_hexDigits_hexDigit _ (by omega))
    have hn : ((0 * 16 + 0) * 16 + c.toNat / 16) * 16 + c.toNat % 16 = c.toNat := by omega
    rw [hn] at hhex
    have hspells := Spells.unicode hhex (by omega) h
    rwa [Char.ofNat_toNat] at hspells
  · next hcontrol => exact .plain ⟨Nat.not_lt.mp hcontrol, hquote, hbackslash⟩ h

theorem spells_quoted (cs t : List Char) : Spells (cs.flatMap escaped ++ '"' :: t) cs t := by
  induction cs with
  | nil => exact .close
  | cons c cs ih =>
    rw [List.flatMap_cons, List.append_assoc]
    exact spells_escaped ih

namespace Reader

variable {α : Type} {s s' t : List Char}

theorem le_ofDigitChars (cs : List Char) (acc : Nat) : acc ≤ Nat.ofDigitChars 10 cs acc := by
  induction cs generalizing acc with
  | nil => exact Nat.le_refl _
  | cons c cs ih =>
    rw [Nat.ofDigitChars_cons]
    exact Nat.le_trans (by omega) (ih _)

theorem absorb_of_le {cs : List Char} {acc : Nat} (h : Nat.ofDigitChars 10 cs acc ≤ maxUnsigned) :
    absorb acc cs = (Nat.ofDigitChars 10 cs acc, cs.length) := by
  induction cs generalizing acc with
  | nil => rfl
  | cons c cs ih =>
    rw [Nat.ofDigitChars_cons, Nat.mul_comm] at h
    rw [absorb, digitValue, if_neg (Nat.not_lt.mpr (Nat.le_trans (le_ofDigitChars cs _) h)), ih h]
    rw [Nat.ofDigitChars_cons, Nat.mul_comm]
    rfl

theorem takes_finish {n : Nat} (ht : AtDelimiter t) : Takes (number.finish true n 0) t (.natural n) t := by
  obtain ⟨hc⟩ := ht
  have hends := endsNumber_of_mem hc
  refine takes_peek_cons.bind ?_
  rw [if_neg hends.notPoint, if_neg hends.notExponent]
  exact Takes.pure

theorem takes_number {n : Nat} (hn : n < 2 ^ 64) (ht : AtDelimiter t) :
    Takes (number true) (Nat.toDigits 10 n ++ t) (.natural n) t := by
  obtain rfl | hzero := Nat.eq_zero_or_pos n
  · refine takes_next?.bind (takes_peek.bind ?_)
    exact (if_neg (noDigit_of_atDelimiter ht).peeked).symm ▸ takes_finish ht
  · have habsorb : absorb 0 (Nat.toDigits 10 n) = (n, (Nat.toDigits 10 n).length) := by
      have hn : Nat.ofDigitChars 10 (Nat.toDigits 10 n) 0 ≤ maxUnsigned := by
        rw [Nat.ofDigitChars_ten_toDigits]
        exact Nat.le_sub_one_of_lt hn
      rw [absorb_of_le hn, Nat.ofDigitChars_ten_toDigits]
    obtain ⟨c, cs, hcs, hc⟩ := Text.exists_toDigits (Nat.ne_of_gt hzero)
    have hdigit := Text.isDigit_toDigits (n := n)
    rw [hcs] at habsorb hdigit ⊢
    rw [List.forall_mem_cons] at hdigit
    refine takes_next?.bind ?_
    dsimp only
    rw [if_neg hc, if_pos ((isDigit_eq c).trans hdigit.1)]
    refine (takes_digits hdigit.2 (noDigit_of_atDelimiter ht)).bind ?_
    rw [habsorb]
    dsimp only
    rw [Nat.sub_self]
    exact takes_finish ht

theorem rejects_refuse (expected : String) : Rejects (refuse expected : Reader α) s := by
  refine takes_peek?.bind_allows ?_
  split
  · next c _ =>
    split
    · exact rejects_bind fun _ _ => rejects_bind fun _ _ => rejects_failHere _
    split
    · exact rejects_bind fun _ _ => rejects_bind fun _ _ => rejects_failHere _
    split
    · exact rejects_bind fun _ _ => rejects_bind fun _ _ => rejects_failHere _
    split
    · exact rejects_bind fun _ _ => rejects_bind fun _ _ => rejects_failHere _
    split
    · exact rejects_bind fun _ _ => rejects_failHere _
    split
    · exact rejects_bind fun _ _ => rejects_bind fun _ _ => rejects_failHere _
    split
    · exact rejects_failHere _
    split
    · exact rejects_failHere _
    · exact rejects_failNext _
  · exact rejects_failNext _

def WholeIfNatural (t : List Char) (r : Number) (u : List Char) : Prop := ∀ n, r = .natural n → u = t

theorem allows_float (x : Reader Double) : Allows (x >>= fun d => pure (Number.float d)) s (WholeIfNatural t) :=
  (allows_any x s).bind fun _ _ _ => Takes.pure.allows fun _ h => nomatch h

theorem allows_finish {n dropped : Nat} {positive : Bool} (hfraction : Fraction s s') (hexponent : Exponent s' t) :
    Allows (number.finish positive n dropped) s (WholeIfNatural t) := by
  refine takes_peek.bind_allows ?_
  -- A point, a letter or too many digits make the answer a float, wherever its reader stops.
  split
  · exact allows_float _
  next hpoint =>
  split
  · exact allows_float _
  next hletter =>
  split
  · exact allows_float _
  have hs : s = t := by
    cases hfraction with
    | present _ _ => exact absurd rfl hpoint
    | absent =>
      cases hexponent with
      | absent => rfl
      | unsigned he _ _ | signed he _ _ _ => exact absurd (by obtain rfl | rfl := he <;> rfl) hletter
  split
  · exact Takes.pure.allows fun _ _ => hs
  split
  · exact Takes.pure.allows fun _ _ => hs
  · exact Takes.pure.allows fun _ _ => hs

theorem allows_number (h : Magnitude s t) (ht : AtDelimiter t) (positive : Bool) :
    Allows (number positive) s (WholeIfNatural t) := by
  obtain ⟨hwhole, hfraction, hexponent⟩ := h
  cases hwhole with
  | zero =>
    refine takes_next?.bind_allows (takes_peek.bind_allows ?_)
    split
    · exact (rejects_failNext _).allows
    · exact allows_finish hfraction hexponent
  | digits hc hzero h =>
    obtain ⟨cs, hcs, rfl⟩ := h.exists_append
    refine takes_next?.bind_allows ?_
    dsimp only
    rw [if_neg hzero, if_pos ((isDigit_eq _).trans hc)]
    refine (takes_digits hcs (noDigit_of_fraction ht hexponent hfraction)).bind_allows ?_
    exact allows_finish hfraction hexponent

theorem exists_toDigits_cons (n : Nat) : ∃ c cs, Nat.toDigits 10 n = c :: cs ∧ c.isDigit = true := by
  obtain ⟨c, cs, hcs⟩ := List.exists_cons_of_ne_nil (Nat.toDigits_ne_nil (b := 10) (n := n))
  exact ⟨c, cs, hcs, Text.isDigit_toDigits c (hcs ▸ List.mem_cons_self)⟩

theorem takes_size {n : Nat} (hn : n < 2 ^ 64) (hblanks : Blanks s (Nat.toDigits 10 n ++ t)) (ht : AtDelimiter t) :
    Takes size s n t := by
  obtain ⟨c, cs, hcs, hc⟩ := exists_toDigits_cons n
  have hnumber := takes_number hn ht
  rw [hcs] at hblanks hnumber
  refine Takes.placed ((takes_token hblanks (isJsonBlank_of_isDigit hc)).bind ?_)
  dsimp only
  rw [if_neg (ne_of_isDigit hc rfl), if_pos ((isDigit_eq c).trans hc)]
  exact hnumber.bind Takes.pure

theorem allows_size (hblanks : Blanks s s') (hvalue : IsValue s' t) (ht : AtDelimiter t) :
    Allows size s fun _ u => u = t := by
  refine Allows.placed ?_
  cases hvalue with
  | number h =>
    obtain ⟨c, u, rfl, hc⟩ := h.head
    refine (takes_token hblanks (isJsonBlank_of_isDigit hc)).bind_allows ?_
    dsimp only
    rw [if_neg (ne_of_isDigit hc rfl), if_pos ((isDigit_eq c).trans hc)]
    refine (allows_number h ht true).bind fun r u hr => ?_
    cases r with
    | natural n => exact Takes.pure.allows (hr n rfl)
    | negative | float => exact (rejects_failLater _).allows
  | negative h =>
    refine (takes_token hblanks rfl).bind_allows (takes_advance.bind_allows ?_)
    refine (allows_number h ht false).bind fun r u hr => ?_
    cases r with
    | natural n => exact Takes.pure.allows (hr n rfl)
    | negative | float => exact (rejects_failLater _).allows
  | _ => exact (takes_token hblanks rfl).bind_allows (rejects_refuse "usize").bind.allows

theorem eq_of_isValue_null (hvalue : IsValue ('n' :: s) t) : s = 'u' :: 'l' :: 'l' :: t := by
  cases hvalue with
  | nullWord => rfl
  | number h =>
    obtain ⟨c, u, heq, hc⟩ := h.head
    cases heq
    cases hc

theorem takes_optional_null {x : Reader α} (hblanks : Blanks s ('n' :: 'u' :: 'l' :: 'l' :: t)) :
    Takes (optional x) s none t :=
  (takes_token hblanks rfl).bind (takes_advance.bind ((takes_word ['u', 'l', 'l']).bind Takes.pure))

theorem takes_optional_size {n : Nat} (hn : n < 2 ^ 64) (hblanks : Blanks s (Nat.toDigits 10 n ++ t))
    (ht : AtDelimiter t) : Takes (optional size) s (some n) t := by
  obtain ⟨c, cs, hcs, hc⟩ := exists_toDigits_cons n
  have hsize := takes_size hn .done ht
  rw [hcs] at hblanks hsize
  refine (takes_token hblanks (isJsonBlank_of_isDigit hc)).bind ?_
  split
  · next heq => exact absurd (Option.some.inj heq) (ne_of_isDigit hc rfl)
  · exact hsize.bind Takes.pure

theorem allows_optional_size (hblanks : Blanks s s') (hvalue : IsValue s' t) (ht : AtDelimiter t) :
    Allows (optional size) s fun _ u => u = t := by
  obtain ⟨c, u, rfl, hblank, -⟩ := hvalue.head
  refine (takes_token hblanks hblank).bind_allows ?_
  split
  · next heq =>
    cases heq
    obtain rfl := eq_of_isValue_null hvalue
    exact takes_advance.bind_allows ((takes_word ['u', 'l', 'l']).bind_allows (Takes.pure.allows rfl))
  · exact (allows_size .done hvalue ht).bind fun _ _ hu => Takes.pure.allows hu

variable {variants : List (String × α)} {known : String}

theorem takes_variant {name : String} {a : α} (hblanks : Blanks s ((quoted name).toList ++ t))
    (hname : variants.lookup name = some a) : Takes (variant variants known) s a t := by
  have htoken : Blanks s ('"' :: (name.toList.flatMap escaped ++ '"' :: t)) := by
    rw [quoted, String.toList_ofList] at hblanks
    simpa using hblanks
  refine (takes_token htoken rfl).bind (Takes.placed ((takes_token .done rfl).bind (takes_advance.bind ?_)))
  refine (takes_stringBody (spells_quoted name.toList t)).bind ?_
  rw [hname]
  exact Takes.pure

theorem allows_variantName (hblanks : Blanks s ('"' :: s')) (h : StringRest s' t) :
    Allows (variantName variants known) s fun _ u => u = t := by
  refine Allows.placed ((takes_token hblanks rfl).bind_allows (takes_advance.bind_allows ?_))
  refine (allows_stringBody h).bind fun name u hu => ?_
  split
  · exact Takes.pure.allows hu
  · exact (rejects_failLater _).allows

theorem allows_unit (hblanks : Blanks s s') (hvalue : IsValue s' t) : Allows (placed do
    match ← peekToken? with
    | none => failNext .endInValue
    | some 'n' => advance; word ['u', 'l', 'l']
    | some _ => refuse "unit") s fun _ u => u = t := by
  obtain ⟨c, u, rfl, hblank, -⟩ := hvalue.head
  refine Allows.placed ((takes_token hblanks hblank).bind_allows ?_)
  split
  · contradiction
  · next heq =>
    cases heq
    obtain rfl := eq_of_isValue_null hvalue
    exact takes_advance.bind_allows (Takes.allows (takes_word ['u', 'l', 'l']) rfl)
  · exact (rejects_refuse _).allows

theorem allows_variant (hblanks : Blanks s s') (hvalue : IsValue s' t) :
    Allows (variant variants known) s fun _ u => u = t := by
  cases hvalue with
  | string h =>
    exact (takes_token hblanks rfl).bind_allows (allows_variantName .done h)
  | emptyObject h =>
    refine (takes_token hblanks rfl).bind_allows (takes_advance.bind_allows (Rejects.bind ?_).allows)
    exact Allows.placed ((takes_token h rfl).bind_allows (rejects_refuse _))
  | object h =>
    refine (takes_token hblanks rfl).bind_allows (takes_advance.bind_allows ?_)
    cases h with
    | last hmember hafter =>
      obtain ⟨hbefore, hname, hcolon, hbehind, hvalue⟩ := hmember
      refine (allows_variantName hbefore hname).bind fun a u hu => hu ▸ (takes_colon hcolon).bind_allows ?_
      refine (allows_unit hbehind hvalue).bind fun _ u hu => hu ▸ (takes_token hafter rfl).bind_allows ?_
      exact takes_advance.bind_allows (Takes.pure.allows rfl)
    | more hmember hafter hrest =>
      -- A comma stands where only the brace may.
      obtain ⟨hbefore, hname, hcolon, hbehind, hvalue⟩ := hmember
      refine (allows_variantName hbefore hname).bind fun a u hu => hu ▸ (takes_colon hcolon).bind_allows ?_
      refine (allows_unit hbehind hvalue).bind fun _ u hu => hu ▸ (takes_token hafter rfl).bind_allows ?_
      exact (rejects_failHere _).allows
  | number h =>
    obtain ⟨c, u, rfl, hc⟩ := h.head
    refine (takes_token hblanks (isJsonBlank_of_isDigit hc)).bind_allows ?_
    split
    · contradiction
    · next heq => exact absurd (Option.some.inj heq) (ne_of_isDigit hc rfl)
    · next heq => exact absurd (Option.some.inj heq) (ne_of_isDigit hc rfl)
    · exact (rejects_failNext _).allows
  | _ => exact (takes_token hblanks rfl).bind_allows (rejects_failNext _).allows

end Reader

end Embedding.Json
