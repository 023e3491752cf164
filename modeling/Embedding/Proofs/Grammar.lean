import Embedding.Json.Value

namespace Embedding.Json

inductive Blanks : List Char → List Char → Prop
  | done {t : List Char} : Blanks t t
  | blank {c : Char} {s t : List Char} (hc : c ∈ [' ', '\n', '\r', '\t']) (h : Blanks s t) : Blanks (c :: s) t

theorem Blanks.length_le {s t : List Char} (h : Blanks s t) : t.length ≤ s.length := by
  induction h with
  | done => exact Nat.le_refl _
  | blank _ _ ih => exact Nat.le_succ_of_le ih

/-- The hexadecimal digits and their values. -/
def hexDigits : List (Char × Nat) := "0123456789abcdef".toList.zipIdx ++ "0123456789ABCDEF".toList.zipIdx

/-- Four hexadecimal digits and the number that they make. -/
inductive FourHex : List Char → Nat → List Char → Prop
  | digits {a b c d : Char} {i j k l : Nat} {t : List Char} (ha : (a, i) ∈ hexDigits) (hb : (b, j) ∈ hexDigits)
      (hc : (c, k) ∈ hexDigits) (hd : (d, l) ∈ hexDigits) :
      FourHex (a :: b :: c :: d :: t) (((i * 16 + j) * 16 + k) * 16 + l) t

/-- The letters that stand behind a backslash, and what each stands for there. -/
def escapes : List (Char × Char) :=
  [('"', '"'), ('\\', '\\'), ('/', '/'), ('b', Char.ofNat 8), ('f', Char.ofNat 12), ('n', '\n'), ('r', '\r'),
    ('t', '\t')]

/-- A character that stands for itself in a string. -/
structure StandsForItself (c : Char) : Prop where
  notControl : 32 ≤ c.toNat
  notQuote : c ≠ '"'
  notBackslash : c ≠ '\\'

/-- The part of a string behind its opening quote, and the characters that it spells. Two escapes of surrogates make
one character. -/
inductive Spells : List Char → List Char → List Char → Prop
  | close {t : List Char} : Spells ('"' :: t) [] t
  | plain {c : Char} {s cs t : List Char} (hc : StandsForItself c) (h : Spells s cs t) : Spells (c :: s) (c :: cs) t
  | escape {e c : Char} {s cs t : List Char} (he : (e, c) ∈ escapes) (h : Spells s cs t) :
      Spells ('\\' :: e :: s) (c :: cs) t
  | unicode {n : Nat} {s s' cs t : List Char} (hn : FourHex s n s') (hplain : n < 0xD800 ∨ 0xDFFF < n)
      (h : Spells s' cs t) : Spells ('\\' :: 'u' :: s) (Char.ofNat n :: cs) t
  | pair {n m : Nat} {s s' s'' cs t : List Char} (hn : FourHex s n ('\\' :: 'u' :: s'))
      (hhigh : 0xD800 ≤ n ∧ n ≤ 0xDBFF) (hm : FourHex s' m s'') (hlow : 0xDC00 ≤ m ∧ m ≤ 0xDFFF) (h : Spells s'' cs t) :
      Spells ('\\' :: 'u' :: s) (Char.ofNat ((n - 0xD800) * 0x400 + (m - 0xDC00) + 0x10000) :: cs) t

/-- The part of a string behind its opening quote, whether or not its escapes make characters. -/
inductive StringRest : List Char → List Char → Prop
  | close {t : List Char} : StringRest ('"' :: t) t
  | plain {c : Char} {s t : List Char} (hc : StandsForItself c) (h : StringRest s t) : StringRest (c :: s) t
  | escape {e c : Char} {s t : List Char} (he : (e, c) ∈ escapes) (h : StringRest s t) : StringRest ('\\' :: e :: s) t
  | unicode {n : Nat} {s s' t : List Char} (hn : FourHex s n s') (h : StringRest s' t) : StringRest ('\\' :: 'u' :: s) t

theorem FourHex.length_eq {s t : List Char} {n : Nat} (h : FourHex s n t) : s.length = t.length + 4 := by
  cases h; rfl

theorem StringRest.length_lt {s t : List Char} (h : StringRest s t) : t.length < s.length := by
  induction h with
  | close => exact Nat.lt_succ_self _
  | plain _ _ ih => exact Nat.lt_succ_of_lt ih
  | escape _ _ ih => simp only [List.length_cons]; omega
  | unicode hn _ ih => have := hn.length_eq; simp only [List.length_cons]; omega

inductive Digits : List Char → List Char → Prop
  | done {t : List Char} : Digits t t
  | digit {c : Char} {s t : List Char} (hc : c.isDigit = true) (h : Digits s t) : Digits (c :: s) t

/-- The digits before the point. A zero among them at the start is the only one. -/
inductive Whole : List Char → List Char → Prop
  | zero {t : List Char} : Whole ('0' :: t) t
  | digits {c : Char} {s t : List Char} (hc : c.isDigit = true) (hzero : c ≠ '0') (h : Digits s t) : Whole (c :: s) t

/-- The point and the digits behind it, if there is one. -/
inductive Fraction : List Char → List Char → Prop
  | absent {t : List Char} : Fraction t t
  | present {c : Char} {s t : List Char} (hc : c.isDigit = true) (h : Digits s t) : Fraction ('.' :: c :: s) t

inductive Exponent : List Char → List Char → Prop
  | absent {t : List Char} : Exponent t t
  | unsigned {e c : Char} {s t : List Char} (he : e = 'e' ∨ e = 'E') (hc : c.isDigit = true) (h : Digits s t) :
      Exponent (e :: c :: s) t
  | signed {e g c : Char} {s t : List Char} (he : e = 'e' ∨ e = 'E') (hg : g = '+' ∨ g = '-') (hc : c.isDigit = true)
      (h : Digits s t) : Exponent (e :: g :: c :: s) t

inductive Magnitude : List Char → List Char → Prop
  | parts {s s' s'' t : List Char} (hwhole : Whole s s') (hfraction : Fraction s' s'') (hexponent : Exponent s'' t) :
      Magnitude s t

theorem Digits.length_le {s t : List Char} (h : Digits s t) : t.length ≤ s.length := by
  induction h with
  | done => exact Nat.le_refl _
  | digit _ _ ih => exact Nat.le_succ_of_le ih

theorem Digits.exists_append {s t : List Char} (h : Digits s t) : ∃ cs, (∀ c ∈ cs, c.isDigit = true) ∧ s = cs ++ t := by
  induction h with
  | done => exact ⟨[], List.forall_mem_nil _, rfl⟩
  | @digit c _ _ hc _ ih =>
    obtain ⟨cs, hcs, hs⟩ := ih
    exact ⟨c :: cs, List.forall_mem_cons.mpr ⟨hc, hcs⟩, congrArg (c :: ·) hs⟩

theorem Whole.length_lt {s t : List Char} : Whole s t → t.length < s.length
  | .zero => Nat.lt_succ_self _
  | .digits _ _ h => Nat.lt_succ_of_le h.length_le

theorem Fraction.length_le {s t : List Char} : Fraction s t → t.length ≤ s.length
  | .absent => Nat.le_refl _
  | .present _ h => Nat.le_succ_of_le (Nat.le_succ_of_le h.length_le)

theorem Exponent.length_le {s t : List Char} : Exponent s t → t.length ≤ s.length
  | .absent => Nat.le_refl _
  | .unsigned _ _ h => Nat.le_succ_of_le (Nat.le_succ_of_le h.length_le)
  | .signed _ _ _ h => Nat.le_succ_of_le (Nat.le_succ_of_le (Nat.le_succ_of_le h.length_le))

theorem Magnitude.length_lt {s t : List Char} : Magnitude s t → t.length < s.length
  | .parts hwhole hfraction hexponent =>
    Nat.lt_of_le_of_lt (Nat.le_trans hexponent.length_le hfraction.length_le) hwhole.length_lt

mutual

inductive IsValue : List Char → List Char → Prop
  | nullWord {t : List Char} : IsValue ('n' :: 'u' :: 'l' :: 'l' :: t) t
  | trueWord {t : List Char} : IsValue ('t' :: 'r' :: 'u' :: 'e' :: t) t
  | falseWord {t : List Char} : IsValue ('f' :: 'a' :: 'l' :: 's' :: 'e' :: t) t
  | number {s t : List Char} (h : Magnitude s t) : IsValue s t
  | negative {s t : List Char} (h : Magnitude s t) : IsValue ('-' :: s) t
  | string {s t : List Char} (h : StringRest s t) : IsValue ('"' :: s) t
  | emptyArray {s t : List Char} (h : Blanks s (']' :: t)) : IsValue ('[' :: s) t
  | array {s t : List Char} (h : AreItems s t) : IsValue ('[' :: s) t
  | emptyObject {s t : List Char} (h : Blanks s ('\x7d' :: t)) : IsValue ('\x7b' :: s) t
  | object {s t : List Char} (h : AreMembers s t) : IsValue ('\x7b' :: s) t

/-- The items of an array, at least one, and the closing bracket. -/
inductive AreItems : List Char → List Char → Prop
  | last {s s₁ s₂ t : List Char} (hbefore : Blanks s s₁) (hvalue : IsValue s₁ s₂) (hafter : Blanks s₂ (']' :: t)) :
      AreItems s t
  | more {s s₁ s₂ s₃ t : List Char} (hbefore : Blanks s s₁) (hvalue : IsValue s₁ s₂) (hafter : Blanks s₂ (',' :: s₃))
      (hrest : AreItems s₃ t) : AreItems s t

/-- A name and the value behind the colon. -/
inductive IsPair : List Char → List Char → Prop
  | mk {s s₁ s₂ s₃ s₄ t : List Char} (hbefore : Blanks s ('"' :: s₁)) (hname : StringRest s₁ s₂)
      (hcolon : Blanks s₂ (':' :: s₃)) (hbehind : Blanks s₃ s₄) (hvalue : IsValue s₄ t) : IsPair s t

/-- The members of an object, at least one, and the closing brace. -/
inductive AreMembers : List Char → List Char → Prop
  | last {s s₁ t : List Char} (hmember : IsPair s s₁) (hafter : Blanks s₁ ('\x7d' :: t)) : AreMembers s t
  | more {s s₁ s₂ t : List Char} (hmember : IsPair s s₁) (hafter : Blanks s₁ (',' :: s₂)) (hrest : AreMembers s₂ t) :
      AreMembers s t

end

mutual

theorem IsValue.length_lt {s t : List Char} : IsValue s t → t.length < s.length
  | .nullWord | .trueWord | .falseWord => by simp only [List.length_cons]; omega
  | .number h => h.length_lt
  | .negative h => Nat.lt_succ_of_lt h.length_lt
  | .string h => Nat.lt_succ_of_lt h.length_lt
  | .emptyArray h => Nat.lt_succ_of_lt h.length_le
  | .array h => Nat.lt_succ_of_lt h.length_lt
  | .emptyObject h => Nat.lt_succ_of_lt h.length_le
  | .object h => Nat.lt_succ_of_lt h.length_lt

theorem AreItems.length_lt {s t : List Char} : AreItems s t → t.length < s.length
  | .last hbefore hvalue hafter =>
    calc t.length < _ := hafter.length_le
      _ < _ := hvalue.length_lt
      _ ≤ s.length := hbefore.length_le
  | .more hbefore hvalue hafter hrest =>
    calc t.length < _ := hrest.length_lt
      _ < _ := hafter.length_le
      _ < _ := hvalue.length_lt
      _ ≤ s.length := hbefore.length_le

theorem IsPair.length_lt {s t : List Char} : IsPair s t → t.length < s.length
  | .mk hbefore hname hcolon hbehind hvalue =>
    calc t.length < _ := hvalue.length_lt
      _ ≤ _ := hbehind.length_le
      _ < _ := hcolon.length_le
      _ < _ := hname.length_lt
      _ < s.length := hbefore.length_le

theorem AreMembers.length_lt {s t : List Char} : AreMembers s t → t.length < s.length
  | .last hmember hafter => Nat.lt_trans hafter.length_le hmember.length_lt
  | .more hmember hafter hrest => Nat.lt_trans hrest.length_lt (Nat.lt_trans hafter.length_le hmember.length_lt)

end

/-- A member with a value of some kind, and its name. -/
def IsMember (value : List Char → List Char → Prop) (name : String) (s t : List Char) : Prop :=
  ∃ s₁ s₂ s₃ s₄, Blanks s ('"' :: s₁) ∧ Spells s₁ name.toList s₂ ∧ Blanks s₂ (':' :: s₃) ∧ Blanks s₃ s₄ ∧ value s₄ t

/-- Where a member starts: at once for the first one, behind a comma for any other. -/
inductive Starts : Bool → List Char → List Char → Prop
  | first {s : List Char} : Starts true s s
  | further {s t : List Char} (h : Blanks s (',' :: t)) : Starts false s t

section Objects

variable {α : Type} (member : α → List Char → List Char → Prop)

/-- Members in their order, the first of an object or further ones, and the closing brace. -/
inductive Members : Bool → List α → List Char → List Char → Prop
  | close {first : Bool} {s t : List Char} (h : Blanks s ('\x7d' :: t)) : Members first [] s t
  | more {first : Bool} {a : α} {as : List α} {s s₁ s₂ t : List Char} (hstarts : Starts first s s₁)
      (hmember : member a s₁ s₂) (hrest : Members false as s₂ t) : Members first (a :: as) s t

/-- An object and its members in their order. -/
inductive IsObject : List α → List Char → List Char → Prop
  | mk {as : List α} {s t : List Char} (h : Members member true as s t) : IsObject as ('\x7b' :: s) t

end Objects

theorem Spells.length_lt {s cs t : List Char} (h : Spells s cs t) : t.length < s.length := by
  induction h with
  | close => exact Nat.lt_succ_self _
  | plain _ _ ih => exact Nat.lt_succ_of_lt ih
  | escape _ _ ih => simp only [List.length_cons]; omega
  | unicode hn _ _ ih => have := hn.length_eq; simp only [List.length_cons]; omega
  | pair hn _ hm _ _ ih => have := hn.length_eq; have := hm.length_eq; simp only [List.length_cons] at *; omega

theorem IsMember.length_lt {name : String} {value : List Char → List Char → Prop} {s t : List Char}
    (h : IsMember value name s t) (hvalue : ∀ s t, value s t → t.length ≤ s.length) : t.length < s.length := by
  obtain ⟨s₁, s₂, s₃, s₄, hbefore, hname, hcolon, hbehind, h⟩ := h
  calc t.length ≤ s₄.length := hvalue _ _ h
    _ ≤ s₃.length := hbehind.length_le
    _ < s₂.length := hcolon.length_le
    _ < s₁.length := hname.length_lt
    _ < s.length := hbefore.length_le

theorem Members.length_lt {α : Type} {member : α → List Char → List Char → Prop} {first : Bool} {as : List α}
    {s t : List Char} (h : Members member first as s t) (hmember : ∀ a s t, member a s t → t.length < s.length) :
    as.length < s.length := by
  induction h with
  | close h => exact Nat.lt_of_le_of_lt (Nat.zero_le _) h.length_le
  | more hstarts h _ ih =>
    have hs := hmember _ _ _ h
    cases hstarts with
    | first => exact Nat.lt_of_le_of_lt ih hs
    | further hcomma => exact Nat.lt_of_le_of_lt ih (Nat.lt_trans hs hcomma.length_le)

/-- The whole text is one phrase, with blanks around it. -/
def IsDocument (phrase : List Char → List Char → Prop) (text : String) : Prop :=
  ∃ s t, Blanks text.toList s ∧ phrase s t ∧ Blanks t []

theorem isDocument_ofList {phrase : List Char → List Char → Prop} {cs : List Char} (h : phrase cs []) :
    IsDocument phrase (String.ofList cs) :=
  ⟨cs, [], String.toList_ofList ▸ .done, h, .done⟩

end Embedding.Json
