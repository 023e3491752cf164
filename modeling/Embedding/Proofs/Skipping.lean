import Embedding.Proofs.Reading
import Embedding.Proofs.Texts

namespace Embedding.Json

def delimiters : List Char := [' ', '\n', '\r', '\t', ',', ']', '\x7d']

inductive AtDelimiter : List Char → Prop
  | mk {c : Char} {t : List Char} (hc : c ∈ delimiters) : AtDelimiter (c :: t)

theorem Blanks.atDelimiter {c : Char} {s t : List Char} (h : Blanks s (c :: t)) (hc : c ∈ delimiters) :
    AtDelimiter s := by
  cases h with
  | done => exact ⟨hc⟩
  | blank hblank _ => exact ⟨List.mem_append_left [',', ']', '\x7d'] hblank⟩

theorem Members.atDelimiter {α : Type} {member : α → List Char → List Char → Prop} {as : List α} {s t : List Char} :
    Members member false as s t → AtDelimiter s
  | .close h => h.atDelimiter (by decide)
  | .more (.further hcomma) _ _ => hcomma.atDelimiter (by decide)

namespace Reader

variable {s s' t : List Char}

structure EndsNumber (c : Char) : Prop where
  notDigit : c.isDigit = false
  notPoint : c ≠ '.'
  notExponent : ¬(c = 'e' || c = 'E') = true

theorem endsNumber_of_mem {c : Char} (hc : c ∈ delimiters) : EndsNumber c := by
  simp only [delimiters, List.mem_cons, List.not_mem_nil, or_false] at hc
  obtain rfl | rfl | rfl | rfl | rfl | rfl | rfl := hc <;> exact ⟨rfl, by decide, by decide⟩

theorem noDigit_cons {c : Char} (hc : c.isDigit = false) : NoDigit (c :: t) := fun _ hd => Option.some.inj hd ▸ hc

theorem noDigit_of_atDelimiter : AtDelimiter t → NoDigit t
  | .mk hc => noDigit_cons (endsNumber_of_mem hc).notDigit

theorem noDigit_of_exponent (ht : AtDelimiter t) : Exponent s t → NoDigit s
  | .absent => noDigit_of_atDelimiter ht
  | .unsigned he _ _ | .signed he _ _ _ => noDigit_cons (by obtain rfl | rfl := he <;> rfl)

theorem noDigit_of_fraction (ht : AtDelimiter t) (hexponent : Exponent s' t) : Fraction s s' → NoDigit s
  | .absent => noDigit_of_exponent ht hexponent
  | .present _ _ => noDigit_cons rfl

theorem NoDigit.peeked (h : NoDigit s) : ¬isDigit (s.head?.getD (Char.ofNat 0)) = true := by
  cases s with
  | nil => decide
  | cons c s => exact Bool.eq_false_iff.mp (h c rfl)

theorem takes_discard_digits (h : Digits s t) (ht : NoDigit t) : Takes (discard digits) s () t := by
  obtain ⟨cs, hcs, rfl⟩ := h.exists_append
  exact (takes_digits hcs ht).discard

def skipExponent : Reader Unit := do
  let c ← peek
  if c = 'e' || c = 'E' then
    advance
    let sign ← peek
    if sign = '+' || sign = '-' then advance
    match ← next? with
    | some d => if isDigit d then discard digits else failHere .invalidNumber
    | none => failHere .invalidNumber

def skipFraction : Reader Unit := do
  if (← peek) = '.' then
    advance
    if (← digits).isEmpty then failNext .invalidNumber
  skipExponent

theorem skipNumber_eq : skipNumber = (do
    match ← next? with
    | none => failHere .invalidNumber
    | some c =>
      if c = '0' then
        if isDigit (← peek) then failNext .invalidNumber
      else if isDigit c then discard digits
      else failHere .invalidNumber
    skipFraction) := rfl

theorem notSign_of_isDigit {c : Char} (hc : c.isDigit = true) : ¬(c = '+' || c = '-') = true := by
  intro h
  obtain rfl | rfl : c = '+' ∨ c = '-' := by simpa using h
  all_goals cases hc

theorem notPoint_of_exponent (ht : AtDelimiter t) : Exponent s t → ¬s.head?.getD (Char.ofNat 0) = '.'
  | .absent => by obtain ⟨hc⟩ := ht; exact (endsNumber_of_mem hc).notPoint
  | .unsigned he _ _ | .signed he _ _ _ => by obtain rfl | rfl := he <;> exact fun h => nomatch h

theorem takes_skipExponent (h : Exponent s t) (ht : AtDelimiter t) : Takes skipExponent s () t := by
  cases h with
  | absent =>
    obtain ⟨hc⟩ := ht
    refine takes_peek_cons.bind ?_
    rw [if_neg (endsNumber_of_mem hc).notExponent]
    exact Takes.pure
  | unsigned he hc h =>
    refine takes_peek_cons.bind ?_
    rw [if_pos (by obtain rfl | rfl := he <;> rfl)]
    refine takes_advance.bind (takes_peek_cons.bind ?_)
    dsimp only
    rw [if_neg (notSign_of_isDigit hc)]
    refine takes_next?.bind ?_
    dsimp only
    rw [if_pos ((isDigit_eq _).trans hc)]
    exact takes_discard_digits h (noDigit_of_atDelimiter ht)
  | signed he hg hc h =>
    refine takes_peek_cons.bind ?_
    rw [if_pos (by obtain rfl | rfl := he <;> rfl)]
    refine takes_advance.bind (takes_peek_cons.bind ?_)
    dsimp only
    rw [if_pos (by obtain rfl | rfl := hg <;> rfl)]
    refine takes_advance.bind (takes_next?.bind ?_)
    dsimp only
    rw [if_pos ((isDigit_eq _).trans hc)]
    exact takes_discard_digits h (noDigit_of_atDelimiter ht)

theorem takes_skipFraction (h : Fraction s s') (hexponent : Exponent s' t) (ht : AtDelimiter t) :
    Takes skipFraction s () t := by
  refine takes_peek.bind ?_
  cases h with
  | absent =>
    rw [if_neg (notPoint_of_exponent ht hexponent)]
    exact takes_skipExponent hexponent ht
  | present hc h =>
    obtain ⟨cs, hcs, rfl⟩ := h.exists_append
    have hdigits := takes_digits (List.forall_mem_cons.mpr ⟨hc, hcs⟩) (noDigit_of_exponent ht hexponent)
    exact takes_advance.bind (hdigits.bind (takes_skipExponent hexponent ht))

theorem takes_skipNumber (h : Magnitude s t) (ht : AtDelimiter t) : Takes skipNumber s () t := by
  rw [skipNumber_eq]
  obtain ⟨hwhole, hfraction, hexponent⟩ := h
  cases hwhole with
  | zero =>
    refine takes_next?.bind (takes_peek.bind ?_)
    rw [if_neg (noDigit_of_fraction ht hexponent hfraction).peeked]
    exact takes_skipFraction hfraction hexponent ht
  | digits hc hzero h =>
    refine takes_next?.bind ?_
    dsimp only
    rw [if_neg hzero, if_pos ((isDigit_eq _).trans hc)]
    refine (takes_discard_digits h (noDigit_of_fraction ht hexponent hfraction)).bind ?_
    exact takes_skipFraction hfraction hexponent ht

end Reader

theorem Magnitude.head {s t : List Char} (h : Magnitude s t) : ∃ c u, s = c :: u ∧ c.isDigit = true := by
  obtain ⟨hwhole, -, -⟩ := h
  cases hwhole with
  | zero => exact ⟨_, _, rfl, rfl⟩
  | digits hc _ _ => exact ⟨_, _, rfl, hc⟩

theorem ne_of_isDigit {c d : Char} (hc : c.isDigit = true) (hd : d.isDigit = false) : c ≠ d := by
  rintro rfl
  exact Bool.false_ne_true (hd.symm.trans hc)

theorem isJsonBlank_of_isDigit {c : Char} (hc : c.isDigit = true) : isJsonBlank c.toNat = false := by
  have := Text.toNat_of_isDigit hc
  simp [isJsonBlank]
  omega

theorem IsValue.head {s t : List Char} (h : IsValue s t) :
    ∃ c u, s = c :: u ∧ isJsonBlank c.toNat = false ∧ c ≠ ']' := by
  cases h with
  | number h =>
    obtain ⟨c, u, rfl, hc⟩ := h.head
    refine ⟨c, u, rfl, isJsonBlank_of_isDigit hc, ?_⟩
    rintro rfl
    cases hc
  | _ => exact ⟨_, _, rfl, rfl, by decide⟩

theorem AreItems.head {s t : List Char} (h : AreItems s t) :
    ∃ c u, Blanks s (c :: u) ∧ AreItems (c :: u) t ∧ isJsonBlank c.toNat = false ∧ c ≠ ']' := by
  cases h with
  | last hbefore hvalue hafter =>
    obtain ⟨c, u, rfl, hc⟩ := hvalue.head
    exact ⟨c, u, hbefore, .last .done hvalue hafter, hc⟩
  | more hbefore hvalue hafter hrest =>
    obtain ⟨c, u, rfl, hc⟩ := hvalue.head
    exact ⟨c, u, hbefore, .more .done hvalue hafter hrest, hc⟩

theorem AreMembers.head {s t : List Char} (h : AreMembers s t) :
    ∃ u, Blanks s ('"' :: u) ∧ AreMembers ('"' :: u) t := by
  cases h with
  | last hmember hafter =>
    obtain ⟨hbefore, hname, hcolon, hbehind, hvalue⟩ := hmember
    exact ⟨_, hbefore, .last (.mk .done hname hcolon hbehind hvalue) hafter⟩
  | more hmember hafter hrest =>
    obtain ⟨hbefore, hname, hcolon, hbehind, hvalue⟩ := hmember
    exact ⟨_, hbefore, .more (.mk .done hname hcolon hbehind hvalue) hafter hrest⟩

namespace Reader

structure Skips (n : Nat) : Prop where
  value : ∀ {s s' t : List Char}, Blanks s s' → IsValue s' t → AtDelimiter t → s.length ≤ n + t.length →
    Takes (skipValue n) s () t
  items : ∀ {s t : List Char}, AreItems s t → s.length ≤ n + t.length → Takes (skipItems n) s () t
  members : ∀ {s t : List Char}, AreMembers s t → s.length ≤ n + t.length → Takes (skipMembers n) s () t

theorem Skips.zero : Skips 0 where
  value hblanks hvalue _ hn := by have := hblanks.length_le; have := hvalue.length_lt; omega
  items h hn := by have := h.length_lt; omega
  members h hn := by have := h.length_lt; omega

variable {n : Nat} {s s' t : List Char}

theorem Skips.takes_skipValue (ih : Skips n) (hblanks : Blanks s s') (hvalue : IsValue s' t) (ht : AtDelimiter t)
    (hn : s.length ≤ n + 1 + t.length) : Takes (skipValue (n + 1)) s () t := by
  have := hblanks.length_le
  rw [skipValue]
  cases hvalue with
  | nullWord => exact (takes_token hblanks rfl).bind (takes_advance.bind (takes_word ['u', 'l', 'l']))
  | trueWord => exact (takes_token hblanks rfl).bind (takes_advance.bind (takes_word ['r', 'u', 'e']))
  | falseWord => exact (takes_token hblanks rfl).bind (takes_advance.bind (takes_word ['a', 'l', 's', 'e']))
  | number h =>
    obtain ⟨c, u, rfl, hc⟩ := h.head
    have hne {d : Char} (hd : d.isDigit = false) : c ≠ d := ne_of_isDigit hc hd
    refine (takes_token hblanks (isJsonBlank_of_isDigit hc)).bind ?_
    dsimp only
    rw [if_neg (hne rfl), if_neg (hne rfl), if_neg (hne rfl), if_neg (hne rfl), if_pos ((isDigit_eq c).trans hc)]
    exact takes_skipNumber h ht
  | negative h => exact (takes_token hblanks rfl).bind (takes_advance.bind (takes_skipNumber h ht))
  | string h => exact (takes_token hblanks rfl).bind (takes_advance.bind (takes_skipString h))
  | emptyArray h =>
    exact (takes_token hblanks rfl).bind (takes_advance.bind ((takes_token h rfl).bind takes_advance))
  | array h =>
    -- The blanks before the first item are gone once its first character has been looked at.
    obtain ⟨c, u, hbefore, hitems, hblank, hc⟩ := h.head
    have := hbefore.length_le
    refine (takes_token hblanks rfl).bind (takes_advance.bind ((takes_token hbefore hblank).bind ?_))
    split
    · contradiction
    · next heq => exact absurd (Option.some.inj heq) hc
    · exact ih.items hitems (by simp only [List.length_cons] at *; omega)
  | emptyObject h =>
    exact (takes_token hblanks rfl).bind (takes_advance.bind ((takes_token h rfl).bind takes_advance))
  | object h =>
    obtain ⟨u, hbefore, hmembers⟩ := h.head
    have := hbefore.length_le
    refine (takes_token hblanks rfl).bind (takes_advance.bind ((takes_token hbefore rfl).bind ?_))
    exact ih.members hmembers (by simp only [List.length_cons] at *; omega)

theorem Skips.takes_skipItems (ih : Skips n) (h : AreItems s t) (hn : s.length ≤ n + 1 + t.length) :
    Takes (skipItems (n + 1)) s () t := by
  rw [skipItems]
  cases h with
  | last hbefore hvalue hafter =>
    have := hafter.length_le
    simp only [List.length_cons] at *
    refine (ih.value hbefore hvalue (hafter.atDelimiter (by decide)) (by omega)).bind ?_
    exact (takes_token hafter rfl).bind takes_advance
  | more hbefore hvalue hafter hrest =>
    have := hbefore.length_le
    have := hvalue.length_lt
    have := hafter.length_le
    have := hrest.length_lt
    simp only [List.length_cons] at *
    refine (ih.value hbefore hvalue (hafter.atDelimiter (by decide)) (by omega)).bind ?_
    exact (takes_token hafter rfl).bind (takes_advance.bind (ih.items hrest (by omega)))

theorem Skips.takes_skipMembers (ih : Skips n) (h : AreMembers s t) (hn : s.length ≤ n + 1 + t.length) :
    Takes (skipMembers (n + 1)) s () t := by
  rw [skipMembers]
  cases h with
  | last hmember hafter =>
    obtain ⟨hbefore, hname, hcolon, hbehind, hvalue⟩ := hmember
    have := hbefore.length_le
    have := hname.length_lt
    have := hcolon.length_le
    have := hafter.length_le
    simp only [List.length_cons] at *
    refine (takes_token hbefore rfl).bind (takes_advance.bind ((takes_skipString hname).bind ?_))
    refine (takes_colon hcolon).bind ?_
    refine (ih.value hbehind hvalue (hafter.atDelimiter (by decide)) (by omega)).bind ?_
    exact (takes_token hafter rfl).bind takes_advance
  | more hmember hafter hrest =>
    have := hmember.length_lt
    obtain ⟨hbefore, hname, hcolon, hbehind, hvalue⟩ := hmember
    have := hbefore.length_le
    have := hname.length_lt
    have := hcolon.length_le
    have := hafter.length_le
    have := hrest.length_lt
    simp only [List.length_cons] at *
    refine (takes_token hbefore rfl).bind (takes_advance.bind ((takes_skipString hname).bind ?_))
    refine (takes_colon hcolon).bind ?_
    refine (ih.value hbehind hvalue (hafter.atDelimiter (by decide)) (by omega)).bind ?_
    exact (takes_token hafter rfl).bind (takes_advance.bind (ih.members hrest (by omega)))

theorem skips : ∀ n : Nat, Skips n
  | 0 => Skips.zero
  | n + 1 => ⟨(skips n).takes_skipValue, (skips n).takes_skipItems, (skips n).takes_skipMembers⟩

theorem takes_skipAny (hblanks : Blanks s s') (hvalue : IsValue s' t) (ht : AtDelimiter t) : Takes skipAny s () t :=
  becomes_get fun _ => (skips _).value hblanks hvalue ht (by dsimp only; omega)

end Reader

end Embedding.Json
