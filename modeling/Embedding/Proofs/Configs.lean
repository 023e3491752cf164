import Embedding.Proofs.Settings

namespace Embedding

theorem Cleanup.lookup_name (p : Cleanup) : names.lookup p.name = some p := by
  cases p <;> decide

theorem Unmapped.lookup_name (p : Unmapped) : names.lookup p.name = some p := by
  cases p <;> decide

namespace Config

open Json Json.Reader

structure Sized (c : Config) : Prop where
  memoryLimit : ∀ n ∈ c.memoryLimit, n < 2 ^ 64
  maxStackSize : ∀ n ∈ c.maxStackSize, n < 2 ^ 64
  gcThreshold : ∀ n ∈ c.gcThreshold, n < 2 ^ 64
  maxCallbacks : c.maxCallbacks < 2 ^ 64

/-- The configuration `b`, with the values of `c` for some of the fields. -/
def overriddenBy (b c : Config) (fields : List Field) : Config where
  cleanup := if .cleanup ∈ fields then c.cleanup else b.cleanup
  unmapped := if .unmapped ∈ fields then c.unmapped else b.unmapped
  memoryLimit := if .memoryLimit ∈ fields then c.memoryLimit else b.memoryLimit
  maxStackSize := if .maxStackSize ∈ fields then c.maxStackSize else b.maxStackSize
  gcThreshold := if .gcThreshold ∈ fields then c.gcThreshold else b.gcThreshold
  maxCallbacks := if .maxCallbacks ∈ fields then c.maxCallbacks else b.maxCallbacks

theorem overriddenBy_nil (b c : Config) : b.overriddenBy c [] = b := by
  simp [overriddenBy]

theorem overriddenBy_overriddenBy (b c : Config) (fs gs : List Field) :
    (b.overriddenBy c fs).overriddenBy c gs = b.overriddenBy c (fs ++ gs) := by
  have either {α : Type} (p q : Prop) [Decidable p] [Decidable q] (x y : α) :
      (if q then x else if p then x else y) = if p ∨ q then x else y := by
    by_cases hp : p <;> by_cases hq : q <;> simp [hp, hq]
  simp only [overriddenBy, List.mem_append, either]

/-- A member of an object that is to give a configuration. -/
inductive Member
  | field (f : Field)
  | other (name : String)

/-- The field that a member gives, if it gives one. -/
def Member.fields : Member → List Field
  | field f => [f]
  | other _ => []

/-- The text of a member: a field and what `c` writes for it, or any other name and any value. -/
inductive Gives (c : Config) : Member → List Char → List Char → Prop
  | field {f : Field} {v : Value} {s t : List Char} (hv : (f.name, v) ∈ c.members)
      (h : IsMember (fun s t => s = v.text.toList ++ t) f.name s t) : Gives c (.field f) s t
  | other {name : String} {s t : List Char} (hname : ∀ f : Field, f.name ≠ name) (h : IsMember IsValue name s t) :
      Gives c (.other name) s t

def value (c : Config) : Field → Value
  | .cleanup => .string c.cleanup.name
  | .unmapped => .string c.unmapped.name
  | .memoryLimit => sizeText c.memoryLimit
  | .maxStackSize => sizeText c.maxStackSize
  | .gcThreshold => sizeText c.gcThreshold
  | .maxCallbacks => .int c.maxCallbacks

theorem members_eq (c : Config) : c.members = Field.all.map fun f => (f.name, c.value f) := rfl

theorem Field.mem_all (f : Field) : f ∈ all := by
  cases f <;> decide

theorem Field.ofName?_name (f : Field) : Field.ofName? f.name = some f := by
  cases f <;> decide

theorem Field.name_injective {f g : Field} (h : f.name = g.name) : f = g := by
  have h := congrArg ofName? h
  rwa [ofName?_name, ofName?_name, Option.some.injEq] at h

theorem Field.ofName?_eq_none {name : String} (h : ∀ f : Field, f.name ≠ name) : Field.ofName? name = none :=
  List.find?_eq_none.mpr fun f _ hf => h f (eq_of_beq hf)

variable {b c : Config} {f : Field} {v : Value} {s s' t : List Char}

theorem mem_members_iff : (f.name, v) ∈ c.members ↔ v = c.value f := by
  rw [members_eq, List.mem_map]
  constructor
  · rintro ⟨g, -, hg⟩
    obtain ⟨hname, rfl⟩ := Prod.mk.inj hg
    rw [Field.name_injective hname]
  · rintro rfl
    exact ⟨f, f.mem_all, rfl⟩

theorem toList_text_int (n : Nat) : (Value.int n).text.toList = Nat.toDigits 10 n := by
  rw [Value.text]
  exact Nat.toList_repr

theorem takes_optional_sizeText {o : Option Nat} (ho : ∀ n ∈ o, n < 2 ^ 64)
    (hblanks : Blanks s ((sizeText o).text.toList ++ t)) (ht : AtDelimiter t) : Takes (optional size) s o t := by
  cases o with
  | none => exact takes_optional_null hblanks
  | some n =>
    rw [sizeText, toList_text_int] at hblanks
    exact takes_optional_size (ho n rfl) hblanks ht

theorem takes_read (hc : c.Sized) (hblanks : Blanks s ((c.value f).text.toList ++ t)) (ht : AtDelimiter t) :
    Takes (f.read b) s (b.overriddenBy c [f]) t := by
  cases f with
  | cleanup => exact (takes_variant hblanks c.cleanup.lookup_name).bind Takes.pure
  | unmapped => exact (takes_variant hblanks c.unmapped.lookup_name).bind Takes.pure
  | memoryLimit => exact (takes_optional_sizeText hc.memoryLimit hblanks ht).bind Takes.pure
  | maxStackSize => exact (takes_optional_sizeText hc.maxStackSize hblanks ht).bind Takes.pure
  | gcThreshold => exact (takes_optional_sizeText hc.gcThreshold hblanks ht).bind Takes.pure
  | maxCallbacks =>
    rw [value, toList_text_int] at hblanks
    exact (takes_size hc.maxCallbacks hblanks ht).bind Takes.pure

theorem allows_read (hblanks : Blanks s s') (hvalue : IsValue s' t) (ht : AtDelimiter t) :
    Allows (f.read b) s fun _ u => u = t := by
  cases f with
  | cleanup | unmapped => exact (allows_variant hblanks hvalue).bind fun _ _ hu => Takes.pure.allows hu
  | memoryLimit | maxStackSize | gcThreshold =>
    exact (allows_optional_size hblanks hvalue ht).bind fun _ _ hu => Takes.pure.allows hu
  | maxCallbacks => exact (allows_size hblanks hvalue ht).bind fun _ _ hu => Takes.pure.allows hu

theorem takes_anotherMember_close (h : Blanks s ('\x7d' :: t)) (first : Bool) :
    Takes (anotherMember first) s false ('\x7d' :: t) :=
  (takes_token h rfl).bind Takes.pure

theorem takes_anotherMember {first : Bool} (hstarts : Starts first s s') (h : Blanks s' ('"' :: t)) :
    Takes (anotherMember first) s true ('"' :: t) := by
  cases hstarts with
  | first => exact (takes_token h rfl).bind Takes.pure
  | further hcomma => exact (takes_token hcomma rfl).bind (takes_advance.bind ((takes_token h rfl).bind Takes.pure))

section Member

variable {first : Bool} {n : Nat} {seen : List Field} {kind : List Char → List Char → Prop}

theorem rejects_again (hstarts : Starts first s s') (hmember : IsMember kind f.name s' t) (hf : f ∈ seen) :
    Rejects (readMembers (n + 1) first seen b) s := by
  obtain ⟨s₁, s₂, s₃, s₄, hbefore, hname, hcolon, hbehind, hvalue⟩ := hmember
  rw [readMembers]
  refine (takes_anotherMember hstarts hbefore).bind_allows (takes_advance.bind_allows ?_)
  refine (takes_stringBody hname).bind_allows ?_
  rw [Field.ofName?_name]
  dsimp only
  rw [if_pos hf]
  exact rejects_failLater _

theorem becomes_read (hstarts : Starts first s s') (hmember : IsMember kind f.name s' t) (hf : f ∉ seen) :
    ∃ s₃ s₄, Blanks s₃ s₄ ∧ kind s₄ t ∧
      Becomes (readMembers (n + 1) first seen b) s (f.read b >>= fun b => readMembers n false (f :: seen) b) s₃ := by
  obtain ⟨s₁, s₂, s₃, s₄, hbefore, hname, hcolon, hbehind, hvalue⟩ := hmember
  refine ⟨s₃, s₄, hbehind, hvalue, ?_⟩
  rw [readMembers]
  refine (takes_anotherMember hstarts hbefore).bind (takes_advance.bind ?_)
  refine (takes_stringBody hname).bind ?_
  rw [Field.ofName?_name]
  dsimp only
  rw [if_neg hf]
  exact (takes_colon hcolon).bind Becomes.refl

theorem becomes_other {name : String} (hname : ∀ f : Field, f.name ≠ name) (hstarts : Starts first s s')
    (hmember : IsMember IsValue name s' t) (ht : AtDelimiter t) :
    Becomes (readMembers (n + 1) first seen b) s (readMembers n false seen b) t := by
  obtain ⟨s₁, s₂, s₃, s₄, hbefore, hspells, hcolon, hbehind, hvalue⟩ := hmember
  rw [readMembers]
  refine (takes_anotherMember hstarts hbefore).bind (takes_advance.bind ?_)
  refine (takes_stringBody hspells).bind ?_
  rw [Field.ofName?_eq_none hname]
  exact (takes_colon hcolon).bind ((takes_skipAny hbehind hvalue ht).bind Becomes.refl)

theorem Gives.becomes {m : Member} (hc : c.Sized) (hgives : c.Gives m s' t) (hstarts : Starts first s s')
    (hseen : ∀ f ∈ m.fields, f ∉ seen) (ht : AtDelimiter t) :
    Becomes (readMembers (n + 1) first seen b) s
      (readMembers n false (m.fields ++ seen) (b.overriddenBy c m.fields)) t := by
  cases hgives with
  | field hv hmember =>
    obtain ⟨s₃, s₄, hbehind, rfl, h⟩ := becomes_read hstarts hmember (hseen _ List.mem_cons_self)
    obtain rfl := mem_members_iff.mp hv
    exact h.trans ((takes_read hc hbehind ht).bind Becomes.refl)
  | other hname hmember =>
    rw [Member.fields, List.nil_append, overriddenBy_nil]
    exact becomes_other hname hstarts hmember ht

/-- How often a field is given, by the members already read and by those with the names. -/
def occurrences (f : Field) (seen : List Field) (names : List String) : Nat :=
  names.count f.name + if f ∈ seen then 1 else 0

theorem occurrences_name {g : Field} {names : List String} (hg : g ∉ seen) :
    occurrences f seen (g.name :: names) = occurrences f (g :: seen) names := by
  by_cases hne : f = g
  · rw [hne, occurrences, occurrences, List.count_cons_self, if_neg hg, if_pos List.mem_cons_self]
  · have hname : g.name ≠ f.name := fun h => hne (Field.name_injective h).symm
    rw [occurrences, occurrences, List.count_cons_of_ne hname]
    simp only [List.mem_cons, hne, false_or]

theorem occurrences_other {name : String} {names : List String} (hname : ∀ f : Field, f.name ≠ name) :
    occurrences f seen (name :: names) = occurrences f seen names := by
  rw [occurrences, occurrences, List.count_cons_of_ne (hname f).symm]

/-- Reading one member leaves as many occurrences of a field as there were, so those that are too many are still to
come. -/
theorem rejects_member {name : String} {names : List String} (hstarts : Starts first s s')
    (hmember : IsMember IsValue name s' t) (ht : AtDelimiter t) (htwice : 2 ≤ occurrences f seen (name :: names))
    (hrest : ∀ seen b, 2 ≤ occurrences f seen names → Rejects (readMembers n false seen b) t) :
    Rejects (readMembers (n + 1) first seen b) s := by
  by_cases hname : ∀ g : Field, g.name ≠ name
  · rw [occurrences_other hname] at htwice
    exact (becomes_other hname hstarts hmember ht).allows (hrest seen b htwice)
  · obtain ⟨g, rfl⟩ : ∃ g : Field, g.name = name := by simpa using hname
    -- Another field may be given twice first.
    by_cases hg : g ∈ seen
    · exact rejects_again hstarts hmember hg
    · rw [occurrences_name hg] at htwice
      obtain ⟨s₃, s₄, hbehind, hvalue, h⟩ := becomes_read hstarts hmember hg
      exact h.allows ((allows_read hbehind hvalue ht).bind fun b u hu => hu ▸ hrest (g :: seen) b htwice)

end Member

theorem takes_members {given : List Member} {first : Bool} {seen : List Field} {n : Nat} (hc : c.Sized)
    (h : Members c.Gives first given s t) (hn : given.length < n) (hnodup : (given.flatMap Member.fields).Nodup)
    (hseen : ∀ f ∈ given.flatMap Member.fields, f ∉ seen) :
    Takes (readMembers n first seen b) s (b.overriddenBy c (given.flatMap Member.fields)) ('\x7d' :: t) := by
  induction h generalizing n seen b with
  | close h =>
    obtain ⟨n, rfl⟩ := Nat.exists_eq_succ_of_ne_zero (Nat.ne_of_gt hn)
    rw [readMembers, List.flatMap_nil, overriddenBy_nil]
    exact (takes_anotherMember_close h _).bind Takes.pure
  | more hstarts hgives hrest ih =>
    obtain ⟨n, rfl⟩ := Nat.exists_eq_succ_of_ne_zero (Nat.ne_of_gt (Nat.zero_lt_of_lt hn))
    rw [List.flatMap_cons] at hnodup hseen ⊢
    obtain ⟨-, hrestNodup, hdisjoint⟩ := List.nodup_append.mp hnodup
    rw [← overriddenBy_overriddenBy]
    refine (hgives.becomes hc hstarts (fun f hf => hseen f (List.mem_append_left _ hf)) hrest.atDelimiter).trans ?_
    refine ih (Nat.lt_of_succ_lt_succ hn) hrestNodup fun f hf hmem => ?_
    obtain hmem | hmem := List.mem_append.mp hmem
    · exact hdisjoint f hmem f hf rfl
    · exact hseen f (List.mem_append_right _ hf) hmem

theorem rejects_members {names : List String} {first : Bool} {seen : List Field} {n : Nat}
    (h : Members (IsMember IsValue) first names s t) (hn : names.length ≤ n)
    (htwice : 2 ≤ occurrences f seen names) : Rejects (readMembers n first seen b) s := by
  induction h generalizing n seen b with
  | close =>
    rw [occurrences, List.count_nil] at htwice
    split at htwice <;> omega
  | more hstarts hmember hrest ih =>
    obtain ⟨n, rfl⟩ := Nat.exists_eq_succ_of_ne_zero (Nat.ne_of_gt (Nat.zero_lt_of_lt hn))
    exact rejects_member hstarts hmember hrest.atDelimiter htwice fun _ _ => ih (Nat.le_of_succ_le_succ hn)

theorem Gives.length_lt {m : Member} (h : c.Gives m s t) : t.length < s.length := by
  cases h with
  | field _ h =>
    refine h.length_lt fun s t hs => ?_
    rw [hs, List.length_append]
    exact Nat.le_add_left _ _
  | other _ h => exact h.length_lt fun _ _ hvalue => Nat.le_of_lt hvalue.length_lt

theorem takes_closeObject (h : Blanks s ('\x7d' :: t)) : Takes closeObject s () t :=
  (takes_token h rfl).bind takes_advance

theorem takes_readObject {given : List Member} (hc : c.Sized) (hblanks : Blanks s s') (h : IsObject c.Gives given s' t)
    (hnodup : (given.flatMap Member.fields).Nodup) :
    Takes read s (default.overriddenBy c (given.flatMap Member.fields)) t := by
  obtain ⟨h⟩ := h
  refine (takes_token hblanks rfl).bind (Takes.placed (takes_advance.bind (becomes_get fun _ => ?_)))
  have hn := h.length_lt fun _ _ _ hgives => hgives.length_lt
  have hmembers := takes_members hc h (Nat.lt_succ_of_lt hn) hnodup (b := default) fun _ _ => List.not_mem_nil
  exact hmembers.enclosed (takes_closeObject .done)

theorem rejects_readObject {names : List String} (hblanks : Blanks s s')
    (h : IsObject (IsMember IsValue) names s' t) (htwice : 2 ≤ names.count f.name) : Rejects read s := by
  obtain ⟨h⟩ := h
  refine (takes_token hblanks rfl).bind_allows (Allows.placed (takes_advance.bind_allows (allows_get fun _ => ?_)))
  have hn := h.length_lt fun _ _ _ hmember => hmember.length_lt fun _ _ hvalue => Nat.le_of_lt hvalue.length_lt
  have htwice : 2 ≤ occurrences f [] names := htwice
  exact (rejects_members h (Nat.le_succ_of_le (Nat.le_of_lt hn)) htwice).enclosed

def fieldTexts (c : Config) (fs : List Field) : List Char :=
  (Value.commaJoined (Value.memberTexts (fs.map fun f => (f.name, c.value f)))).toList

theorem gives_field (f : Field) (t : List Char) : c.Gives (.field f) (c.fieldTexts [f] ++ t) t := by
  have htext : c.fieldTexts [f] ++ t =
      '"' :: (f.name.toList.flatMap escaped ++ '"' :: ':' :: ((c.value f).text.toList ++ t)) := by
    simp [fieldTexts, Value.memberTexts, Value.commaJoined, Json.quoted]
  rw [htext]
  exact .field (mem_members_iff.mpr rfl) ⟨_, _, _, _, .done, spells_quoted _ _, .done, .done, rfl⟩

theorem fieldTexts_cons (f g : Field) (fs : List Field) :
    c.fieldTexts (f :: g :: fs) = c.fieldTexts [f] ++ ',' :: c.fieldTexts (g :: fs) := by
  simp [fieldTexts, Value.memberTexts, Value.commaJoined]

theorem gives_fields (f : Field) (fs : List Field) (t : List Char) :
    ∃ s, c.Gives (.field f) (c.fieldTexts (f :: fs) ++ '\x7d' :: t) s ∧ Members c.Gives false (fs.map .field) s t := by
  induction fs generalizing f with
  | nil => exact ⟨_, gives_field f _, .close .done⟩
  | cons g fs ih =>
    obtain ⟨s, hgives, hrest⟩ := ih g
    refine ⟨_, ?_, .more (.further .done) hgives hrest⟩
    rw [fieldTexts_cons, List.append_assoc]
    exact gives_field f _

theorem isDocument_encode (c : Config) : IsDocument (IsObject c.Gives (Field.all.map .field)) c.encode := by
  obtain ⟨s, hgives, hrest⟩ := gives_fields (c := c) .cleanup Field.all.tail []
  have hencode : c.encode.toList = '\x7b' :: (c.fieldTexts Field.all ++ ['\x7d']) := by
    rw [encode, members_eq]
    simp [Value.text, fieldTexts]
  exact ⟨_, [], hencode ▸ .done, .mk (.more .first hgives hrest), .done⟩

/-- An object that gives some fields as a configuration writes them, once each, in any order and with any other members
among them, is decoded to the default with just these fields overridden. The written form is one such object. An object
that gives a field twice is refused. -/
theorem decode_fieldByField :
    (∀ c : Config, c.Sized →
      (∀ (given : List Member) (text : String), (given.flatMap Member.fields).Nodup →
        IsDocument (IsObject c.Gives given) text →
          decode text = .ok (default.overriddenBy c (given.flatMap Member.fields))) ∧
      decode c.encode = .ok c) ∧
    ∀ (f : Field) (names : List String) (text : String), 2 ≤ names.count f.name →
      IsDocument (IsObject (IsMember IsValue) names) text → ∃ failure, decode text = .error failure := by
  have object {c : Config} (hc : c.Sized) {given : List Member} {text : String}
      (hnodup : (given.flatMap Member.fields).Nodup) (h : IsDocument (IsObject c.Gives given) text) :
      decode text = .ok (default.overriddenBy c (given.flatMap Member.fields)) := by
    obtain ⟨s, t, hblanks, hobject, hend⟩ := h
    exact (takes_readObject hc hblanks hobject hnodup).run hend
  refine ⟨fun c hc => ⟨fun given text hnodup h => object hc hnodup h, ?_⟩, fun f names text htwice h => ?_⟩
  · exact object hc (by decide) (isDocument_encode c)
  · obtain ⟨s, t, hblanks, hobject, hend⟩ := h
    exact (rejects_readObject hblanks hobject htwice).run

theorem decode_fieldByField_manual :
    decode "\x7b\"memory_limit\":18446744073709551615,\"x\":[0.5e+1,\x7b\"a\":null\x7d],\"cleanup\":\"manual\"\x7d" =
        .ok { cleanup := .manual, memoryLimit := some (2 ^ 64 - 1) } ∧
      decode (encode { cleanup := .manual, memoryLimit := some (2 ^ 64 - 1) }) =
        .ok { cleanup := .manual, memoryLimit := some (2 ^ 64 - 1) } ∧
      ∃ failure, decode "\x7b\"cleanup\":null,\"cleanup\":0\x7d" = .error failure := by
  have hsized : Sized { cleanup := .manual, memoryLimit := some (2 ^ 64 - 1) } :=
    ⟨fun n hn => by cases hn; decide, fun n hn => (nomatch hn), fun n hn => (nomatch hn), by decide⟩
  have hx : StandsForItself 'x' := ⟨by decide, by decide, by decide⟩
  have ha : StandsForItself 'a' := ⟨by decide, by decide, by decide⟩
  have hobject (t : List Char) : IsValue ("\x7b\"a\":null\x7d".toList ++ t) t :=
    .object (.last (.mk .done (.plain ha .close) .done .done .nullWord) .done)
  have harray (t : List Char) : IsValue ("[0.5e+1,\x7b\"a\":null\x7d]".toList ++ t) t :=
    .array (.more .done (.number (.parts .zero (.present rfl .done) (.signed (.inl rfl) (.inl rfl) rfl .done))) .done
      (.last .done (hobject _) .done))
  have hother {c : Config} (t : List Char) :
      c.Gives (.other "x") ("\"x\":[0.5e+1,\x7b\"a\":null\x7d]".toList ++ t) t :=
    .other (by intro f; cases f <;> decide) ⟨_, _, _, _, .done, .plain hx .close, .done, .done, harray _⟩
  have hname (t : List Char) : Spells ("cleanup\"".toList ++ t) "cleanup".toList t := spells_quoted "cleanup".toList t
  refine ⟨?_, ?_, ?_⟩
  · refine (decode_fieldByField.1 _ hsized).1 [.field .memoryLimit, .other "x", .field .cleanup] _ (by decide) ?_
    exact isDocument_ofList (.mk (.more .first (gives_field .memoryLimit _) (.more (.further .done) (hother _)
      (.more (.further .done) (gives_field .cleanup _) (.close .done)))))
  · exact (decode_fieldByField.1 _ hsized).2
  · refine decode_fieldByField.2 .cleanup ["cleanup", "cleanup"] _ (by decide) ?_
    exact isDocument_ofList (.mk (.more .first ⟨_, _, _, _, .done, hname _, .done, .done, .nullWord⟩
      (.more (.further .done) ⟨_, _, _, _, .done, hname _, .done, .done, .number (.parts .zero .absent .absent)⟩
        (.close .done))))

end Config

end Embedding
