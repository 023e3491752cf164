import Embedding.Proofs.Leases
import Embedding.Proofs.NewObjects

namespace Embedding.Guest

theorem Machine.lt_size_of_handleAt? {m : Machine} {o : ObjectId} {h : Handle} (hh : m.handleAt? o = some h) :
    o < m.objects.size := by
  by_contra hge
  simp [handleAt?, hge] at hh

/-- What a machine has become since a conversion was begun on it: old objects are what they were, and new ones are in
order. The functions that have been granted are among them. -/
structure Underway (m₀ : Machine) (grants : List Lease) (m : Machine) : Prop where
  same : m = { m₀ with objects := m.objects, roots := m.roots, memory := m.memory }
  keeps : Keeps (fun _ => True) m₀.objects m.objects
  roots : m₀.roots <:+ m.roots
  orderly : Orderly m₀.objects.size m.objects
  granted : ∀ l ∈ grants, m₀.objects.size ≤ l.function ∧ m.handleAt? l.function = some l.handle

/-- A machine holds on to functions that have been granted. -/
def Machine.Holds (m : Machine) (grants : List Lease) : Prop :=
  ∀ l ∈ grants, ∃ a, Root.value (.object a) ∈ m.roots ∧ Leads m.objects a l.function

/-- What holds whenever a conversion asks. -/
def InHand (m₀ : Machine) (grants : List Lease) (m : Machine) : Prop := Underway m₀ grants m ∧ m.Holds grants

/-- A machine has gone on: its objects still refer to what they did, it holds on to no less, and it has taken so much
memory. -/
structure Onward (bytes : Nat) (m m' : Machine) : Prop where
  grows : Grows m.objects m'.objects
  size_le : m.objects.size ≤ m'.objects.size
  roots : m.roots <:+ m'.roots
  memory : m'.memory = m.memory + bytes
  memoryLimit : m'.memoryLimit = m.memoryLimit

namespace Onward

variable {a b : Nat} {m m₁ m₂ : Machine}

theorem refl : Onward 0 m m := ⟨.of_keeps .refl, Nat.le_refl _, List.suffix_refl _, rfl, rfl⟩

theorem trans (h : Onward a m m₁) (h' : Onward b m₁ m₂) : Onward (a + b) m m₂ where
  grows := h.grows.trans h'.grows
  size_le := Nat.le_trans h.size_le h'.size_le
  roots := h.roots.trans h'.roots
  memory := by rw [h'.memory, h.memory, Nat.add_assoc]
  memoryLimit := h'.memoryLimit.trans h.memoryLimit

theorem holds {grants : List Lease} (h : Onward a m m₁) (hholds : m.Holds grants) : m₁.Holds grants := by
  intro l hl
  obtain ⟨o, ho, hleads⟩ := hholds l hl
  exact ⟨o, h.roots.subset ho, hleads.grow h.grows⟩

theorem hasRoom (h : Onward a m m₁) (hroom : m.HasRoom (a + b)) : m₁.HasRoom b := by
  intro limit hlimit
  rw [h.memory, Nat.add_assoc]
  exact hroom limit (h.memoryLimit ▸ hlimit)

theorem made (x : Object) (bytes : Nat) : Onward bytes m (m.made x bytes) where
  grows := .of_keeps (.push x)
  size_le := by simp [Machine.made]
  roots := List.suffix_refl _
  memory := rfl
  memoryLimit := rfl

theorem filled {o : ObjectId} {x y : Object} {v : Value} (hx : m.objects[o]? = some x) (hadds : x.Adds v y)
    (bytes : Nat) : Onward bytes m (m.filled o y bytes) where
  grows := .setIfInBounds hx fun t ht => (hadds.targets t).mpr (.inl ht)
  size_le := by simp [Machine.filled]
  roots := List.suffix_refl _
  memory := rfl
  memoryLimit := rfl

end Onward

namespace Underway

variable {m₀ m : Machine} {grants : List Lease} (h : Underway m₀ grants m)

theorem refl : Underway m₀ [] m₀ where
  same := rfl
  keeps := .refl
  roots := List.suffix_refl _
  orderly := .of_size_le (Nat.le_refl _)
  granted := nofun

include h

theorem unaltered (hm₀ : m₀.Unaltered) : m.Unaltered := hm₀.keep h.keeps

theorem lt_depthLimit (hdepth : m₀.depth < m₀.depthLimit) : m.depth < m.depthLimit := by
  rw [h.same]
  exact hdepth

theorem size_le : m₀.objects.size ≤ m.objects.size := Machine.size_le_of_keeps h.keeps

theorem known (hm₀ : ∀ x ∈ m₀.objects, ∀ t ∈ Target.ofObject x, t.Known m₀.objects.size) :
    ∀ x ∈ m.objects, ∀ t ∈ Target.ofObject x, t.Known m.objects.size := by
  intro x hx t ht
  obtain ⟨j, hj, rfl⟩ := Array.mem_iff_getElem.mp hx
  have hj' := Array.getElem?_eq_getElem hj
  by_cases hnew : m₀.objects.size ≤ j
  · exact h.orderly.lt_size h.size_le hnew hj' t ht
  · have hold := Array.getElem?_eq_getElem (Nat.lt_of_not_le hnew)
    have hx := Option.some.inj ((h.keeps j _ trivial hold).symm.trans hj')
    exact (hm₀ _ (Array.getElem_mem _) t (hx ▸ ht)).mono h.size_le

theorem rebased {roots : List Root} (hroots : m₀.roots <:+ roots) (memory : Nat) :
    Underway m₀ grants { m with roots, memory } where
  same := by rw [h.same]
  keeps := h.keeps
  roots := hroots
  orderly := h.orderly
  granted := h.granted

theorem made {x : Object} (hx : x.handle? = none) (htargets : ∀ t ∈ Target.ofObject x,
    ∃ i, t = .object i ∧ (i < m₀.objects.size ∨ ∃ data, m.objects[i]? = some (.ofBytes data))) (bytes : Nat) :
    Underway m₀ grants (m.made x bytes) where
  same := by rw [h.same]; rfl
  keeps := h.keeps.trans (.push x)
  roots := h.roots
  orderly := h.orderly.push htargets
  granted l hl := by
    have hsame : (m.made x bytes).handleAt? = m.handleAt? := m.handleAt?_push_of_none hx
    rw [hsame]
    exact h.granted l hl

theorem filled {o : ObjectId} {x y : Object} {v : Value} (ho : m₀.objects.size ≤ o) (hx : m.objects[o]? = some x)
    (hadds : x.Adds v y) (hv : ∀ a, v = .object a → o < a ∧ a < m.objects.size) (bytes : Nat) : Underway m₀ grants (m.filled o y bytes) where
  same := by rw [h.same]; rfl
  keeps := by
    have hold : Keeps (fun i => i < m₀.objects.size) m.objects (m.filled o y bytes).objects :=
      .setIfInBounds (Nat.not_lt_of_le ho)
    intro i z _ hz
    obtain ⟨hlt, -⟩ := Array.getElem?_eq_some_iff.mp hz
    exact hold i z hlt (h.keeps i z trivial hz)
  roots := h.roots
  orderly := h.orderly.fill hx hadds hv
  granted l hl := by
    obtain ⟨hnew, hhandle⟩ := h.granted l hl
    refine ⟨hnew, ?_⟩
    have hne : o ≠ l.function := by
      rintro rfl
      rw [Machine.handleAt?, hx, Option.bind_some, hadds.handle] at hhandle
      cases hhandle
    rw [Machine.handleAt?, Machine.filled, Array.getElem?_setIfInBounds_ne hne]
    exact hhandle

theorem exposing (hproto : Intrinsic.functionPrototype < m₀.objects.size) (g : Handle) :
    Underway m₀ (grants ++ [⟨m.objects.size, g⟩]) (m.exposing g) where
  same := by rw [h.same]; rfl
  keeps := h.keeps.trans (.push _)
  roots := h.roots.trans (List.suffix_cons _ _)
  orderly := h.orderly.push fun t ht => by
    rcases Target.mem_ofObject.mp ht with ⟨p, hp, ht⟩ | ⟨o, ho, rfl⟩ | ht
    · rw [Array.mem_singleton.mp hp] at ht
      cases ht
    · cases ho
      exact ⟨_, rfl, .inl hproto⟩
    · cases ht
  granted l hl := by
    have hpush : (m.exposing g).handleAt? l.function =
        if l.function = m.objects.size then some g else m.handleAt? l.function := m.handleAt?_push _ _
    rw [hpush]
    rcases List.mem_append.mp hl with hl | hl
    · obtain ⟨hnew, hhandle⟩ := h.granted l hl
      rw [if_neg (Nat.ne_of_lt (Machine.lt_size_of_handleAt? hhandle))]
      exact ⟨hnew, hhandle⟩
    · obtain rfl := List.mem_singleton.mp hl
      rw [if_pos rfl]
      exact ⟨h.size_le, rfl⟩

end Underway

/-- A guest form has been made of a host value. Some functions have been granted for it. -/
structure Made (m₀ m : Machine) (grants : List Lease) (t : Native) (v : Value) (new : List Lease) (m' : Machine) :
    Prop where
  underway : Underway m₀ (grants ++ new) m'
  forms : Forms m'.objects m.objects.size t v (new.map (·.function))
  below : v.Below m'.objects.size
  keeps : Keeps (fun _ => True) m.objects m'.objects
  onward : Onward t.footprint m m'

/-- A conversion has made a guest form, and what has been granted meanwhile comes after what had been before. -/
def HasMade (m₀ m : Machine) (grants : List Lease) (t : Native) (v : Value) (grants' : List Lease) (m' : Machine) : Prop :=
  ∃ new, grants' = grants ++ new ∧ Made m₀ m grants t v new m'

structure Filled (m₀ m : Machine) (grants : List Lease) (o : ObjectId) (bytes : Nat) (new : List Lease) (m' : Machine) :
    Prop where
  underway : Underway m₀ (grants ++ new) m'
  holds : m'.Holds (grants ++ new)
  keeps : Keeps (· ≠ o) m.objects m'.objects
  onward : Onward bytes m m'

section Fill

variable {m₀ m m₁ m₂ : Machine} {grants new new' : List Lease} {o : ObjectId} {t : Native} {v : Value} {x y : Object}
  {a b : Nat}

theorem Filled.refl (h : InHand m₀ grants m) : Filled m₀ m grants o 0 [] m where
  underway := by rw [List.append_nil]; exact h.1
  holds := by rw [List.append_nil]; exact h.2
  keeps := .refl
  onward := .refl

theorem Filled.trans (h : Filled m₀ m grants o a new m₁) (h' : Filled m₀ m₁ (grants ++ new) o b new' m₂) :
    Filled m₀ m grants o (a + b) (new ++ new') m₂ where
  underway := by rw [← List.append_assoc]; exact h'.underway
  holds := by rw [← List.append_assoc]; exact h'.holds
  keeps := h.keeps.trans h'.keeps
  onward := h.onward.trans h'.onward

theorem Machine.getElem?_filled (hx : m.objects[o]? = some x) (y : Object) (bytes : Nat) :
    (m.filled o y bytes).objects[o]? = some y :=
  Array.getElem?_setIfInBounds_self_of_lt (Array.getElem?_eq_some_iff.mp hx).1

theorem Made.filled (h : Made m₀ m grants t v new m₁) (hholds : m.Holds grants) (ho : m₀.objects.size ≤ o)
    (hroot : Root.value (.object o) ∈ m.roots) (hx : m.objects[o]? = some x) (hadds : x.Adds v y) (bytes : Nat) :
    Filled m₀ m grants o (t.footprint + bytes) new (m₁.filled o y bytes) := by
  have hx₁ := h.keeps o x trivial hx
  obtain ⟨hlt, -⟩ := Array.getElem?_eq_some_iff.mp hx
  have honward := h.onward.trans (Onward.filled hx₁ hadds bytes)
  refine ⟨h.underway.filled ho hx₁ hadds ?_ bytes, ?_, ?_, honward⟩
  · rintro p rfl
    rcases h.forms.primitive_or with ⟨-, hobject⟩ | ⟨-, p', hp, hle⟩
    · cases hobject
    · cases hp
      exact ⟨Nat.lt_of_lt_of_le hlt hle, h.below p rfl⟩
  · intro l hl
    rcases List.mem_append.mp hl with hl | hl
    · exact honward.holds hholds l hl
    · obtain ⟨p, rfl, hleads⟩ := h.forms.leads (List.mem_map_of_mem hl)
      refine ⟨o, honward.roots.subset hroot, .step (Machine.getElem?_filled hx₁ y bytes) ?_
        (hleads.grow (Onward.filled hx₁ hadds bytes).grows)⟩
      exact (hadds.targets _).mpr (.inr (List.mem_singleton.mpr rfl))
  · exact (h.keeps.imp fun _ _ => trivial).trans (.setIfInBounds fun hne => hne rfl)

theorem Made.forms_of_filled (h : Made m₀ m grants t v new m₁) (ho : o < m.objects.size)
    (hkeeps : Keeps (· ≠ o) (m₁.filled o y a).objects m₂.objects) :
    Forms m₂.objects m.objects.size t v (new.map (·.function)) := by
  have hbehind : ∀ i, m.objects.size ≤ i → i ≠ o := by
    rintro i hi rfl
    exact Nat.not_lt_of_le hi ho
  exact h.forms.keep ((Keeps.setIfInBounds (Nat.not_le_of_lt ho)).trans (hkeeps.imp hbehind)) (Nat.le_refl _)

theorem Made.below_filled (h : Made m₀ m grants t v new m₁) (o : ObjectId) (y : Object) (bytes : Nat) :
    v.Below (m₁.filled o y bytes).objects.size := by
  have hsize : (m₁.filled o y bytes).objects.size = m₁.objects.size := Array.size_setIfInBounds
  exact hsize ▸ h.below

theorem Filled.made
    (h : Filled m₀ ((m.made x).rooted [.object m.objects.size]) grants m.objects.size t.footprint new m₁)
    (hunderway : Underway m₀ grants m)
    (hforms : Forms m₁.objects m.objects.size t (.object m.objects.size) (new.map (·.function))) :
    Made m₀ m grants t (.object m.objects.size) new { m₁ with roots := m.roots } := by
  have hkeeps : Keeps (fun _ => True) m.objects m₁.objects := by
    intro i z _ hz
    obtain ⟨hlt, -⟩ := Array.getElem?_eq_some_iff.mp hz
    exact h.keeps i z (Nat.ne_of_lt hlt) (Keeps.push (p := fun _ => True) x i z trivial hz)
  refine ⟨h.underway.rebased hunderway.roots _, hforms, ?_, hkeeps, ?_⟩
  · rintro _ ⟨⟩
    exact Nat.lt_of_lt_of_le (Array.getElem?_eq_some_iff.mp (m.getElem?_made x 0)).1 h.onward.size_le
  · exact ⟨.of_keeps hkeeps, Machine.size_le_of_keeps hkeeps, List.suffix_refl _, h.onward.memory,
      h.onward.memoryLimit⟩

end Fill

theorem FormsItems.cons {objects : Array Object} {lo next : Nat} {x : Native} {xs : List Native} {v : Value}
    {vs : List Value} {new new' : List Lease} (hnext : lo ≤ next) (hbelow : v.Below next)
    (hx : Forms objects lo x v (new.map (·.function))) (hxs : FormsItems objects next xs vs (new'.map (·.function))) :
    FormsItems objects lo (x :: xs) (v :: vs) ((new ++ new').map (·.function)) := by
  rw [FormsItems]
  exact ⟨next, v, vs, _, _, rfl, List.map_append, hnext, hbelow, hx, hxs⟩

theorem FormsEntries.cons {objects : Array Object} {lo next : Nat} {k : String} {x : Native}
    {xs : List (String × Native)} {v : Value} {es : List (Value × Value)} {new new' : List Lease} (hnext : lo ≤ next)
    (hbelow : v.Below next) (hx : Forms objects lo x v (new.map (·.function)))
    (hxs : FormsEntries objects next xs es (new'.map (·.function))) : FormsEntries objects lo ((k, x) :: xs)
      ((.text (Text.ofString k), v) :: es) ((new ++ new').map (·.function)) := by
  rw [FormsEntries]
  exact ⟨next, v, es, _, _, rfl, List.map_append, hnext, hbelow, hx, hxs⟩

/-- The guest form of a host value is made from any moment of a conversion on. -/
def Makes (m₀ : Machine) (n : Nat) (t : Native) : Prop :=
  ∀ (m : Machine) (grants : List Lease), InHand m₀ grants m → m.HasRoom t.footprint →
    (Bridge.ofNative t).Serves (InHand m₀) (Engine.ofLevel (n + 4)) m t.needs grants fun v gs m' =>
      ∃ new, gs = grants ++ new ∧ Made m₀ m grants t v new m'

section Conversion

variable {m₀ m : Machine} {n : Nat} {grants : List Lease} {o : ObjectId} (hm₀ : m₀.Unaltered)
  (hdepth : m₀.depth < m₀.depthLimit) (h : InHand m₀ grants m) (ho : m₀.objects.size ≤ o)
  (hroot : Root.value (.object o) ∈ m.roots)
include hm₀ hdepth h ho hroot

omit hdepth in
theorem fillArray_serves {items : List Native} (hitems : ∀ x ∈ items, Makes m₀ n x) {vs : List Value}
    (hx : m.objects[o]? = some (.ofItems vs)) (hlength : vs.length + items.length < 2 ^ 32)
    (hroom : m.HasRoom (Native.footprintOfItems 16 items)) :
    (Bridge.fillArray o vs.length items).Serves (InHand m₀) (Engine.ofLevel (n + 4)) m (Native.needsOfItems items) grants
      fun _ gs m' => ∃ new ws, gs = grants ++ new ∧
        Filled m₀ m grants o (Native.footprintOfItems 16 items) new m' ∧
        m'.objects[o]? = some (.ofItems (vs ++ ws)) ∧
        FormsItems m'.objects m.objects.size items ws (new.map (·.function)) := by
  induction items generalizing m grants vs with
  | nil =>
    rw [Bridge.fillArray, Native.needsOfItems]
    exact .pure ⟨[], [], by simp, .refl h, by simpa using hx, by rw [FormsItems]; exact ⟨rfl, rfl⟩⟩
  | cons x xs ih =>
    rw [List.length_cons] at hlength
    rw [Native.footprintOfItems] at hroom
    rw [Bridge.fillArray, Native.needsOfItems]
    apply Bridge.Serves.bind (hitems x List.mem_cons_self m grants h (hroom.of_le (Nat.le_add_right _ _)))
    rintro v _ m₁ ⟨new, rfl, hmade⟩
    have hadds := Object.adds_item vs v
    have hfilled := hmade.filled h.2 ho hroot hx hadds 16
    have hx₁ := Machine.getElem?_filled (hmade.keeps o _ trivial hx) (Object.ofItems (vs ++ [v])) 16
    have hlt := (Array.getElem?_eq_some_iff.mp hx).1
    have hput := Act.put_item (n := n) (v := v) (hmade.underway.unaltered hm₀) (hmade.keeps o _ trivial hx) (by omega)
      ((hmade.onward.hasRoom hroom).of_le (Nat.le_add_right _ _))
    apply Bridge.Serves.step (Bridge.run_check_of_done hput)
    have hnext : vs.length + 1 = (vs ++ [v]).length := by simp
    rw [hnext]
    rw [← Nat.add_assoc] at hroom
    apply (ih ⟨hfilled.underway, hfilled.holds⟩ (hfilled.onward.roots.subset hroot)
      (fun y hy => hitems y (List.mem_cons_of_mem x hy)) hx₁ (by simp; omega) (hfilled.onward.hasRoom hroom)).imp
    rintro _ _ m₂ ⟨new', ws, rfl, hfilled', hx₂, hforms⟩
    refine ⟨new ++ new', v :: ws, List.append_assoc .., ?_, by simpa using hx₂, ?_⟩
    · rw [Native.footprintOfItems, ← Nat.add_assoc]
      exact hfilled.trans hfilled'
    · exact .cons hfilled.onward.size_le (hmade.below_filled o _ 16) (hmade.forms_of_filled hlt hfilled'.keeps) hforms

theorem fillSet_serves {items : List Native} (hitems : ∀ x ∈ items, Makes m₀ n x) (vs : List Value)
    (hx : m.objects[o]? = some (.ofElements (vs.foldl insertElement [])))
    (hroom : m.HasRoom (Native.footprintOfItems 32 items)) :
    (Bridge.fillSet o items).Serves (InHand m₀) (Engine.ofLevel (n + 4)) m (Native.needsOfItems items) grants
      fun _ gs m' => ∃ new ws, gs = grants ++ new ∧
        Filled m₀ m grants o (Native.footprintOfItems 32 items) new m' ∧
        m'.objects[o]? = some (.ofElements ((vs ++ ws).foldl insertElement [])) ∧
        FormsItems m'.objects m.objects.size items ws (new.map (·.function)) := by
  induction items generalizing m grants vs with
  | nil =>
    rw [Bridge.fillSet, Native.needsOfItems]
    exact .pure ⟨[], [], by simp, .refl h, by simpa using hx, by rw [FormsItems]; exact ⟨rfl, rfl⟩⟩
  | cons x xs ih =>
    rw [Native.footprintOfItems] at hroom
    rw [Bridge.fillSet, Native.needsOfItems]
    apply Bridge.Serves.bind (hitems x List.mem_cons_self m grants h (hroom.of_le (Nat.le_add_right _ _)))
    rintro v _ m₁ ⟨new, rfl, hmade⟩
    have hstep : insertElement (vs.foldl insertElement []) v = (vs ++ [v]).foldl insertElement [] := by
      rw [List.foldl_append, List.foldl_cons, List.foldl_nil]
    have hadds := Object.adds_element (vs.foldl insertElement []) v
    rw [hstep] at hadds
    have hfilled := hmade.filled h.2 ho hroot hx hadds 32
    have hx₁ := Machine.getElem?_filled (hmade.keeps o _ trivial hx) (.ofElements ((vs ++ [v]).foldl insertElement [])) 32
    have hlt := (Array.getElem?_eq_some_iff.mp hx).1
    have hadd : (Bridge.callMethod o "add" [v]).run (Engine.ofLevel (n + 4)) m₁ =
        .done (.ok (.object o)) (m₁.filled o (.ofElements ((vs ++ [v]).foldl insertElement [])) 32) := by
      apply (hmade.underway.unaltered hm₀).run_adder (hmade.underway.lt_depthLimit hdepth) (hmade.keeps o _ trivial hx)
        (Object.reads_of_isTable rfl rfl Object.not_lazy_of_none) rfl (p := Intrinsic.setPrototype) (by decide)
        (by decide +kernel) (f := .setAdd) rfl rfl ((hmade.onward.hasRoom hroom).of_le (Nat.le_add_right _ _))
      intro e m' hx' hroom'
      rw [← hstep]
      exact Act.run_setAdd hx' hroom'
    apply Bridge.Serves.step hadd
    rw [← Nat.add_assoc] at hroom
    apply (ih ⟨hfilled.underway, hfilled.holds⟩ (hfilled.onward.roots.subset hroot)
      (fun y hy => hitems y (List.mem_cons_of_mem x hy)) _ hx₁ (hfilled.onward.hasRoom hroom)).imp
    rintro _ _ m₂ ⟨new', ws, rfl, hfilled', hx₂, hforms⟩
    refine ⟨new ++ new', v :: ws, List.append_assoc .., ?_, by simpa using hx₂, ?_⟩
    · rw [Native.footprintOfItems, ← Nat.add_assoc]
      exact hfilled.trans hfilled'
    · exact .cons hfilled.onward.size_le (hmade.below_filled o _ 32) (hmade.forms_of_filled hlt hfilled'.keeps) hforms

theorem fillMap_serves {entries : List (String × Native)} (hentries : ∀ e ∈ entries, Makes m₀ n e.2)
    (hkeys : (entries.map (·.1)).Nodup) {es : List (Value × Value)}
    (hx : m.objects[o]? = some (.ofEntries es))
    (hnew : ∀ e ∈ es, ∀ k ∈ entries.map (·.1), Act.sameValueZero e.1 (.text (Text.ofString k)) = false)
    (hroom : m.HasRoom (Native.footprintOfEntries entries)) :
    (Bridge.fillMap o entries).Serves (InHand m₀) (Engine.ofLevel (n + 4)) m (Native.needsOfEntries entries) grants
      fun _ gs m' => ∃ new es', gs = grants ++ new ∧
        Filled m₀ m grants o (Native.footprintOfEntries entries) new m' ∧
        m'.objects[o]? = some (.ofEntries (es ++ es')) ∧
        FormsEntries m'.objects m.objects.size entries es' (new.map (·.function)) := by
  induction entries generalizing m grants es with
  | nil =>
    rw [Bridge.fillMap, Native.needsOfEntries]
    exact .pure ⟨[], [], by simp, .refl h, by simpa using hx, by rw [FormsEntries]; exact ⟨rfl, rfl⟩⟩
  | cons e rest ih =>
    obtain ⟨k, x⟩ := e
    rw [Native.footprintOfEntries] at hroom
    rw [Bridge.fillMap, Native.needsOfEntries]
    rw [List.map_cons, List.nodup_cons] at hkeys
    apply Bridge.Serves.bind (hentries (k, x) List.mem_cons_self m grants h (hroom.of_le (Nat.le_add_right _ _)))
    rintro v _ m₁ ⟨new, rfl, hmade⟩
    have hadds := Object.adds_entry es (Text.ofString k) v
    have hfilled := hmade.filled h.2 ho hroot hx hadds 32
    have hx₁ := Machine.getElem?_filled (hmade.keeps o _ trivial hx) (.ofEntries (es ++ [(.text (Text.ofString k), v)])) 32
    have hlt := (Array.getElem?_eq_some_iff.mp hx).1
    have hset : (Bridge.callMethod o "set" [.text (Text.ofString k), v]).run (Engine.ofLevel (n + 4)) m₁ =
        .done (.ok (.object o)) (m₁.filled o (.ofEntries (es ++ [(.text (Text.ofString k), v)])) 32) := by
      apply (hmade.underway.unaltered hm₀).run_adder (hmade.underway.lt_depthLimit hdepth) (hmade.keeps o _ trivial hx)
        (Object.reads_of_isTable rfl rfl Object.not_lazy_of_none) rfl (p := Intrinsic.mapPrototype) (by decide)
        (by decide +kernel) (f := .mapSet) rfl rfl ((hmade.onward.hasRoom hroom).of_le (Nat.le_add_right _ _))
      intro e m' hx' hroom'
      exact Act.run_mapSet hx' (fun e he => hnew e he k List.mem_cons_self) hroom'
    apply Bridge.Serves.step hset
    rw [← Nat.add_assoc] at hroom
    have hnew' : ∀ e ∈ es ++ [(Value.text (Text.ofString k), v)], ∀ k' ∈ rest.map (·.1),
        Act.sameValueZero e.1 (.text (Text.ofString k')) = false := by
      intro e he k' hk'
      rcases List.mem_append.mp he with he | he
      · exact hnew e he k' (List.mem_cons_of_mem _ hk')
      · obtain rfl := List.mem_singleton.mp he
        have hne : Text.ofString k ≠ Text.ofString k' := fun htext =>
          hkeys.1 (Text.ofString_injective htext ▸ hk')
        simpa [Act.sameValueZero] using hne
    apply (ih ⟨hfilled.underway, hfilled.holds⟩ (hfilled.onward.roots.subset hroot)
      (fun e he => hentries e (List.mem_cons_of_mem _ he)) hkeys.2 hx₁ hnew' (hfilled.onward.hasRoom hroom)).imp
    rintro _ _ m₂ ⟨new', es', rfl, hfilled', hx₂, hforms⟩
    refine ⟨new ++ new', (.text (Text.ofString k), v) :: es', List.append_assoc .., ?_, by simpa using hx₂, ?_⟩
    · rw [Native.footprintOfEntries, ← Nat.add_assoc]
      exact hfilled.trans hfilled'
    · exact .cons hfilled.onward.size_le (hmade.below_filled o _ 32) (hmade.forms_of_filled hlt hfilled'.keeps) hforms

end Conversion

section Makes

variable {m₀ m m' : Machine} {n : Nat} {grants : List Lease} {t : Native} {v : Value} (hm₀ : m₀.Unaltered)

theorem Machine.Unaltered.lt_size (h : m.Unaltered) {o : ObjectId} (ho : o ∈ Intrinsic.crossing) : o < m.objects.size :=
  (Array.getElem?_eq_some_iff.mp (h.object ho)).1

include hm₀ in
theorem Underway.made_plain (h : Underway m₀ grants m) {x : Object} {p : ObjectId} (hx : x.handle? = none)
    (htargets : Target.ofObject x = [.object p]) (hp : p ∈ Intrinsic.crossing) (bytes : Nat) :
    Underway m₀ grants (m.made x bytes) := by
  refine h.made hx (fun t ht => ?_) bytes
  rw [htargets] at ht
  exact ⟨p, List.mem_singleton.mp ht, .inl (hm₀.lt_size hp)⟩

theorem Made.of_primitive (hforms : ∀ objects lo, Forms objects lo t v []) (hobject : ∀ o, v ≠ .object o)
    (hunderway : Underway m₀ grants m') (honward : Onward t.footprint m m') (hobjects : m'.objects = m.objects) :
    HasMade m₀ m grants t v grants m' :=
  ⟨[], (List.append_nil _).symm, by rwa [List.append_nil], hforms _ _, fun o ho => absurd ho (hobject o),
    hobjects ▸ .refl, honward⟩

theorem Made.of_made {x : Object} (hforms : Forms (m.made x t.footprint).objects m.objects.size t (.object m.objects.size) [])
    (hunderway : Underway m₀ grants (m.made x t.footprint)) :
    HasMade m₀ m grants t (.object m.objects.size) grants (m.made x t.footprint) := by
  refine ⟨[], (List.append_nil _).symm, by rwa [List.append_nil], hforms, ?_, .push x, .made x _⟩
  rintro _ ⟨⟩
  exact (Array.getElem?_eq_some_iff.mp (m.getElem?_made x _)).1

include hm₀ in
theorem container_makes {e : Engine} {x : Object} {p : ObjectId} {y : Bridge Unit} {needs : List Need}
    (h : InHand m₀ grants m) (hx : x.handle? = none) (htargets : Target.ofObject x = [.object p])
    (hp : p ∈ Intrinsic.crossing)
    (hfill : InHand m₀ grants ((m.made x).rooted [.object m.objects.size]) →
      y.Serves (InHand m₀) e ((m.made x).rooted [.object m.objects.size]) needs grants fun _ gs m' =>
        ∃ new, gs = grants ++ new ∧
          Filled m₀ ((m.made x).rooted [.object m.objects.size]) grants m.objects.size t.footprint new m' ∧
          Forms m'.objects m.objects.size t (.object m.objects.size) (new.map (·.function))) :
    (do
      Bridge.holding [.object m.objects.size] y
      return .object m.objects.size : Bridge Value).Serves (InHand m₀) e (m.made x) needs grants
        (HasMade m₀ m grants t) := by
  have hbegun : Underway m₀ grants ((m.made x).rooted [.object m.objects.size]) :=
    (h.1.made_plain hm₀ hx htargets hp 0).rebased (h.1.roots.trans (List.suffix_append _ _)) _
  have honward : Onward 0 m ((m.made x).rooted [.object m.objects.size]) :=
    ⟨.of_keeps (.push _), by simp [Machine.made, Machine.rooted], List.suffix_append _ _, rfl, rfl⟩
  rw [← List.append_nil needs]
  apply Bridge.Serves.bind (Bridge.Serves.holding (P := fun _ => HasMade m₀ m grants t (.object m.objects.size))
    ((hfill ⟨hbegun, honward.holds h.2⟩).imp ?_))
  · rintro _ gs m' hmade
    exact .pure hmade
  · rintro _ _ m₁ ⟨new, rfl, hfilled, hforms⟩
    exact ⟨new, rfl, hfilled.made h.1 hforms⟩

section

variable {items : List Native} {entries : List (String × Native)} (h : InHand m₀ grants m)
include hm₀ h

theorem bigint_makes (hdepth : m₀.depth < m₀.depthLimit) (i : Int) :
    (Bridge.newBigInt i).Serves (InHand m₀) (Engine.ofLevel (n + 4)) m [] grants (HasMade m₀ m grants (.bigint i)) :=
  Bridge.newBigInt_serves h ((h.1.unaltered hm₀).call_bigInt (h.1.lt_depthLimit hdepth) i)
    (Made.of_primitive (fun _ _ => ⟨rfl, rfl⟩) (fun _ h => by cases h) h.1 .refl rfl)

omit hm₀ in
theorem string_makes {s : String} (hroom : m.HasRoom (Native.string s).footprint) :
    (Bridge.check (Act.newText (Text.ofString s))).Serves (InHand m₀) (Engine.ofLevel (n + 4)) m [] grants
      (HasMade m₀ m grants (.string s)) := by
  have hmade := Bridge.run_check_of_done (Act.run_newText (e := Engine.ofLevel (n + 4)) hroom)
  have honward : Onward (Native.string s).footprint m { m with memory := m.memory + (Native.string s).footprint } :=
    ⟨.of_keeps .refl, Nat.le_refl _, List.suffix_refl _, rfl, rfl⟩
  exact .of_done hmade
    (Made.of_primitive (fun _ _ => ⟨rfl, rfl⟩) (fun _ h => by cases h) (h.1.rebased h.1.roots _) honward rfl)

theorem array_makes (hlength : items.length < 2 ^ 32) (hitems : ∀ x ∈ items, Makes m₀ n x)
    (hroom : m.HasRoom (Native.array items).footprint) :
    (do
      let o ← Bridge.check (Act.newArray [])
      Bridge.holding [.object o] (Bridge.fillArray o 0 items)
      return .object o : Bridge Value).Serves (InHand m₀) (Engine.ofLevel (n + 4)) m (Native.needsOfItems items) grants
        (HasMade m₀ m grants (.array items)) := by
  apply Bridge.Serves.step (Bridge.run_check_of_done (Act.run_newArray (hroom.of_le (Nat.zero_le _))))
  apply container_makes hm₀ h rfl rfl (by decide)
  intro h'
  apply (fillArray_serves (n := n) hm₀ h' h.1.size_le List.mem_cons_self hitems (m.getElem?_made _ 0)
    (by simpa using hlength) hroom).imp
  rintro _ _ m₁ ⟨new, ws, rfl, hfilled, hx, hforms⟩
  refine ⟨new, rfl, hfilled, ?_⟩
  rw [Forms]
  refine ⟨_, ws, rfl, Nat.le_refl _, hx, ?_⟩
  simpa [Machine.made, Machine.rooted] using hforms

theorem bytes_makes {data : List UInt8} (hroom : m.HasRoom data.length) :
    (do return .object (← Bridge.newBytes data) : Bridge Value).Serves (InHand m₀) (Engine.ofLevel (n + 4)) m [] grants
      (HasMade m₀ m grants (.bytes data)) := by
  apply Bridge.Serves.step (Bridge.run_newBytes hroom)
  refine .pure (Made.of_made ?_ ?_)
  · rw [Forms]
    exact ⟨rfl, _, rfl, Nat.le_refl _, m.getElem?_made _ _⟩
  · exact h.1.made_plain hm₀ rfl rfl (by decide) _

theorem typed_makes (hdepth : m₀.depth < m₀.depthLimit) {t : ElementType} {xs : List t.Carrier}
    (hroom : m.HasRoom (Native.typed t xs).footprint) :
    (do return .object (← Bridge.typedOfNative t xs) : Bridge Value).Serves (InHand m₀) (Engine.ofLevel (n + 4)) m []
      grants (HasMade m₀ m grants (.typed t xs)) := by
  rw [Bridge.typedOfNative]
  have hlength : (t.encode xs).length = (Native.typed t xs).footprint := ElementType.length_encode t xs
  have hbytes := h.1.made_plain hm₀ (x := .ofBytes (t.encode xs)) rfl rfl (by decide) (t.encode xs).length
  have hbuffer := m.getElem?_made (.ofBytes (t.encode xs)) (t.encode xs).length
  rw [bind_assoc]
  apply Bridge.Serves.step (Bridge.run_newBytes (hlength ▸ hroom))
  apply Bridge.constructKind_serves ⟨hbytes, (Onward.made _ _).holds h.2⟩ rfl
    ((hbytes.unaltered hm₀).construct_row (n := n + 2) (hbytes.lt_depthLimit hdepth) hbuffer)
  generalize hm₁ : m.made (.ofBytes (t.encode xs)) (t.encode xs).length = m₁ at hbytes hbuffer
  have hsize : m₁.objects.size = m.objects.size + 1 := by simp [← hm₁, Machine.made]
  have hrow := m₁.getElem?_made (.ofRow t m.objects.size xs.length) 0
  refine .pure ⟨[], (List.append_nil _).symm, ?_, ?_, ?_, ?_, ?_⟩
  · rw [List.append_nil]
    refine hbytes.made rfl (fun t' ht => ?_) 0
    rcases List.mem_pair.mp ht with rfl | rfl
    · exact ⟨_, rfl, .inl (hm₀.lt_size (by cases t <;> decide))⟩
    · exact ⟨_, rfl, .inr ⟨_, hbuffer⟩⟩
  · rw [Forms]
    exact ⟨rfl, m.objects.size, _, rfl, Nat.le_refl _, by omega, Keeps.push (p := fun _ => True) _ _ _ trivial hbuffer,
      hrow⟩
  · rintro _ ⟨⟩
    exact (Array.getElem?_eq_some_iff.mp hrow).1
  · subst hm₁
    exact .trans (.push _) (.push _)
  · subst hm₁
    rw [← hlength]
    exact (Onward.made _ _).trans (Onward.made _ 0)

theorem map_makes (hdepth : m₀.depth < m₀.depthLimit) (hkeys : (entries.map (·.1)).Nodup)
    (hentries : ∀ e ∈ entries, Makes m₀ n e.2) (hroom : m.HasRoom (Native.map entries).footprint) :
    (do
      let o ← Bridge.constructKind .map []
      Bridge.holding [.object o] (Bridge.fillMap o entries)
      return .object o : Bridge Value).Serves (InHand m₀) (Engine.ofLevel (n + 4)) m (Native.needsOfEntries entries)
        grants (HasMade m₀ m grants (.map entries)) := by
  apply Bridge.constructKind_serves h rfl ((h.1.unaltered hm₀).construct_map (n := n + 2) (h.1.lt_depthLimit hdepth))
  apply container_makes hm₀ h rfl rfl (by decide)
  intro h'
  apply (fillMap_serves (n := n) hm₀ hdepth h' h.1.size_le List.mem_cons_self hentries hkeys (m.getElem?_made _ 0)
    (fun _ h => by cases h) hroom).imp
  rintro _ _ m₁ ⟨new, es, rfl, hfilled, hx, hforms⟩
  refine ⟨new, rfl, hfilled, ?_⟩
  rw [Forms]
  refine ⟨_, es, rfl, Nat.le_refl _, hx, ?_⟩
  simpa [Machine.made, Machine.rooted] using hforms

theorem set_makes (hdepth : m₀.depth < m₀.depthLimit) (hitems : ∀ x ∈ items, Makes m₀ n x)
    (hroom : m.HasRoom (Native.set items).footprint) :
    (do
      let o ← Bridge.constructKind .set []
      Bridge.holding [.object o] (Bridge.fillSet o items)
      return .object o : Bridge Value).Serves (InHand m₀) (Engine.ofLevel (n + 4)) m (Native.needsOfItems items) grants
        (HasMade m₀ m grants (.set items)) := by
  apply Bridge.constructKind_serves h rfl ((h.1.unaltered hm₀).construct_set (n := n + 2) (h.1.lt_depthLimit hdepth))
  apply container_makes hm₀ h rfl rfl (by decide)
  intro h'
  apply (fillSet_serves (n := n) hm₀ hdepth h' h.1.size_le List.mem_cons_self hitems [] (m.getElem?_made _ 0) hroom).imp
  rintro _ _ m₁ ⟨new, ws, rfl, hfilled, hx, hforms⟩
  refine ⟨new, rfl, hfilled, ?_⟩
  rw [Forms]
  refine ⟨_, ws, rfl, Nat.le_refl _, hx, ?_⟩
  simpa [Machine.made, Machine.rooted] using hforms

theorem date_makes (hdepth : m₀.depth < m₀.depthLimit) {i : Instant} (hleast : Instant.leastMilliseconds ≤ i.milliseconds)
    (hgreatest : i.milliseconds ≤ Instant.greatestMilliseconds) :
    (do return .object (← Bridge.constructKind .date [.ofInt i.milliseconds]) : Bridge Value).Serves (InHand m₀)
      (Engine.ofLevel (n + 4)) m [] grants (HasMade m₀ m grants (.date i)) := by
  apply Bridge.constructKind_serves h rfl
    ((h.1.unaltered hm₀).construct_date (n := n + 2) (h.1.lt_depthLimit hdepth) hleast hgreatest)
  refine .pure (Made.of_made ?_ ?_)
  · rw [Forms]
    exact ⟨rfl, _, rfl, Nat.le_refl _, m.getElem?_made _ _⟩
  · exact h.1.made_plain hm₀ rfl rfl (by decide) _

theorem function_makes (f : HostFn) :
    (do return .object (← Bridge.expose f).2 : Bridge Value).Serves (InHand m₀) (Engine.ofLevel (n + 4)) m [.function f]
      grants (HasMade m₀ m grants (.function f)) := by
  refine Bridge.expose_serves h fun g => .pure ⟨[⟨m.objects.size, g⟩], rfl, ?_, ?_, ?_, .push _, ?_⟩
  · exact h.1.exposing (hm₀.lt_size (by decide)) g
  · rw [Forms]
    exact ⟨_, g, rfl, rfl, Nat.le_refl _, Array.getElem?_push_size⟩
  · rintro _ ⟨⟩
    simp [Machine.exposing]
  · exact ⟨.of_keeps (.push _), by simp [Machine.exposing], List.suffix_cons _ _, rfl, rfl⟩

end

include hm₀ in
theorem makes_of_fitsWithin {k : Nat} (hdepth : m₀.depth < m₀.depthLimit) (hfits : t.FitsWithin k) : Makes m₀ n t := by
  induction k generalizing t with
  | zero => exact hfits.elim
  | succ k ih =>
    intro m grants h hroom
    cases t <;> rw [Bridge.ofNative, Native.needs]
    case int n =>
      rw [Value.ofInt64_eq]
      exact .pure (Made.of_primitive (fun _ _ => ⟨rfl, rfl⟩) (fun _ h => by cases h) h.1 .refl rfl)
    case null | bool | float =>
      exact .pure (Made.of_primitive (fun _ _ => ⟨rfl, rfl⟩) (fun _ h => by cases h) h.1 .refl rfl)
    case bigint i => exact bigint_makes hm₀ h hdepth i
    case string => exact string_makes h hroom
    case array => exact array_makes hm₀ h hfits.1 (fun x hx => ih (hfits.2 x hx)) hroom
    case bytes => exact bytes_makes hm₀ h hroom
    case typed => exact typed_makes hm₀ h hdepth hroom
    case map => exact map_makes hm₀ h hdepth hfits.2.1 (fun e he => ih (hfits.2.2 e he)) hroom
    case set => exact set_makes hm₀ h hdepth (fun x hx => ih (hfits.2 x hx)) hroom
    case date => exact date_makes hm₀ h hdepth hfits.2.1 hfits.2.2
    case function f => exact function_makes hm₀ h f
    case unmapped =>
      -- The host says whether it comes through as `null` or not at all.
      refine ⟨rfl, h, fun r => ?_⟩
      cases r with
      | error => exact ⟨m.roots, rfl⟩
      | null =>
        exact ⟨trivial, h, fun _ => ⟨rfl, _, rfl,
          Made.of_primitive (fun _ _ => ⟨rfl, rfl⟩) (fun _ h => by cases h) h.1 .refl rfl⟩⟩

end Makes

end Embedding.Guest
