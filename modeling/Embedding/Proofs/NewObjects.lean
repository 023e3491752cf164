import Embedding.Proofs.ClosedMachines
import Embedding.Proofs.Making

namespace Embedding.Guest

namespace Target

theorem mem_ofValues {vs : List Value} {t : Target} : t ∈ ofValues vs ↔ ∃ o, t = .object o ∧ .object o ∈ vs := by
  simp only [ofValues, List.mem_flatMap]
  constructor
  · rintro ⟨v, hv, ht⟩
    cases v with
    | object o =>
      obtain rfl := List.mem_singleton.mp ht
      exact ⟨o, rfl, hv⟩
    | _ => cases ht
  · rintro ⟨o, rfl, hv⟩
    exact ⟨_, hv, List.mem_singleton.mpr rfl⟩

theorem mem_ofValue {v : Value} {t : Target} : t ∈ ofValue v ↔ ∃ o, t = .object o ∧ v = .object o := by
  have hvalues : ofValue v = ofValues [v] := by simp [ofValues]
  rw [hvalues, mem_ofValues]
  simp [eq_comm]

theorem mem_ofItems {vs : List Value} {t : Target} :
    t ∈ ofObject (.ofItems vs) ↔ t = .object Intrinsic.arrayPrototype ∨ t ∈ ofValues vs := by
  simp [mem_ofObject, Object.ofItems, ofPayload, ofValues, List.flatMap_map]

theorem mem_ofElements {vs : List Value} {t : Target} :
    t ∈ ofObject (.ofElements vs) ↔ t = .object Intrinsic.setPrototype ∨ t ∈ ofValues vs := by
  simp [mem_ofObject, Object.ofElements, ofPayload, ofValues, List.flatMap_map]

theorem mem_ofEntries {es : List (Value × Value)} {t : Target} : t ∈ ofObject (.ofEntries es) ↔
    t = .object Intrinsic.mapPrototype ∨ ∃ e ∈ es, t ∈ ofValue e.1 ∨ t ∈ ofValue e.2 := by
  simp [mem_ofObject, Object.ofEntries, ofPayload, List.flatMap_map]

end Target

theorem object_mem_insertElement {vs : List Value} {v : Value} {o : ObjectId} :
    .object o ∈ insertElement vs v ↔ .object o ∈ vs ∨ v = .object o := by
  have hkey : entryKey v = .object o ↔ v = .object o := by
    cases v <;> simp [entryKey]
  unfold insertElement
  split
  · next hfound =>
    refine ⟨.inl, fun h => h.elim id ?_⟩
    rintro rfl
    obtain ⟨w, hw, hsame⟩ := List.any_eq_true.mp hfound
    cases w <;> simp [Act.sameValueZero] at hsame
    exact hsame ▸ hw
  · simp [hkey, eq_comm]

theorem object_mem_foldl_insertElement {vs kept : List Value} {o : ObjectId} :
    .object o ∈ vs.foldl insertElement kept ↔ .object o ∈ kept ∨ .object o ∈ vs := by
  induction vs generalizing kept with
  | nil => simp
  | cons v vs ih =>
    rw [List.foldl_cons, ih, object_mem_insertElement, List.mem_cons, or_assoc]
    simp [eq_comm]

/-- An object leads to another when it refers to it, or to something that leads to it. -/
inductive Leads (objects : Array Object) : ObjectId → ObjectId → Prop
  | refl {o : ObjectId} : Leads objects o o
  | step {a b c : ObjectId} {x : Object} (hx : objects[a]? = some x) (hb : .object b ∈ Target.ofObject x)
      (h : Leads objects b c) : Leads objects a c

/-- Each object of a row still refers to what it referred to. -/
def Grows (a b : Array Object) : Prop :=
  ∀ (i : Nat) (x : Object), a[i]? = some x → ∃ y, b[i]? = some y ∧ ∀ t ∈ Target.ofObject x, t ∈ Target.ofObject y

namespace Grows

variable {a b c : Array Object}

theorem of_keeps (h : Keeps (fun _ => True) a b) : Grows a b := fun i x hx => ⟨x, h i x trivial hx, fun _ ht => ht⟩

theorem trans (h : Grows a b) (h' : Grows b c) : Grows a c := by
  intro i x hx
  obtain ⟨y, hy, hxy⟩ := h i x hx
  obtain ⟨z, hz, hyz⟩ := h' i y hy
  exact ⟨z, hz, fun t ht => hyz t (hxy t ht)⟩

theorem setIfInBounds {o : ObjectId} {x y : Object} (hx : a[o]? = some x)
    (hy : ∀ t ∈ Target.ofObject x, t ∈ Target.ofObject y) : Grows a (a.setIfInBounds o y) := by
  intro i z hz
  by_cases hi : o = i
  · subst hi
    obtain ⟨hlt, -⟩ := Array.getElem?_eq_some_iff.mp hx
    rw [hx] at hz
    cases hz
    exact ⟨y, Array.getElem?_setIfInBounds_self_of_lt hlt, hy⟩
  · exact ⟨z, by rw [Array.getElem?_setIfInBounds_ne hi, hz], fun _ ht => ht⟩

end Grows

theorem Leads.grow {a b : Array Object} {o o' : ObjectId} (h : Leads a o o') (hgrows : Grows a b) : Leads b o o' := by
  induction h with
  | refl => exact .refl
  | step hx hb _ ih =>
    obtain ⟨y, hy, hxy⟩ := hgrows _ _ hx
    exact .step hy (hxy _ hb) ih

theorem Leads.not_freed {m : Machine} {held : List Value} {a o : ObjectId} (h : Leads m.objects a o)
    (ha : ¬ m.Freed held a) : ¬ m.Freed held o := by
  induction h with
  | refl => exact ha
  | @step a b c x hx hb _ ih =>
    apply ih
    rintro ⟨-, hplaces⟩
    obtain ⟨hlt, hget⟩ := Array.getElem?_eq_some_iff.mp hx
    apply ha (hplaces a (Nat.lt_add_right _ hlt) (List.mem_map.mpr ⟨.object b, ?_, rfl⟩))
    rwa [Machine.targetsAt, if_pos hlt, Array.getD_eq_getD_getElem?, hx]

section Forms

variable {objects : Array Object} {o : ObjectId}

mutual

theorem Forms.leads {lo : Nat} {t : Native} {v : Value} {os : List ObjectId} (h : Forms objects lo t v os) (ho : o ∈ os) :
    ∃ a, v = .object a ∧ Leads objects a o := by
  cases t with
  | array items =>
    rw [Forms] at h
    obtain ⟨a, vs, rfl, -, hx, hitems⟩ := h
    obtain ⟨b, hb, hleads⟩ := hitems.leads ho
    exact ⟨a, rfl, .step hx (Target.mem_ofItems.mpr (.inr (Target.mem_ofValues.mpr ⟨b, rfl, hb⟩))) hleads⟩
  | map entries =>
    rw [Forms] at h
    obtain ⟨a, es, rfl, -, hx, hentries⟩ := h
    obtain ⟨k, b, hb, hleads⟩ := hentries.leads ho
    exact ⟨a, rfl, .step hx (Target.mem_ofEntries.mpr (.inr ⟨_, hb, .inr (List.mem_singleton.mpr rfl)⟩)) hleads⟩
  | set items =>
    rw [Forms] at h
    obtain ⟨a, vs, rfl, -, hx, hitems⟩ := h
    obtain ⟨b, hb, hleads⟩ := hitems.leads ho
    have helement : .object b ∈ vs.foldl insertElement [] := object_mem_foldl_insertElement.mpr (.inr hb)
    exact ⟨a, rfl, .step hx (Target.mem_ofElements.mpr (.inr (Target.mem_ofValues.mpr ⟨b, rfl, helement⟩))) hleads⟩
  | function f =>
    rw [Forms] at h
    obtain ⟨a, _, rfl, rfl, -, -⟩ := h
    obtain rfl := List.mem_singleton.mp ho
    exact ⟨o, rfl, .refl⟩
  | bytes | typed | date =>
    rw [Forms] at h
    obtain ⟨rfl, -⟩ := h
    cases ho
  | _ =>
    obtain ⟨rfl, -⟩ := h
    cases ho

theorem FormsItems.leads {lo : Nat} {xs : List Native} {vs : List Value} {os : List ObjectId}
    (h : FormsItems objects lo xs vs os) (ho : o ∈ os) : ∃ a, .object a ∈ vs ∧ Leads objects a o := by
  cases xs with
  | nil =>
    rw [FormsItems] at h
    obtain ⟨-, rfl⟩ := h
    cases ho
  | cons x xs =>
    rw [FormsItems] at h
    obtain ⟨next, w, ws, os₁, os₂, rfl, rfl, -, -, hform, hrest⟩ := h
    rcases List.mem_append.mp ho with ho | ho
    · obtain ⟨a, rfl, hleads⟩ := hform.leads ho
      exact ⟨a, List.mem_cons_self, hleads⟩
    · obtain ⟨a, ha, hleads⟩ := hrest.leads ho
      exact ⟨a, List.mem_cons_of_mem _ ha, hleads⟩

theorem FormsEntries.leads {lo : Nat} {entries : List (String × Native)} {es : List (Value × Value)}
    {os : List ObjectId} (h : FormsEntries objects lo entries es os) (ho : o ∈ os) :
    ∃ k a, (k, .object a) ∈ es ∧ Leads objects a o := by
  cases entries with
  | nil =>
    rw [FormsEntries] at h
    obtain ⟨-, rfl⟩ := h
    cases ho
  | cons e rest =>
    rw [FormsEntries] at h
    obtain ⟨next, w, es', os₁, os₂, rfl, rfl, -, -, hform, hrest⟩ := h
    rcases List.mem_append.mp ho with ho | ho
    · obtain ⟨a, rfl, hleads⟩ := hform.leads ho
      exact ⟨_, a, List.mem_cons_self, hleads⟩
    · obtain ⟨k, a, ha, hleads⟩ := hrest.leads ho
      exact ⟨k, a, List.mem_cons_of_mem _ ha, hleads⟩

end

end Forms

structure Object.Adds (x : Object) (v : Value) (y : Object) : Prop where
  targets : ∀ t, t ∈ Target.ofObject y ↔ t ∈ Target.ofObject x ∨ t ∈ Target.ofValue v
  handle : x.handle? = none
  handle' : y.handle? = none
  noBuffer : ∀ data, x ≠ .ofBytes data

namespace Object

theorem adds_item (vs : List Value) (v : Value) : (ofItems vs).Adds v (ofItems (vs ++ [v])) where
  targets t := by
    rw [Target.mem_ofItems, Target.mem_ofItems, or_assoc]
    simp [Target.ofValues]
  handle := rfl
  handle' := rfl
  noBuffer _ := nofun

theorem adds_element (vs : List Value) (v : Value) : (ofElements vs).Adds v (ofElements (insertElement vs v)) where
  targets t := by
    rw [Target.mem_ofElements, Target.mem_ofElements, or_assoc, Target.mem_ofValues, Target.mem_ofValues,
      Target.mem_ofValue]
    simp only [object_mem_insertElement, and_or_left, exists_or]
  handle := rfl
  handle' := rfl
  noBuffer _ := nofun

theorem adds_entry (es : List (Value × Value)) (t : Text) (v : Value) :
    (ofEntries es).Adds v (ofEntries (es ++ [(.text t, v)])) where
  targets t := by
    rw [Target.mem_ofEntries, Target.mem_ofEntries, or_assoc]
    simp [Target.ofValue, or_and_right, exists_or]
  handle := rfl
  handle' := rfl
  noBuffer _ := nofun

end Object

/-- The objects from a place on refer to older ones, to newer ones behind them, and to buffers. -/
def Orderly (lo : ObjectId) (objects : Array Object) : Prop :=
  ∀ (j : Nat) (x : Object), lo ≤ j → objects[j]? = some x → ∀ t ∈ Target.ofObject x,
    ∃ i, t = .object i ∧ (i < lo ∨ (j < i ∧ i < objects.size) ∨ ∃ data, objects[i]? = some (.ofBytes data))

namespace Orderly

variable {lo : ObjectId} {objects : Array Object}

theorem of_size_le (h : objects.size ≤ lo) : Orderly lo objects := by
  intro j x hj hx
  obtain ⟨hlt, -⟩ := Array.getElem?_eq_some_iff.mp hx
  exact absurd hlt (Nat.not_lt_of_le (Nat.le_trans h hj))

theorem push {x : Object} (h : Orderly lo objects)
    (hx : ∀ t ∈ Target.ofObject x, ∃ i, t = .object i ∧ (i < lo ∨ ∃ data, objects[i]? = some (.ofBytes data))) :
    Orderly lo (objects.push x) := by
  have hbuffer : ∀ {i : Nat} {data : List UInt8}, objects[i]? = some (.ofBytes data) → (objects.push x)[i]? = some (.ofBytes data) :=
    fun hi => Keeps.push (p := fun _ => True) x _ _ trivial hi
  intro j y hj hy t ht
  rw [Array.getElem?_push] at hy
  split at hy
  · cases hy
    obtain ⟨i, rfl, hi | ⟨data, hi⟩⟩ := hx t ht
    · exact ⟨i, rfl, .inl hi⟩
    · exact ⟨i, rfl, .inr (.inr ⟨data, hbuffer hi⟩)⟩
  · obtain ⟨i, rfl, hi | hi | ⟨data, hi⟩⟩ := h j y hj hy t ht
    · exact ⟨i, rfl, .inl hi⟩
    · exact ⟨i, rfl, .inr (.inl ⟨hi.1, by simpa using Nat.lt_succ_of_lt hi.2⟩)⟩
    · exact ⟨i, rfl, .inr (.inr ⟨data, hbuffer hi⟩)⟩

theorem fill {o : ObjectId} {x y : Object} {v : Value} (h : Orderly lo objects) (hx : objects[o]? = some x)
    (hadds : x.Adds v y) (hv : ∀ a, v = .object a → o < a ∧ a < objects.size) :
    Orderly lo (objects.setIfInBounds o y) := by
  have hbuffer : ∀ {i : Nat} {data : List UInt8}, objects[i]? = some (.ofBytes data) →
      (objects.setIfInBounds o y)[i]? = some (.ofBytes data) := by
    intro i data hi
    have hne : o ≠ i := by
      rintro rfl
      exact hadds.noBuffer data (Option.some.inj (hx.symm.trans hi))
    rw [Array.getElem?_setIfInBounds_ne hne, hi]
  have hkept : ∀ {j : Nat} {z : Object}, lo ≤ j → objects[j]? = some z → ∀ t ∈ Target.ofObject z, ∃ i, t = .object i ∧
      (i < lo ∨ (j < i ∧ i < (objects.setIfInBounds o y).size) ∨
        ∃ data, (objects.setIfInBounds o y)[i]? = some (.ofBytes data)) := by
    rw [Array.size_setIfInBounds]
    intro j z hj hz t ht
    obtain ⟨i, rfl, hi | hi | ⟨data, hi⟩⟩ := h j z hj hz t ht
    · exact ⟨i, rfl, .inl hi⟩
    · exact ⟨i, rfl, .inr (.inl hi)⟩
    · exact ⟨i, rfl, .inr (.inr ⟨data, hbuffer hi⟩)⟩
  intro j z hj hz t ht
  by_cases hjo : o = j
  · subst hjo
    obtain ⟨hlt, -⟩ := Array.getElem?_eq_some_iff.mp hx
    rw [Array.getElem?_setIfInBounds_self_of_lt hlt] at hz
    cases hz
    rcases (hadds.targets t).mp ht with ht | ht
    · exact hkept hj hx t ht
    · obtain ⟨a, rfl, ha⟩ := Target.mem_ofValue.mp ht
      exact ⟨a, rfl, .inr (.inl (by simpa using hv a ha))⟩
  · rw [Array.getElem?_setIfInBounds_ne hjo] at hz
    exact hkept hj hz t ht

theorem lt_size (h : Orderly lo objects) (hlo : lo ≤ objects.size) {x : Object} {j : Nat} (hj : lo ≤ j)
    (hx : objects[j]? = some x) : ∀ t ∈ Target.ofObject x, t.Known objects.size := by
  intro t ht
  obtain ⟨i, rfl, hi | ⟨-, hi⟩ | ⟨data, hi⟩⟩ := h j x hj hx t ht
  · exact Target.known_object.mpr (Nat.lt_of_lt_of_le hi hlo)
  · exact Target.known_object.mpr hi
  · exact Target.known_object.mpr (Array.getElem?_eq_some_iff.mp hi).1

end Orderly

namespace Machine

theorem not_freed_of_value {m : Machine} {held : List Value} {a o : ObjectId} (ha : Root.value (.object a) ∈ m.roots)
    (h : Leads m.objects a o) : ¬ m.Freed held o :=
  h.not_freed (not_freed_of_root (mem_rootPlaces_of_value ha))

section Grown

variable {m m' : Machine} {held held' : List Value} (hwhole : m.Whole held)
  (hkeeps : Keeps (fun _ => True) m.objects m'.objects) (hcells : m'.cells = m.cells)

def movedPlace (m m' : Machine) (i : Nat) : Nat :=
  if i < m.objects.size then i else m'.objects.size + (i - m.objects.size)

include hkeeps in
theorem size_le_of_keeps : m.objects.size ≤ m'.objects.size := by
  by_contra hlt
  have hx := Array.getElem?_eq_getElem (Nat.lt_of_not_le hlt)
  have hx' := hkeeps _ _ trivial hx
  obtain ⟨hself, -⟩ := Array.getElem?_eq_some_iff.mp hx'
  exact Nat.lt_irrefl _ hself

theorem placeOf_moved {t : Target} (ht : t.Known m.objects.size) :
    m'.placeOf t = movedPlace m m' (m.placeOf t) := by
  cases t with
  | object o => exact (if_pos (Target.known_object.mp ht)).symm
  | cell c =>
    have hge : ¬ m.objects.size + c < m.objects.size := Nat.not_lt.mpr (Nat.le_add_right _ _)
    simp only [placeOf, movedPlace, if_neg hge, Nat.add_sub_cancel_left]

include hkeeps hcells in
theorem movedPlace_lt {j : Nat} (hj : j < m.placeCount) : movedPlace m m' j < m'.placeCount := by
  have hsize := size_le_of_keeps hkeeps
  unfold placeCount at *
  unfold movedPlace
  rw [hcells]
  split <;> omega

include hkeeps hcells in
theorem targetsAt_movedPlace (j : Nat) : m'.targetsAt (movedPlace m m' j) = m.targetsAt j := by
  have hsize := size_le_of_keeps hkeeps
  unfold movedPlace
  split
  · next hj =>
    have hx := Array.getElem?_eq_getElem hj
    have hx' := hkeeps _ _ trivial hx
    rw [targetsAt, targetsAt, if_pos hj, if_pos (Nat.lt_of_lt_of_le hj hsize), Array.getD_eq_getD_getElem?,
      Array.getD_eq_getD_getElem?, hx, hx']
  · next hj =>
    have hge : ¬ m'.objects.size + (j - m.objects.size) < m'.objects.size := Nat.not_lt.mpr (Nat.le_add_right _ _)
    rw [targetsAt, targetsAt, if_neg hj, if_neg hge, Nat.add_sub_cancel_left, hcells]

include hwhole hkeeps hcells

theorem Freed.before (hroots : ∀ t ∈ m.rootTargets held, t ∈ m'.rootTargets held') {i : Nat}
    (h : m'.Freed held' (movedPlace m m' i)) : m.Freed held i := by
  generalize hplace : movedPlace m m' i = place at h
  induction h generalizing i with
  | intro hroot _ ih =>
    subst hplace
    constructor
    · intro hi
      obtain ⟨t, ht, rfl⟩ := List.mem_map.mp hi
      exact hroot (List.mem_map.mpr ⟨t, hroots t ht, placeOf_moved (hwhole.known_rootTargets t ht)⟩)
    · intro j hj hsuccessor
      obtain ⟨t, ht, rfl⟩ := List.mem_map.mp hsuccessor
      apply ih _ (movedPlace_lt hkeeps hcells hj) _ rfl
      rw [successors, targetsAt_movedPlace hkeeps hcells]
      exact List.mem_map.mpr ⟨t, ht, placeOf_moved (hwhole.known_targetsAt j t ht)⟩

/-- Only new objects that are no buffers refer to new objects, and to those that are no buffers only older ones. -/
theorem exists_of_mem_successors (horderly : Orderly m.objects.size m'.objects)
    (hbuffer : Intrinsic.bufferPrototype < m.objects.size) {o j : Nat} (ho : m.objects.size ≤ o)
    (hsize : o < m'.objects.size) (hj : j < m'.placeCount) (hsuccessor : o ∈ m'.successors j) :
    m.objects.size ≤ j ∧ j < m'.objects.size ∧ (∀ data, m'.objects[j]? ≠ some (.ofBytes data)) ∧
      (j < o ∨ ∃ data, m'.objects[o]? = some (.ofBytes data)) := by
  obtain ⟨t, ht, hplace⟩ := List.mem_map.mp hsuccessor
  have hknown : ∀ i < m.placeCount, movedPlace m m' i ≠ j := by
    rintro i hi rfl
    rw [targetsAt_movedPlace hkeeps hcells] at ht
    have hthere := hwhole.known_targetsAt i t ht
    cases t with
    | object o' =>
      obtain rfl : o' = o := hplace
      exact Nat.not_lt_of_le ho (Target.known_object.mp hthere)
    | cell c => exact Nat.not_lt_of_le (Nat.le_add_right _ _) (hplace ▸ hsize)
  have hgrown := size_le_of_keeps hkeeps
  have hnew : m.objects.size ≤ j := by
    by_contra hold
    have hlt := Nat.lt_of_not_le hold
    exact hknown j (Nat.lt_add_right _ hlt) (if_pos hlt)
  have hobject : j < m'.objects.size := by
    by_contra hcell
    refine hknown (m.objects.size + (j - m'.objects.size)) ?_ ?_
    · unfold placeCount at *
      rw [hcells] at hj
      omega
    · unfold movedPlace
      rw [if_neg (Nat.not_lt.mpr (Nat.le_add_right _ _))]
      omega
  have hx := Array.getElem?_eq_getElem hobject
  rw [targetsAt, if_pos hobject, Array.getD_eq_getD_getElem?, hx, Option.getD_some] at ht
  refine ⟨hnew, hobject, ?_, ?_⟩
  · intro data hdata
    rw [hx] at hdata
    rw [Option.some.inj hdata] at ht
    obtain rfl := List.mem_singleton.mp ht
    obtain rfl : Intrinsic.bufferPrototype = o := hplace
    exact Nat.not_lt_of_le ho hbuffer
  · obtain ⟨i, rfl, hi⟩ := horderly j _ hnew hx t ht
    obtain rfl : i = o := hplace
    exact (hi.resolve_left (Nat.not_lt_of_le ho)).imp_left And.left

theorem freed_new (horderly : Orderly m.objects.size m'.objects)
    (hbuffer : Intrinsic.bufferPrototype < m.objects.size)
    (hroots : ∀ t ∈ m'.rootTargets held', t ∈ m.rootTargets held) {o : Nat} (ho : m.objects.size ≤ o)
    (hsize : o < m'.objects.size) : m'.Freed held' o := by
  have hnoroot : ∀ i, m.objects.size ≤ i → i < m'.objects.size → i ∉ m'.rootPlaces held' := by
    intro i hi hlt hroot
    obtain ⟨t, ht, rfl⟩ := List.mem_map.mp hroot
    have hthere := hwhole.known_rootTargets t (hroots t ht)
    cases t with
    | object o => exact Nat.not_lt_of_le hi (Target.known_object.mp hthere)
    | cell c => exact Nat.not_lt_of_le (Nat.le_add_right _ _) hlt
  have hrefer := fun {i j : Nat} => exists_of_mem_successors hwhole hkeeps hcells horderly hbuffer (o := i) (j := j)
  -- what is no buffer goes first, since only older objects of the kind refer to it
  have hfirst : ∀ i, m.objects.size ≤ i → i < m'.objects.size → (∀ data, m'.objects[i]? ≠ some (.ofBytes data)) →
      m'.Freed held' i := by
    intro i
    induction i using Nat.strongRecOn with
    | _ i ih =>
      intro hi hlt hplain
      refine .intro (hnoroot i hi hlt) fun j hj hsuccessor => ?_
      obtain ⟨hnew, hobject, hplain', hless | ⟨data, hdata⟩⟩ := hrefer hi hlt hj hsuccessor
      · exact ih j hless hnew hobject hplain'
      · exact absurd hdata (hplain data)
  refine .intro (hnoroot o ho hsize) fun j hj hsuccessor => ?_
  obtain ⟨hnew, hobject, hplain, -⟩ := hrefer ho hsize hj hsuccessor
  exact hfirst j hnew hobject hplain

end Grown

end Machine

end Embedding.Guest
