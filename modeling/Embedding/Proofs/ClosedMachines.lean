import Embedding.Proofs.Enclosed
import Embedding.Proofs.Runs
import Embedding.World.Entry

namespace Embedding.Guest

variable {n : Nat}

/-- Whether a target is there, as long as it is an object. -/
def Target.Known (size : Nat) (t : Target) : Prop := t.isKnown size = true

@[simp] theorem Target.known_object {o : ObjectId} : (object o).Known n ↔ o < n := decide_eq_true_iff

@[simp] theorem Target.known_cell {c : CellId} : (cell c).Known n := rfl

theorem Target.Within.known {t : Target} (h : t.Within n) : t.Known n := by
  cases t with
  | object o => exact known_object.mpr h
  | cell c => exact known_cell

theorem Target.Known.mono {n' : Nat} {t : Target} (hle : n ≤ n') (h : t.Known n) : t.Known n' := by
  cases t with
  | object o => exact known_object.mpr (Nat.lt_of_lt_of_le (known_object.mp h) hle)
  | cell c => exact known_cell

theorem Target.all_isKnown {ts : List Target} : ts.all (isKnown n) = true ↔ ∀ t ∈ ts, t.Known n := List.all_eq_true

theorem Object.targets_emptied (x : Object) : Target.ofObject x.emptied = [] := by
  unfold emptied
  split <;> rfl

namespace Machine

/-- A machine that refers to no object but those that it has. -/
structure Closed (m : Machine) : Prop where
  objects : ∀ x ∈ m.objects, ∀ t ∈ Target.ofObject x, t.Known m.objects.size
  cells : ∀ v, some v ∈ m.cells → ∀ t ∈ Target.ofValue v, t.Known m.objects.size
  roots : ∀ r ∈ m.roots, ∀ t ∈ Target.ofRoot r, t.Known m.objects.size
  frames : ∀ f ∈ m.frames, ∀ o, f.function = some o → o < m.objects.size
  collections : ∀ calls ∈ m.collections, ∀ args ∈ calls, ∀ t ∈ Target.ofValues args, t.Known m.objects.size
  jobs : ∀ job ∈ m.jobs, ∀ t ∈ Target.ofValues job, t.Known m.objects.size
  realmSize : m.realmSize ≤ m.objects.size

variable (m : Machine)

theorem closed_mended : m.mended.Closed := by
  have hsize := m.size_objects_mended
  constructor <;> rw [hsize]
  case objects =>
    intro x hx t ht
    obtain ⟨y, -, rfl⟩ := Array.mem_map.mp hx
    dsimp only at ht
    split at ht
    · next hknown => exact Target.all_isKnown.mp hknown t ht
    · rw [Object.targets_emptied] at ht
      cases ht
  case cells =>
    intro v hv t ht
    obtain ⟨v', -, hv'⟩ := Array.mem_map.mp hv
    dsimp only at hv'
    split at hv'
    · next hknown =>
      subst hv'
      exact Target.all_isKnown.mp hknown t ht
    · cases hv'
  case roots =>
    intro r hr t ht
    exact Target.all_isKnown.mp (List.mem_filter.mp hr).2 t ht
  case frames =>
    intro f hf o ho
    have hknown := Target.all_isKnown.mp (List.mem_filter.mp hf).2 (.object o) (by simp [ho])
    exact Target.known_object.mp hknown
  case collections =>
    intro calls hcalls args hargs t ht
    obtain ⟨calls', -, rfl⟩ := Array.mem_map.mp hcalls
    exact Target.all_isKnown.mp (List.mem_filter.mp hargs).2 t ht
  case jobs =>
    intro job hjob t ht
    exact Target.all_isKnown.mp (List.mem_filter.mp hjob).2 t ht
  case realmSize => exact Nat.min_le_right _ _

variable {m}

theorem Closed.mended_eq (h : m.Closed) : m.mended = m := by
  have hobjects : (m.objects.map fun x =>
      if (Target.ofObject x).all (Target.isKnown m.objects.size) then x else x.emptied) = m.objects := by
    refine (Array.map_congr_left fun x hx => ?_).trans m.objects.map_id
    exact if_pos (Target.all_isKnown.mpr (h.objects x hx))
  have hcells : (m.cells.map fun v =>
      if v.all fun v => (Target.ofValue v).all (Target.isKnown m.objects.size) then v else none) = m.cells := by
    refine (Array.map_congr_left fun v hv => ?_).trans m.cells.map_id
    cases v with
    | none => rfl
    | some v => exact if_pos (Target.all_isKnown.mpr (h.cells v hv))
  have hroots := List.filter_eq_self.mpr fun r hr => Target.all_isKnown.mpr (h.roots r hr)
  have hframes : m.frames.filter (fun f => (f.function.map Target.object).toList.all (Target.isKnown m.objects.size)) =
      m.frames := by
    refine List.filter_eq_self.mpr fun f hf => Target.all_isKnown.mpr fun t ht => ?_
    obtain ⟨o, ho, rfl⟩ := Option.map_eq_some_iff.mp (Option.mem_toList.mp ht)
    exact Target.known_object.mpr (h.frames f hf o ho)
  have hcollections : (m.collections.map fun calls =>
      calls.filter fun args => (Target.ofValues args).all (Target.isKnown m.objects.size)) = m.collections := by
    refine (Array.map_congr_left fun calls hcalls => ?_).trans m.collections.map_id
    exact List.filter_eq_self.mpr fun args hargs => Target.all_isKnown.mpr (h.collections calls hcalls args hargs)
  have hjobs := List.filter_eq_self.mpr fun job hjob => Target.all_isKnown.mpr (h.jobs job hjob)
  simp only [mended, hobjects, hcells, hroots, hframes, hcollections, hjobs, Nat.min_eq_left h.realmSize]

/-- A closed machine, of which the host holds on to nothing that is not there. -/
structure Whole (m : Machine) (held : List Value) : Prop extends m.Closed where
  held : ∀ x ∈ held, ∀ t ∈ Target.ofValue x, t.Known m.objects.size

theorem Whole.known_rootTargets {held : List Value} (h : m.Whole held) : ∀ t ∈ m.rootTargets held, t.Known m.objects.size := by
  intro t ht
  simp only [rootTargets, List.mem_append] at ht
  rcases ht with (((((ht | ht) | ht) | ht) | ht) | ht) | ht
  · obtain ⟨r, hr, ht⟩ := List.mem_flatMap.mp ht
    exact h.roots r hr t ht
  · obtain ⟨x, hx, ht⟩ := List.mem_flatMap.mp ht
    exact h.held x hx t ht
  · obtain ⟨f, hf, ht⟩ := List.mem_flatMap.mp ht
    obtain ⟨o, ho, rfl⟩ := Option.map_eq_some_iff.mp (Option.mem_toList.mp ht)
    exact Target.known_object.mpr (h.frames f hf o ho)
  · obtain ⟨l, -, rfl⟩ := List.mem_map.mp ht
    exact Target.known_cell
  · obtain ⟨calls, hcalls, ht⟩ := List.mem_flatMap.mp ht
    obtain ⟨args, hargs, ht⟩ := List.mem_flatMap.mp ht
    exact h.collections calls (Array.mem_toList_iff.mp hcalls) args hargs t ht
  · obtain ⟨job, hjob, ht⟩ := List.mem_flatMap.mp ht
    exact h.jobs job hjob t ht
  · obtain ⟨o, ho, rfl⟩ := List.mem_map.mp ht
    exact Target.known_object.mpr (Nat.lt_of_lt_of_le (List.mem_range.mp ho) h.realmSize)

theorem Closed.grow (h : m.Closed) {objects : Array Object} (hsize : m.objects.size ≤ objects.size)
    (hobjects : ∀ x ∈ objects, ∀ t ∈ Target.ofObject x, t.Known objects.size) : { m with objects }.Closed where
  objects := hobjects
  cells v hv t ht := (h.cells v hv t ht).mono hsize
  roots r hr t ht := (h.roots r hr t ht).mono hsize
  frames f hf o ho := Nat.lt_of_lt_of_le (h.frames f hf o ho) hsize
  collections calls hcalls args hargs t ht := (h.collections calls hcalls args hargs t ht).mono hsize
  jobs job hjob t ht := (h.jobs job hjob t ht).mono hsize
  realmSize := Nat.le_trans h.realmSize hsize

theorem Closed.push (h : m.Closed) {x : Object} (hx : ∀ t ∈ Target.ofObject x, t.Known m.objects.size) :
    { m with objects := m.objects.push x }.Closed := by
  have hsize : m.objects.size ≤ (m.objects.push x).size := by simp
  refine h.grow hsize fun y hy t ht => ?_
  rcases Array.mem_push.mp hy with hy | rfl
  · exact (h.objects y hy t ht).mono hsize
  · exact (hx t ht).mono hsize

theorem Closed.push_functionOf (h : m.Closed) (hsize : Intrinsic.functionPrototype < m.objects.size) (g : Handle) :
    { m with objects := m.objects.push (functionOf g) }.Closed :=
  h.push fun _ ht => List.mem_singleton.mp ht ▸ Target.known_object.mpr hsize

theorem Closed.grant (h : m.Closed) (hsize : Intrinsic.functionPrototype < m.objects.size) (q : Query) (r : q.Reply) :
    (m.grant q r).Closed := by
  unfold Machine.grant
  split
  · exact h.push_functionOf hsize _
  · exact h

theorem Closed.rooted (h : m.Closed) {vs : List Value} (hvs : ∀ v ∈ vs, ∀ t ∈ Target.ofValue v, t.Known m.objects.size) :
    (m.rooted vs).Closed := by
  refine { h with roots := fun r hr t ht => ?_ }
  rcases List.mem_append.mp hr with hr | hr
  · obtain ⟨v, hv, rfl⟩ := List.mem_map.mp hr
    exact hvs v hv t ht
  · exact h.roots r hr t ht

theorem closed_empty : ({} : Machine).Closed where
  objects _ hx := absurd hx (Array.not_mem_empty _)
  cells _ hv := absurd hv (Array.not_mem_empty _)
  roots := nofun
  frames := nofun
  collections _ hcalls := absurd hcalls (Array.not_mem_empty _)
  jobs := nofun
  realmSize := Nat.le_refl _

theorem Closed.known_targetsAt (h : m.Closed) (j : Nat) : ∀ t ∈ m.targetsAt j, t.Known m.objects.size := by
  intro t ht
  by_cases hj : j < m.objects.size
  · rw [targetsAt, if_pos hj, Array.getD_eq_getD_getElem?, Array.getElem?_eq_getElem hj, Option.getD_some] at ht
    exact h.objects _ (Array.getElem_mem hj) t ht
  · rw [targetsAt, if_neg hj, Array.getD_eq_getD_getElem?] at ht
    cases hcell : m.cells[j - m.objects.size]? with
    | none =>
      rw [hcell] at ht
      cases ht
    | some v? =>
      rw [hcell, Option.getD_some] at ht
      cases v? with
      | none => cases ht
      | some v => exact h.cells v (Array.mem_of_getElem? hcell) t ht

/-- What guest code can get to, and what the host holds on to. -/
inductive GetsTo (m : Machine) (held : List Value) : Target → Prop where
  | root {t : Target} (h : t ∈ m.rootTargets held) : GetsTo m held t
  | on {t t' : Target} (h : GetsTo m held t) (hnext : t' ∈ m.targetsAt (m.placeOf t)) : GetsTo m held t'

theorem Whole.known_of_getsTo {held : List Value} (h : m.Whole held) {t : Target} (hgets : m.GetsTo held t) :
    t.Known m.objects.size := by
  cases hgets with
  | root hroot => exact h.known_rootTargets t hroot
  | on _ hnext => exact h.toClosed.known_targetsAt _ t hnext

theorem atRest_atRest (m : Machine) : m.atRest.atRest = m.atRest := (closed_mended _).mended_eq

theorem closed_atRest (m : Machine) : m.atRest.Closed := closed_mended _

theorem Closed.atRest_eq (h : m.Closed) (hroots : m.roots = []) (hframes : m.frames = []) (hdepth : m.depth = 0)
    (hmemory : m.memory = 0) : m.atRest = m := by
  obtain ⟨⟩ := m
  obtain rfl := hroots
  obtain rfl := hframes
  obtain rfl := hdepth
  obtain rfl := hmemory
  exact h.mended_eq

end Machine

theorem Realm.closed_initial : initial.Closed where
  objects x hx t ht := (within_initial x hx t ht).known
  cells _ hv := absurd hv (Array.not_mem_empty _)
  roots := nofun
  frames := nofun
  collections _ hcalls := absurd hcalls (Array.not_mem_empty _)
  jobs := nofun
  realmSize := Nat.le_of_eq realmSize_initial

end Embedding.Guest
