import Embedding.Guest.Collect
import Mathlib.Algebra.GroupWithZero.Nat
import Mathlib.Data.List.Nodup
import Mathlib.Data.List.Perm.Subperm

namespace Embedding.Guest

namespace Machine

variable (m : Machine) (held : List Value)

def successors (place : Nat) : List Nat := (m.targetsAt place).map m.placeOf

/-- The places that are in use by themselves. -/
def rootPlaces : List Nat := (m.rootTargets held).map m.placeOf

/-- A place is freed once no root refers to it and all that refer to it have been freed. Places that refer to one
another in a circle stay. -/
inductive Freed : Nat → Prop where
  | intro {i : Nat} (hroot : i ∉ m.rootPlaces held) (hplaces : ∀ j < m.placeCount, i ∈ m.successors j → Freed j) :
      Freed i

section

variable {m held} {i : Nat}

theorem not_freed_of_root (h : i ∈ m.rootPlaces held) : ¬ m.Freed held i
  | .intro hroot _ => hroot h

theorem mem_rootPlaces_of_held {o : ObjectId} (h : .object o ∈ held) : o ∈ m.rootPlaces held := by
  have htarget : Target.object o ∈ m.rootTargets held := by
    simp only [rootTargets, List.mem_append, Target.ofValues, List.mem_flatMap]
    exact .inl (.inl (.inl (.inl (.inl (.inr ⟨_, h, List.mem_singleton.mpr rfl⟩)))))
  exact List.mem_map.mpr ⟨_, htarget, rfl⟩

theorem mem_rootPlaces_of_value {o : ObjectId} (h : Root.value (.object o) ∈ m.roots) : o ∈ m.rootPlaces held := by
  have htarget : Target.object o ∈ m.rootTargets held := by
    simp only [rootTargets, List.mem_append, List.mem_flatMap]
    exact .inl (.inl (.inl (.inl (.inl (.inl ⟨_, h, List.mem_singleton.mpr rfl⟩)))))
  exact List.mem_map.mpr ⟨_, htarget, rfl⟩

end

theorem rootPlaces_of_idle {m : Machine} (hroots : m.roots = []) (hframes : m.frames = []) (hlexicals : m.lexicals = [])
    (hcollections : m.collections = #[]) (hjobs : m.jobs = []) : m.rootPlaces [] = List.range m.realmSize := by
  simp [rootPlaces, rootTargets, hroots, hframes, hlexicals, hcollections, hjobs, Target.ofValues, Function.comp_def, placeOf]

def outstanding (freed : List Nat) : List Nat :=
  m.rootPlaces held ++ ((List.range m.placeCount).filter (· ∉ freed)).flatMap m.successors

/-- A moment of the count: `pending` places are to let go of their references, `later` ones after them, and of the
references of the place that was freed last those in `rest` have not been let go of. -/
structure Sweep (counts : Array Nat) (pending later freed rest : List Nat) : Prop where
  size : counts.size = m.placeCount
  tally : ∀ i < m.placeCount, counts[i]? = some ((m.outstanding held freed ++ rest).count i)
  known : ∀ i, i ∈ pending ++ later ++ freed ↔ i < m.placeCount ∧ i ∉ m.outstanding held freed ++ rest
  nodup : (pending ++ later ++ freed).Nodup
  sound : ∀ i ∈ freed, m.Freed held i

section

variable {m held} {counts : Array Nat} {pending later freed rest : List Nat}

theorem mem_outstanding {i : Nat} : i ∈ m.outstanding held freed ↔
    i ∈ m.rootPlaces held ∨ ∃ j < m.placeCount, j ∉ freed ∧ i ∈ m.successors j := by
  simp [outstanding, and_assoc]

theorem perm_outstanding {place : Nat} (hplace : place < m.placeCount) (hnew : place ∉ freed) :
    (m.outstanding held freed).Perm (m.outstanding held (place :: freed) ++ m.successors place) := by
  have hsplit : ((List.range m.placeCount).filter (· ∉ freed)).Perm
      (place :: (List.range m.placeCount).filter (· ∉ place :: freed)) := by
    rw [List.perm_ext_iff_of_nodup (List.nodup_range.filter _)
      (List.nodup_cons.mpr ⟨by simp, List.nodup_range.filter _⟩)]
    intro i
    by_cases hi : i = place
    · simp [hi, hplace, hnew]
    · simp [hi]
  have hflat := hsplit.flatMap_right m.successors
  rw [List.flatMap_cons] at hflat
  rw [outstanding, outstanding, List.append_assoc]
  exact (hflat.trans List.perm_append_comm).append_left _

namespace Sweep

variable (h : m.Sweep held counts pending later freed rest)
include h

theorem length_le : freed.length ≤ m.placeCount := by
  have hsub : freed ⊆ List.range m.placeCount := fun i hi =>
    List.mem_range.mpr ((h.known i).mp (List.mem_append_right _ hi)).1
  have hnodup := (List.nodup_append.mp h.nodup).2.1
  simpa using (List.subperm_of_subset hnodup hsub).length_le

theorem congr {pending' later' : List Nat} (hperm : (pending ++ later).Perm (pending' ++ later')) :
    m.Sweep held counts pending' later' freed rest where
  size := h.size
  tally := h.tally
  known i := by
    rw [← h.known i]
    exact ((hperm.append_right freed).mem_iff).symm
  nodup := (hperm.append_right freed).nodup_iff.mp h.nodup
  sound := h.sound

end Sweep

theorem Sweep.free {place : Nat} (h : m.Sweep held counts (place :: pending) later freed []) :
    m.Sweep held counts pending later (place :: freed) (m.successors place) := by
  obtain ⟨hlt, hclear⟩ := (h.known place).mp (by simp)
  rw [List.append_nil] at hclear
  have hnew : place ∉ freed := fun hmem => by
    have hdisjoint := (List.nodup_append.mp h.nodup).2.2 place (by simp) place hmem
    exact hdisjoint rfl
  have hperm : (m.outstanding held freed).Perm (m.outstanding held (place :: freed) ++ m.successors place) :=
    perm_outstanding hlt hnew
  have hmove : (place :: pending ++ later ++ freed).Perm (pending ++ later ++ place :: freed) :=
    List.perm_middle.symm
  constructor
  case size => exact h.size
  case tally =>
    intro i hi
    rw [h.tally i hi, List.append_nil, hperm.count_eq]
  case known =>
    intro i
    rw [← hmove.mem_iff, h.known i, List.append_nil, hperm.mem_iff]
  case nodup => exact hmove.nodup_iff.mp h.nodup
  case sound =>
    intro i hi
    rcases List.mem_cons.mp hi with rfl | hi
    · constructor
      · exact fun hroot => hclear (mem_outstanding.mpr (.inl hroot))
      · intro j hj hij
        by_contra hfreed
        exact hclear (mem_outstanding.mpr (.inr ⟨j, hj, fun hmem => hfreed (h.sound j hmem), hij⟩))
    · exact h.sound i hi

theorem Sweep.letGo_one {place : Nat} (h : m.Sweep held counts pending later freed (place :: rest)) :
    m.Sweep held (counts.modify place (· - 1)) (if counts[place]? = some 1 then place :: pending else pending)
      later freed rest := by
  have hcount (i : Nat) : (m.outstanding held freed ++ place :: rest).count i =
      (m.outstanding held freed ++ rest).count i + if place = i then 1 else 0 := by
    simp only [List.count_append, List.count_cons, beq_iff_eq]
    omega
  have hold : place ∉ pending ++ later ++ freed := fun hmem => ((h.known place).mp hmem).2 (by simp)
  have hlast : counts[place]? = some 1 ↔ place < m.placeCount ∧ place ∉ m.outstanding held freed ++ rest := by
    constructor
    · intro hlast
      have hplace : place < m.placeCount := h.size ▸ (Array.getElem?_eq_some_iff.mp hlast).1
      rw [h.tally place hplace, hcount, if_pos rfl] at hlast
      exact ⟨hplace, List.count_eq_zero.mp (by injection hlast; omega)⟩
    · rintro ⟨hplace, hclear⟩
      rw [h.tally place hplace, hcount, if_pos rfl, List.count_eq_zero.mpr hclear]
  constructor
  case size => rw [Array.size_modify, h.size]
  case tally =>
    intro i hi
    rw [Array.getElem?_modify, h.tally i hi, hcount]
    split <;> simp
  case known =>
    intro i
    by_cases hi : i = place
    · subst i
      rw [← hlast]
      split
      · simp [*]
      · exact iff_of_false hold ‹_›
    · have hother : i ∈ pending ++ later ++ freed ↔ i < m.placeCount ∧ i ∉ m.outstanding held freed ++ rest := by
        rw [h.known i]
        simp [hi]
      split
      · simpa [hi] using hother
      · exact hother
  case nodup =>
    split
    · exact List.nodup_cons.mpr ⟨hold, h.nodup⟩
    · exact h.nodup
  case sound => exact h.sound

theorem Sweep.letGo {ts : List Target} (h : m.Sweep held counts pending later freed (ts.map m.placeOf)) :
    m.Sweep held (m.letGo counts pending ts).1 (m.letGo counts pending ts).2 later freed [] := by
  induction ts generalizing counts pending with
  | nil => exact h
  | cons t ts ih => exact ih h.letGo_one

theorem Sweep.freePending {fuel : Nat} (hfuel : m.placeCount < fuel + freed.length)
    (h : m.Sweep held counts pending later freed []) :
    m.Sweep held (m.freePending fuel counts pending freed).1 [] later (m.freePending fuel counts pending freed).2 [] := by
  induction fuel generalizing counts pending freed with
  | zero => exact absurd h.length_le (by omega)
  | succ fuel ih =>
    cases pending with
    | nil => exact h
    | cons place pending =>
      exact ih (by simpa [Nat.add_right_comm, Nat.add_assoc] using hfuel) h.free.letGo

theorem Sweep.freeAll {start : List Nat} (h : m.Sweep held counts [] start freed []) :
    let s := start.foldl (fun (s : Array Nat × List Nat) i => m.freePending (m.placeCount + 1) s.1 [i] s.2)
      (counts, freed)
    m.Sweep held s.1 [] [] s.2 [] := by
  induction start generalizing counts freed with
  | nil => exact h
  | cons i start ih =>
    have hnext : m.Sweep held counts [i] start freed [] := h.congr (.refl _)
    have hfree := hnext.freePending (show m.placeCount < m.placeCount + 1 + freed.length by omega)
    exact ih hfree

theorem size_countTargets (ts : List Target) : (m.countTargets counts ts).size = counts.size := by
  unfold countTargets
  induction ts generalizing counts with
  | nil => rfl
  | cons t ts ih => rw [List.foldl_cons, ih, Array.size_modify]

theorem getElem?_countTargets (ts : List Target) (i : Nat) :
    (m.countTargets counts ts)[i]? = counts[i]?.map (· + (ts.map m.placeOf).count i) := by
  unfold countTargets
  induction ts generalizing counts with
  | nil => simp
  | cons t ts ih =>
    rw [List.foldl_cons, ih, Array.getElem?_modify, List.map_cons, List.count_cons]
    by_cases ht : m.placeOf t = i
    · simp only [ht, if_true, Option.map_map, beq_self_eq_true]
      congr 1
      funext n
      simp only [Function.comp_apply]
      omega
    · simp [ht]

theorem getElem?_countPlaces (places : List Nat) (i : Nat) :
    (places.foldl (fun counts j => m.countTargets counts (m.targetsAt j)) counts)[i]? =
      counts[i]?.map (· + (places.flatMap m.successors).count i) := by
  induction places generalizing counts with
  | nil => simp
  | cons j places ih =>
    rw [List.foldl_cons, ih, getElem?_countTargets, Option.map_map, List.flatMap_cons]
    congr 1
    funext n
    rw [Function.comp_apply, List.count_append, ← Nat.add_assoc]
    rfl

end

theorem size_referenceCounts : (m.referenceCounts held).size = m.placeCount := by
  have hsize (places : List Nat) (counts : Array Nat) :
      (places.foldl (fun counts j => m.countTargets counts (m.targetsAt j)) counts).size = counts.size := by
    induction places generalizing counts with
    | nil => rfl
    | cons j places ih => rw [List.foldl_cons, ih, size_countTargets]
  rw [referenceCounts, hsize, size_countTargets, Array.size_replicate]

theorem getElem?_referenceCounts {i : Nat} (hi : i < m.placeCount) :
    (m.referenceCounts held)[i]? = some ((m.outstanding held []).count i) := by
  rw [referenceCounts, getElem?_countPlaces, getElem?_countTargets, Array.getElem?_replicate, if_pos hi, outstanding,
    List.count_append]
  simp [rootPlaces]

theorem sweep_start : m.Sweep held (m.referenceCounts held) []
    ((List.range m.placeCount).filter fun i => (m.referenceCounts held).getD i 0 = 0) [] [] where
  size := m.size_referenceCounts held
  tally i hi := by rw [List.append_nil, m.getElem?_referenceCounts held hi]
  known i := by
    simp only [List.append_nil, List.nil_append, List.mem_filter, List.mem_range, decide_eq_true_eq]
    apply and_congr_right
    intro hi
    rw [Array.getD_eq_getD_getElem?, m.getElem?_referenceCounts held hi, Option.getD_some, List.count_eq_zero]
  nodup := by simpa using List.nodup_range.filter _
  sound := nofun

theorem mem_freedPlaces {i : Nat} : i ∈ m.freedPlaces held ↔ i < m.placeCount ∧ m.Freed held i := by
  have hend := (m.sweep_start held).freeAll
  simp only [freedPlaces, List.mem_reverse]
  generalize List.foldl _ _ _ = s at hend ⊢
  have hknown (j : Nat) : j ∈ s.2 ↔ j < m.placeCount ∧ j ∉ m.outstanding held s.2 := by
    simpa using hend.known j
  constructor
  · exact fun hi => ⟨((hknown i).mp hi).1, hend.sound i hi⟩
  · rintro ⟨hlt, hfreed⟩
    induction hfreed with
    | intro hroot hplaces ih =>
      refine (hknown _).mpr ⟨hlt, fun hmem => ?_⟩
      rcases mem_outstanding.mp hmem with hmem | ⟨j, hj, hnot, hij⟩
      · exact hroot hmem
      · exact hnot (ih j hj hij hj)

inductive Reachable : Nat → Prop where
  | root {i : Nat} (h : i ∈ m.rootPlaces held) : Reachable i
  | step {i j : Nat} (h : Reachable j) (hj : j < m.placeCount) (hi : i ∈ m.successors j) : Reachable i

/-- A moment of the search: what is marked has been found, and what it refers to is marked or pending. -/
structure Marking (marked : Array Bool) (pending : List Nat) : Prop where
  size : marked.size = m.placeCount
  found : ∀ i, marked[i]? = some true → m.Reachable held i
  reached : ∀ i ∈ pending, m.Reachable held i
  roots : ∀ i ∈ m.rootPlaces held, i < m.placeCount → marked[i]? = some true ∨ i ∈ pending
  closed : ∀ j, marked[j]? = some true → ∀ i ∈ m.successors j, i < m.placeCount → marked[i]? = some true ∨ i ∈ pending

def unmarkedEdges (marked : Array Bool) : Nat :=
  (((List.range m.placeCount).filter fun i => marked.getD i true = false).map fun i => (m.successors i).length + 1).sum

section

variable {m held} {marked : Array Bool} {pending : List Nat}

theorem unmarkedEdges_mark {place : Nat} (hplace : marked[place]? = some false) (hsize : marked.size = m.placeCount) :
    m.unmarkedEdges marked =
      (m.successors place).length + 1 + m.unmarkedEdges (marked.setIfInBounds place true) := by
  have hlt : place < m.placeCount := hsize ▸ (Array.getElem?_eq_some_iff.mp hplace).1
  have hsplit : ((List.range m.placeCount).filter fun i => marked.getD i true = false).Perm
      (place :: (List.range m.placeCount).filter fun i => (marked.setIfInBounds place true).getD i true = false) := by
    rw [List.perm_ext_iff_of_nodup (List.nodup_range.filter _)
      (List.nodup_cons.mpr ⟨by simp [hsize ▸ hlt], List.nodup_range.filter _⟩)]
    intro i
    simp only [List.mem_filter, List.mem_range, List.mem_cons, Array.getD_eq_getD_getElem?,
      Array.getElem?_setIfInBounds, decide_eq_true_eq]
    by_cases hi : i = place
    · subst i
      simp [hlt, hplace]
    · simp [hi, Ne.symm hi]
  rw [unmarkedEdges, (hsplit.map _).sum_nat, List.map_cons, List.sum_cons]
  rfl

namespace Marking

theorem skip {place : Nat} (h : m.Marking held marked (place :: pending)) (hplace : marked.getD place true = true) :
    m.Marking held marked pending := by
  have hdone {i : Nat} (hi : i < m.placeCount) (hor : marked[i]? = some true ∨ i ∈ place :: pending) :
      marked[i]? = some true ∨ i ∈ pending := by
    rcases hor with hmarked | hmem
    · exact .inl hmarked
    · rcases List.mem_cons.mp hmem with rfl | hmem
      · left
        have hsize := h.size ▸ hi
        rwa [Array.getD_eq_getD_getElem?, Array.getElem?_eq_getElem hsize, Option.getD_some,
          ← Option.some_inj, ← Array.getElem?_eq_getElem hsize] at hplace
      · exact .inr hmem
  constructor
  case size => exact h.size
  case found => exact h.found
  case reached => exact fun i hi => h.reached i (List.mem_cons_of_mem _ hi)
  case roots => exact fun i hroot hi => hdone hi (h.roots i hroot hi)
  case closed => exact fun j hj i hsucc hi => hdone hi (h.closed j hj i hsucc hi)

theorem mark_one {place : Nat} (h : m.Marking held marked (place :: pending)) (hplace : marked[place]? = some false) :
    m.Marking held (marked.setIfInBounds place true) (m.successors place ++ pending) := by
  have hlt : place < m.placeCount := h.size ▸ (Array.getElem?_eq_some_iff.mp hplace).1
  have hget (i : Nat) : (marked.setIfInBounds place true)[i]? = some true ↔ i = place ∨ marked[i]? = some true := by
    rw [Array.getElem?_setIfInBounds]
    by_cases hi : place = i
    · simp [hi.symm, h.size, hlt]
    · simp [hi, Ne.symm hi]
  have hreach := h.reached place List.mem_cons_self
  have hkeep {i : Nat} (hor : marked[i]? = some true ∨ i ∈ place :: pending) :
      (marked.setIfInBounds place true)[i]? = some true ∨ i ∈ m.successors place ++ pending := by
    rw [hget, List.mem_append]
    rcases hor with hmarked | hmem
    · exact .inl (.inr hmarked)
    · rcases List.mem_cons.mp hmem with rfl | hmem
      · exact .inl (.inl rfl)
      · exact .inr (.inr hmem)
  constructor
  case size => rw [Array.size_setIfInBounds, h.size]
  case found =>
    intro i hi
    rcases (hget i).mp hi with rfl | hi
    · exact hreach
    · exact h.found i hi
  case reached =>
    intro i hi
    rcases List.mem_append.mp hi with hi | hi
    · exact .step hreach hlt hi
    · exact h.reached i (List.mem_cons_of_mem _ hi)
  case roots => exact fun i hroot hi => hkeep (h.roots i hroot hi)
  case closed =>
    intro j hj i hsucc hi
    rcases (hget j).mp hj with rfl | hj
    · exact .inr (List.mem_append_left _ hsucc)
    · exact hkeep (h.closed j hj i hsucc hi)

theorem mark {fuel : Nat} (hfuel : pending.length + m.unmarkedEdges marked < fuel)
    (h : m.Marking held marked pending) : m.Marking held (m.mark fuel marked pending) [] := by
  induction fuel generalizing marked pending with
  | zero => exact absurd hfuel (Nat.not_lt_zero _)
  | succ fuel ih =>
    cases pending with
    | nil => exact h
    | cons place pending =>
      rw [Machine.mark]
      rw [List.length_cons] at hfuel
      split
      · next hplace => exact ih (by omega) (h.skip hplace)
      · next hplace =>
        have hfalse : marked[place]? = some false := by
          rw [Array.getD_eq_getD_getElem?] at hplace
          revert hplace
          cases marked[place]? with
          | none => simp
          | some b => simp
        have hless := unmarkedEdges_mark hfalse h.size
        refine ih ?_ (h.mark_one hfalse)
        rw [List.length_append, List.length_map]
        rw [successors, List.length_map] at hless
        omega

theorem of_reachable (h : m.Marking held marked []) {i : Nat} (hreach : m.Reachable held i) (hi : i < m.placeCount) :
    marked[i]? = some true := by
  induction hreach with
  | root hroot => simpa using h.roots _ hroot hi
  | step _ hj hsucc ih => simpa using h.closed _ (ih hj) _ hsucc hi

end Marking

end

theorem marking_start :
    m.Marking held (Array.replicate m.placeCount false) (m.rootPlaces held) where
  size := Array.size_replicate
  found i hi := by simp [Array.getElem?_replicate] at hi
  reached _ hi := .root hi
  roots _ hi _ := .inr hi
  closed j hj := by simp [Array.getElem?_replicate] at hj

theorem mem_unreachablePlaces {i : Nat} :
    i ∈ m.unreachablePlaces held ↔ i < m.placeCount ∧ ¬ m.Reachable held i := by
  have hedges (places : List Nat) (n : Nat) : places.foldl (fun n i => n + (m.targetsAt i).length + 1) n =
      n + (places.map fun i => (m.successors i).length + 1).sum := by
    induction places generalizing n with
    | nil => rfl
    | cons i places ih =>
      rw [List.foldl_cons, ih, List.map_cons, List.sum_cons, successors, List.length_map]
      omega
  have hall : (List.range m.placeCount).filter (fun i => (Array.replicate m.placeCount false).getD i true = false) =
      List.range m.placeCount := by
    rw [List.filter_eq_self]
    intro i hi
    simp [List.mem_range.mp hi]
  have hend := (m.marking_start held).mark (Nat.lt_succ_self _)
  rw [unmarkedEdges, hall, rootPlaces, List.length_map] at hend
  simp only [unreachablePlaces, hedges, List.mem_filter, List.mem_range]
  generalize m.mark _ _ _ = marked at hend ⊢
  apply and_congr_right
  intro hi
  have hget := Array.getElem?_eq_getElem (hend.size ▸ hi : i < marked.size)
  rw [Array.getD_eq_getD_getElem?, hget, Option.getD_some, Bool.not_eq_true', ← Bool.not_eq_true]
  apply not_congr
  constructor
  · exact fun hmarked => hend.found i (by rw [hget, hmarked])
  · intro hreach
    rw [hend.of_reachable hreach hi] at hget
    exact (Option.some.inj hget).symm

section

variable {held held' : List Value} {m}

theorem rootPlaces_mono (h : ∀ v ∈ held, v ∈ held') : ∀ i ∈ m.rootPlaces held, i ∈ m.rootPlaces held' := by
  intro i hi
  obtain ⟨t, ht, rfl⟩ := List.mem_map.mp hi
  refine List.mem_map.mpr ⟨t, ?_, rfl⟩
  have hvalues : t ∈ Target.ofValues held → t ∈ Target.ofValues held' := by
    intro hmem
    obtain ⟨v, hv, hvt⟩ := List.mem_flatMap.mp hmem
    exact List.mem_flatMap.mpr ⟨v, h v hv, hvt⟩
  simp only [rootTargets, List.mem_append] at ht ⊢
  exact ht.imp_left (Or.imp_left (Or.imp_left (Or.imp_left (Or.imp_left (Or.imp_right hvalues)))))

theorem Freed.of_more (h : ∀ v ∈ held, v ∈ held') {i : Nat} (hfreed : m.Freed held' i) : m.Freed held i := by
  induction hfreed with
  | intro hroot _ ih => exact .intro (fun hi => hroot (rootPlaces_mono h _ hi)) ih

end

theorem freedPlaces_limits (m : Machine) (memory depthLimit : Nat) (memoryLimit : Option Nat) (held : List Value) :
    freedPlaces { m with memory, depthLimit, memoryLimit } held = m.freedPlaces held := by
  generalize hm : ({ m with memory, depthLimit, memoryLimit } : Machine) = m'
  have hletGo (counts : Array Nat) (pending : List Nat) (ts : List Target) :
      m'.letGo counts pending ts = m.letGo counts pending ts := by
    induction ts generalizing counts pending with
    | nil => rfl
    | cons t ts ih =>
      rw [letGo, letGo, ih]
      subst hm
      rfl
  have hfree (fuel : Nat) (counts : Array Nat) (pending freed : List Nat) :
      m'.freePending fuel counts pending freed = m.freePending fuel counts pending freed := by
    induction fuel generalizing counts pending freed with
    | zero => rfl
    | succ fuel ih =>
      cases pending with
      | nil => rfl
      | cons place pending =>
        simp only [freePending, hletGo, ih]
        subst hm
        rfl
  rw [freedPlaces, freedPlaces]
  simp only [hfree]
  subst hm
  rfl

end Machine

/-- An engine that frees no more when the host holds on to more. -/
class Collector.Lawful [Collector] : Prop where
  of_more {m : Machine} {held held' : List Value} {place : Nat} (h : ∀ v ∈ held, v ∈ held')
    (hfreed : place ∈ Collector.freed m held') : place ∈ Collector.freed m held

instance : Collector.Lawful where
  of_more {m held held' place} h hfreed := by
    obtain ⟨hlt, hfreed⟩ := (m.mem_freedPlaces held').mp hfreed
    exact (m.mem_freedPlaces held).mpr ⟨hlt, hfreed.of_more h⟩

end Embedding.Guest
