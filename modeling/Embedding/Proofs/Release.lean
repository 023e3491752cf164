import Embedding.Proofs.Play
import Mathlib.Data.List.Nodup

namespace Embedding

namespace RuntimeState

def closed (s : RuntimeState) : RuntimeState :=
  { s with
    openContexts := s.openContexts - 1
    hasEngine := s.hasEngine && !(s.openContexts - 1 = 0 && s.freed) }

end RuntimeState

namespace World

variable (w : World) (r r' : RuntimeId) (c c' : ContextId)

theorem mem_contextsOf : c ∈ w.contextsOf r ↔ c.index < w.contexts.size ∧ (w.context c).runtime = r := by
  obtain ⟨i⟩ := c
  simp only [contextsOf, List.mem_filterMap, List.mem_range]
  constructor
  · rintro ⟨j, hj, h⟩
    split at h
    · next hr =>
      cases h
      exact ⟨hj, hr⟩
    · cases h
  · rintro ⟨hi, hr⟩
    exact ⟨i, hi, by rw [if_pos hr]⟩

theorem nodup_contextsOf : (w.contextsOf r).Nodup := by
  apply List.Nodup.filterMap _ List.nodup_range
  intro i j c hi hj
  simp only [Option.mem_def] at hi hj
  split at hi <;> split at hj <;> simp_all
  exact ContextId.mk.inj (hi.trans hj.symm)

/-- The contexts of a runtime that have not been released. -/
def openContextsOf : List ContextId := (w.contextsOf r).filter fun c => !(w.context c).isReleased

theorem mem_openContextsOf : c ∈ w.openContextsOf r ↔
    c.index < w.contexts.size ∧ (w.context c).runtime = r ∧ (w.context c).isReleased = false := by
  simp [openContextsOf, mem_contextsOf, and_assoc]

theorem nodup_openContextsOf : (w.openContextsOf r).Nodup := (w.nodup_contextsOf r).filter _

theorem openContextsOf_of_contexts {w w' : World} (h : w'.contexts = w.contexts) (r : RuntimeId) :
    w'.openContextsOf r = w.openContextsOf r := by
  obtain ⟨_, cs, _⟩ := w
  obtain ⟨_, cs', _⟩ := w'
  dsimp only at h
  subst h
  rfl

def EnginesAccounted : Prop := w.engineReleases = w.runtimes.countP fun s => !s.hasEngine

theorem countP_modifyRuntime (f : RuntimeState → RuntimeState) (p : RuntimeState → Bool)
    (hr : r.index < w.runtimes.size) :
    (w.modifyRuntime r f).runtimes.countP p =
      w.runtimes.countP p - (if p (w.runtime r) then 1 else 0) + if p (f (w.runtime r)) then 1 else 0 := by
  have hset : w.runtimes.modify r.index f = w.runtimes.set r.index (f w.runtimes[r.index]) := by
    apply Array.ext
    · simp
    · intro i hi _
      rw [Array.getElem_modify, Array.getElem_set]
      split
      · next h => simp only [h]
      · rfl
  have hget : w.runtime r = w.runtimes[r.index] := by simp [runtime, hr]
  rw [modifyRuntime, hset, Array.countP_set, hget]

section EnginesAccounted

variable {w r} (h : w.EnginesAccounted)
include h

theorem EnginesAccounted.modifyContext (f : ContextState → ContextState) :
    (w.modifyContext c f).EnginesAccounted := h

theorem EnginesAccounted.report (e : Event) (he : e.endsEngine = false) : (w.report e).EnginesAccounted := by
  rw [EnginesAccounted, engineReleases_report, he]
  exact h

theorem EnginesAccounted.modifyRuntime (f : RuntimeState → RuntimeState)
    (hf : ∀ s, (f s).hasEngine = s.hasEngine) : (w.modifyRuntime r f).EnginesAccounted := by
  rw [EnginesAccounted, World.modifyRuntime, ← Array.countP_toList, Array.toList_modify]
  have hmap : (w.runtimes.toList.modify r.index f).map RuntimeState.hasEngine =
      w.runtimes.toList.map RuntimeState.hasEngine := by
    apply List.ext_getElem
    · simp
    · intro i _ _
      simp only [List.getElem_map, List.getElem_modify]
      split
      · exact hf _
      · rfl
  have hcount := congrArg (List.countP fun b => !b) hmap
  rw [List.countP_map, List.countP_map] at hcount
  exact h.trans (Array.countP_toList.symm.trans hcount.symm)

theorem EnginesAccounted.teardown (hr : r.index < w.runtimes.size) : (w.teardown r).EnginesAccounted := by
  unfold World.teardown
  split
  · next he =>
    rw [EnginesAccounted, engineReleases_report, runtimes_report, countP_modifyRuntime _ _ _ _ hr, he]
    exact congrArg (· + 1) h
  · exact h

theorem EnginesAccounted.closeContext (hr : r.index < w.runtimes.size) : (w.closeContext r).EnginesAccounted := by
  have hcount := h.modifyRuntime (r := r) (fun s => { s with openContexts := s.openContexts - 1 }) fun _ => rfl
  simp only [World.closeContext]
  split
  · exact hcount.teardown (by simpa using hr)
  · exact hcount

end EnginesAccounted

theorem runtime_teardown : (w.teardown r).runtime r' =
    if r' = r ∧ r.index < w.runtimes.size then { w.runtime r with hasEngine := false } else w.runtime r' := by
  unfold teardown
  by_cases he : (w.runtime r).hasEngine
  · rw [if_pos he, runtime_report, runtime_modifyRuntime]
  · rw [if_neg he]
    split
    · next h =>
      rw [h.1, Bool.eq_false_iff.mpr he |>.symm]
    · rfl

@[simp] theorem contexts_teardown : (w.teardown r).contexts = w.contexts := by
  unfold teardown
  split <;> rfl

@[simp] theorem size_runtimes_teardown : (w.teardown r).runtimes.size = w.runtimes.size := by
  unfold teardown
  split <;> simp

theorem runtime_closeContext : (w.closeContext r).runtime r' =
    if r' = r ∧ r.index < w.runtimes.size then (w.runtime r).closed else w.runtime r' := by
  have hm (r'' : RuntimeId) := w.runtime_modifyRuntime r r'' fun s => { s with openContexts := s.openContexts - 1 }
  by_cases hr : r.index < w.runtimes.size
  · simp only [closeContext, hm, hr, and_true, if_true]
    by_cases hlast : (w.runtime r).openContexts - 1 = 0 ∧ (w.runtime r).freed = true
    · rw [if_pos (by simpa using hlast), runtime_teardown]
      simp only [hm, size_runtimes_modifyRuntime, hr, and_true, if_true]
      split
      · simp [RuntimeState.closed, hlast]
      · rfl
    · have hmore : ((w.runtime r).openContexts - 1 = 0 && (w.runtime r).freed) = false := by simpa using hlast
      rw [if_neg (by simpa using hlast), hm]
      simp only [hr, and_true, RuntimeState.closed, hmore, Bool.not_false, Bool.and_true]
  · have hdefault : w.runtime r = default := by simp [runtime, hr]
    have hkeep : (decide ((default : RuntimeState).openContexts = 0) && (default : RuntimeState).freed) = false := rfl
    simp only [closeContext, hm, hr, and_false, if_false, hdefault, hkeep, Bool.false_eq_true]

@[simp] theorem contexts_closeContext : (w.closeContext r).contexts = w.contexts := by
  simp only [closeContext]
  split <;> simp

@[simp] theorem size_runtimes_closeContext : (w.closeContext r).runtimes.size = w.runtimes.size := by
  simp only [closeContext]
  split <;> simp

theorem runtime_closeRuntime : (w.closeRuntime r).runtime r' =
    if r' = r ∧ r.index < w.runtimes.size then { w.runtime r with freed := true, parked := [] }
    else w.runtime r' := by
  simp only [closeRuntime]
  split
  · exact w.runtime_modifyRuntime r r' _
  · rw [runtime_report]
    exact w.runtime_modifyRuntime r r' _

@[simp] theorem contexts_closeRuntime : (w.closeRuntime r).contexts = w.contexts := by
  simp only [closeRuntime]
  split <;> rfl

@[simp] theorem size_runtimes_closeRuntime : (w.closeRuntime r).runtimes.size = w.runtimes.size := by
  simp only [closeRuntime]
  split <;> simp

theorem EnginesAccounted.closeRuntime {w : World} {r : RuntimeId} (h : w.EnginesAccounted) :
    (w.closeRuntime r).EnginesAccounted := by
  have hclosed := h.modifyRuntime (r := r) (fun s => { s with freed := true, parked := [] }) fun _ => rfl
  simp only [World.closeRuntime]
  split
  · exact hclosed
  · exact hclosed.report _ rfl

theorem takeAll_cases : w.takeAll c = w ∨ w.takeAll c = { w with panicked := true } := by
  unfold takeAll useRegistry
  split
  · split
    · exact .inr rfl
    · exact .inl rfl
  · exact .inr rfl

@[simp] theorem contexts_takeAll : (w.takeAll c).contexts = w.contexts := by
  rcases w.takeAll_cases c with h | h <;> rw [h]

@[simp] theorem runtimes_takeAll : (w.takeAll c).runtimes = w.runtimes := by
  rcases w.takeAll_cases c with h | h <;> rw [h]

theorem runtime_takeAll : (w.takeAll c).runtime r = w.runtime r := by
  rw [runtime, runtimes_takeAll, runtime]

theorem context_takeAll : (w.takeAll c).context c' = w.context c' := by
  rw [context, contexts_takeAll, context]

theorem EnginesAccounted.takeAll {w : World} (h : w.EnginesAccounted) : (w.takeAll c).EnginesAccounted := by
  rcases w.takeAll_cases c with h' | h' <;> rw [h'] <;> exact h

section Release

variable {w c}

theorem release_of_released (h : (w.context c).isReleased = true) : w.release c = w := by
  simp [release, h]

theorem release_of_open (h : (w.context c).isReleased = false) :
    w.release c = ((((w.takeAll c).report (.droppingCallbacks (w.context c).registry.entries.length)).modifyContext c
      fun s => { s with isReleased := true, registry := (w.context c).registry.clear.2 }).closeContext
        (w.context c).runtime).report .contextReleased := by
  simp only [release, h, Bool.false_eq_true, if_false]
  rfl

theorem runtime_release (h : (w.context c).isReleased = false) : (w.release c).runtime r' =
    if r' = (w.context c).runtime ∧ (w.context c).runtime.index < w.runtimes.size
    then (w.runtimeOf c).closed else w.runtime r' := by
  rw [release_of_open h, runtime_report, runtime_closeContext, runtimes_modifyContext, runtimes_report,
    runtimes_takeAll, runtime_modifyContext, runtime_report, runtime_takeAll, runtime_modifyContext,
    runtime_report, runtime_takeAll]
  rfl

theorem context_release (h : (w.context c).isReleased = false) : (w.release c).context c' =
    if c' = c ∧ c.index < w.contexts.size then
      { w.context c with isReleased := true, registry := (w.context c).registry.clear.2 }
    else w.context c' := by
  rw [release_of_open h, context_report, context, contexts_closeContext]
  refine (((w.takeAll c).report _).context_modifyContext c c' _).trans ?_
  rw [context_report, context_report, context_takeAll, context_takeAll, contexts_report, contexts_takeAll]

theorem parked_release : ((w.release c).runtime r).parked = (w.runtime r).parked := by
  by_cases h : (w.context c).isReleased
  · rw [release_of_released h]
  · rw [runtime_release r (Bool.eq_false_iff.mpr h)]
    split
    · next hr => rw [hr.1]; rfl
    · rfl

theorem freed_release : ((w.release c).runtime r).freed = (w.runtime r).freed := by
  by_cases h : (w.context c).isReleased
  · rw [release_of_released h]
  · rw [runtime_release r (Bool.eq_false_iff.mpr h)]
    split
    · next hr => rw [hr.1]; rfl
    · rfl

@[simp] theorem size_runtimes_release : (w.release c).runtimes.size = w.runtimes.size := by
  simp only [release]
  split <;> simp

@[simp] theorem size_contexts_release : (w.release c).contexts.size = w.contexts.size := by
  simp only [release]
  split
  · rfl
  · rw [contexts_report, contexts_closeContext, size_contexts_modifyContext, contexts_report, contexts_takeAll]

theorem EnginesAccounted.release (h : w.EnginesAccounted) (hr : (w.context c).runtime.index < w.runtimes.size) :
    (w.release c).EnginesAccounted := by
  by_cases hc : (w.context c).isReleased
  · rwa [release_of_released hc]
  · rw [release_of_open (Bool.eq_false_iff.mpr hc)]
    exact ((((h.takeAll c).report _ rfl).modifyContext c _).closeContext (by simpa using hr)).report _ rfl

theorem home_release : ((w.release c).context c').runtime = (w.context c').runtime := by
  by_cases h : (w.context c).isReleased
  · rw [release_of_released h]
  · rw [context_release _ (Bool.eq_false_iff.mpr h)]
    split
    · next hc => rw [hc.1]
    · rfl

theorem contextsOf_release : (w.release c).contextsOf r = w.contextsOf r := by
  simp only [contextsOf, size_contexts_release, home_release]

theorem openContextsOf_release (h : (w.context c).isReleased = false) (hc : c.index < w.contexts.size) :
    (w.release c).openContextsOf r = (w.openContextsOf r).erase c := by
  rw [(w.nodup_openContextsOf r).erase_eq_filter]
  simp only [openContextsOf, contextsOf_release, List.filter_filter]
  apply List.filter_congr
  intro c' _
  rw [context_release _ h]
  by_cases hcc : c' = c
  · simp [hcc, hc]
  · simp [hcc]

end Release

theorem freed_drain (cs : List ContextId) : ((cs.foldl release w).runtime r).freed = (w.runtime r).freed := by
  induction cs generalizing w with
  | nil => rfl
  | cons c cs ih => rw [List.foldl_cons, ih, freed_release]

theorem parked_drain (cs : List ContextId) : ((cs.foldl release w).runtime r).parked = (w.runtime r).parked := by
  induction cs generalizing w with
  | nil => rfl
  | cons c cs ih => rw [List.foldl_cons, ih, parked_release]

@[simp] theorem size_runtimes_drain (cs : List ContextId) :
    (cs.foldl release w).runtimes.size = w.runtimes.size := by
  induction cs generalizing w with
  | nil => rfl
  | cons c cs ih => rw [List.foldl_cons, ih, size_runtimes_release]

section Free

variable {w r}

theorem freeRuntime_of_freed (h : (w.runtime r).freed = true) : w.freeRuntime r = w := by
  simp [freeRuntime, h]

theorem freeRuntime_of_open (h : (w.runtime r).freed = false) : w.freeRuntime r =
    let w' := (w.runtime r).parked.foldl release (w.closeRuntime r)
    if (w'.runtime r).openContexts = 0 then w'.teardown r
    else w'.report (.freedWithOpen (w'.runtime r).openContexts) := by
  simp only [freeRuntime, h, Bool.false_eq_true, if_false]
  split
  · next hzero => rw [if_pos hzero]
  · next hmore => rw [if_neg hmore]

theorem parked_freeRuntime : ((w.freeRuntime r).runtime r').parked =
    if r' = r ∧ r.index < w.runtimes.size ∧ (w.runtime r).freed = false then [] else (w.runtime r').parked := by
  by_cases hfreed : (w.runtime r).freed = true
  · rw [freeRuntime_of_freed hfreed, hfreed]
    simp
  · have hopen : (w.runtime r).freed = false := Bool.eq_false_iff.mpr hfreed
    have hparked : ((w.freeRuntime r).runtime r').parked = ((w.closeRuntime r).runtime r').parked := by
      rw [← parked_drain (w.closeRuntime r) r' (w.runtime r).parked, freeRuntime_of_open hopen]
      dsimp only
      split
      · rw [runtime_teardown]
        split
        · next h => rw [h.1]
        · rfl
      · rfl
    rw [hparked, runtime_closeRuntime, hopen]
    simp only [and_true]
    split <;> rfl

theorem freed_freeRuntime : ((w.freeRuntime r).runtime r').freed =
    ((w.runtime r').freed || decide (r' = r ∧ r.index < w.runtimes.size)) := by
  by_cases hfreed : (w.runtime r).freed = true
  · rw [freeRuntime_of_freed hfreed]
    by_cases hr : r' = r
    · simp [hr, hfreed]
    · simp [hr]
  · have hclosed : ((w.freeRuntime r).runtime r').freed = ((w.closeRuntime r).runtime r').freed := by
      rw [← freed_drain (w.closeRuntime r) r' (w.runtime r).parked, freeRuntime_of_open (Bool.eq_false_iff.mpr hfreed)]
      dsimp only
      split
      · rw [runtime_teardown]
        split
        · next h => rw [h.1]
        · rfl
      · rfl
    rw [hclosed, runtime_closeRuntime]
    split
    · next h => simp [h]
    · next h => simp [h]

end Free

theorem runtime_newRuntime (config : Config) : (w.newRuntime config).2.runtime r =
    if r.index = w.runtimes.size then { config } else w.runtime r := by
  simp only [newRuntime, runtime_report]
  simp only [runtime, Array.getD_eq_getD_getElem?, Array.getElem?_push]
  split <;> rfl

@[simp] theorem size_runtimes_newRuntime (config : Config) :
    (w.newRuntime config).2.runtimes.size = w.runtimes.size + 1 := by
  simp [newRuntime]

theorem EnginesAccounted.newRuntime {w : World} (h : w.EnginesAccounted) (config : Config) :
    (w.newRuntime config).2.EnginesAccounted := by
  simp only [World.newRuntime]
  apply EnginesAccounted.report _ _ rfl
  rw [EnginesAccounted, Array.countP_push]
  exact h

theorem runtime_addContext : (w.addContext r).2.runtime r' =
    if r' = r ∧ r.index < w.runtimes.size then { w.runtime r with openContexts := (w.runtime r).openContexts + 1 }
    else w.runtime r' := by
  simp only [addContext, runtime_report]
  exact World.runtime_modifyRuntime { w with contexts := w.contexts.push _ } r r' _

theorem home_addContext : (((w.addContext r).2.context c).runtime, ((w.addContext r).2.context c).isReleased) =
    if c.index = w.contexts.size then (r, false) else ((w.context c).runtime, (w.context c).isReleased) := by
  simp only [addContext, context_report, context_modifyRuntime]
  simp only [context, Array.getD_eq_getD_getElem?, Array.getElem?_push]
  split <;> rfl

@[simp] theorem size_runtimes_addContext : (w.addContext r).2.runtimes.size = w.runtimes.size := by
  simp [addContext]

@[simp] theorem size_contexts_addContext : (w.addContext r).2.contexts.size = w.contexts.size + 1 := by
  simp [addContext]

theorem fst_addContext : (w.addContext r).1 = ⟨w.contexts.size⟩ := by
  simp [addContext]

theorem openContextsOf_addContext : (w.addContext r).2.openContextsOf r' =
    w.openContextsOf r' ++ if r' = r then [⟨w.contexts.size⟩] else [] := by
  have hhome (c : ContextId) : ((w.addContext r).2.context c).runtime =
      if c.index = w.contexts.size then r else (w.context c).runtime := by
    have h := congrArg Prod.fst (w.home_addContext r c)
    rw [apply_ite Prod.fst] at h
    exact h
  have hrel (c : ContextId) : ((w.addContext r).2.context c).isReleased =
      if c.index = w.contexts.size then false else (w.context c).isReleased := by
    have h := congrArg Prod.snd (w.home_addContext r c)
    rw [apply_ite Prod.snd] at h
    exact h
  have hcontexts : (w.addContext r).2.contextsOf r' =
      w.contextsOf r' ++ if r' = r then [⟨w.contexts.size⟩] else [] := by
    simp only [contextsOf, size_contexts_addContext, List.range_succ, List.filterMap_append, hhome]
    congr 1
    · apply List.filterMap_congr
      intro i hi
      rw [if_neg (Nat.ne_of_lt (List.mem_range.mp hi))]
    · by_cases hr : r' = r
      · simp [hr]
      · simp [hr, Ne.symm hr]
  rw [openContextsOf, hcontexts, List.filter_append]
  congr 1
  · apply List.filter_congr
    intro c hc
    rw [hrel, if_neg (Nat.ne_of_lt ((w.mem_contextsOf r' c).mp hc).1)]
  · split
    · simp [hrel]
    · rfl

theorem EnginesAccounted.addContext {w : World} (h : w.EnginesAccounted) (r : RuntimeId) :
    (w.addContext r).2.EnginesAccounted := by
  simp only [World.addContext]
  apply EnginesAccounted.report _ _ rfl
  refine EnginesAccounted.modifyRuntime ?_ _ ?_
  · exact h
  · exact fun _ => rfl

end World

end Embedding
