import Embedding.World.Context

namespace Embedding

variable [Guest.Collector]

def ContextState.taken (s : ContextState) : Nat :=
  if s.isReleased then 0 else contextFootprint + s.machine.storageInUse s.pins.values

namespace World

variable (w : World) (r r' : RuntimeId) (c c' : ContextId)

section

omit [Guest.Collector]

theorem runtime_modifyRuntime (f : RuntimeState → RuntimeState) :
    (w.modifyRuntime r f).runtime r' =
      if r' = r ∧ r.index < w.runtimes.size then f (w.runtime r) else w.runtime r' := by
  obtain ⟨i⟩ := r
  obtain ⟨j⟩ := r'
  simp only [runtime, modifyRuntime, Array.getD_eq_getD_getElem?, Array.getElem?_modify, RuntimeId.mk.injEq]
  by_cases hij : i = j
  · subst j
    by_cases hi : i < w.runtimes.size <;> simp [hi]
  · simp [hij, Ne.symm hij]

theorem context_modifyContext (f : ContextState → ContextState) :
    (w.modifyContext c f).context c' =
      if c' = c ∧ c.index < w.contexts.size then f (w.context c) else w.context c' := by
  obtain ⟨i⟩ := c
  obtain ⟨j⟩ := c'
  simp only [context, modifyContext, Array.getD_eq_getD_getElem?, Array.getElem?_modify, ContextId.mk.injEq]
  by_cases hij : i = j
  · subst j
    by_cases hi : i < w.contexts.size <;> simp [hi]
  · simp [hij, Ne.symm hij]

theorem modifyContext_modifyContext (f g : ContextState → ContextState) :
    (w.modifyContext c f).modifyContext c g = w.modifyContext c fun s => g (f s) := by
  have hcontexts : (w.contexts.modify c.index f).modify c.index g = w.contexts.modify c.index fun s => g (f s) := by
    apply Array.ext
    · simp
    · intro i hi hi'
      rw [Array.getElem_modify, Array.getElem_modify, Array.getElem_modify]
      split <;> rfl
  simp only [modifyContext, hcontexts]

theorem setMachine_setMachine (m m' : Guest.Machine) : (w.setMachine c m).setMachine c m' = w.setMachine c m' :=
  w.modifyContext_modifyContext c _ _

@[simp] theorem runtimes_modifyContext (f : ContextState → ContextState) :
    (w.modifyContext c f).runtimes = w.runtimes := rfl

@[simp] theorem contexts_modifyRuntime (f : RuntimeState → RuntimeState) :
    (w.modifyRuntime r f).contexts = w.contexts := rfl

@[simp] theorem runtime_modifyContext (f : ContextState → ContextState) :
    (w.modifyContext c f).runtime r = w.runtime r := rfl

@[simp] theorem context_modifyRuntime (f : RuntimeState → RuntimeState) :
    (w.modifyRuntime r f).context c = w.context c := rfl

@[simp] theorem runtime_report (e : Event) : (w.report e).runtime r = w.runtime r := rfl

@[simp] theorem context_report (e : Event) : (w.report e).context c = w.context c := rfl

@[simp] theorem runtimes_report (e : Event) : (w.report e).runtimes = w.runtimes := rfl

@[simp] theorem contexts_report (e : Event) : (w.report e).contexts = w.contexts := rfl

@[simp] theorem size_runtimes_modifyRuntime (f : RuntimeState → RuntimeState) :
    (w.modifyRuntime r f).runtimes.size = w.runtimes.size := by
  simp [modifyRuntime]

@[simp] theorem contexts_useRegistry : (w.useRegistry c).contexts = w.contexts := by
  unfold useRegistry
  split <;> rfl

@[simp] theorem context_useRegistry : (w.useRegistry c).context c' = w.context c' := by
  rw [context, contexts_useRegistry]
  rfl

@[simp] theorem size_contexts_modifyContext (f : ContextState → ContextState) :
    (w.modifyContext c f).contexts.size = w.contexts.size := by
  simp [modifyContext]

@[simp] theorem size_contexts_setMachine (m : Guest.Machine) : (w.setMachine c m).contexts.size = w.contexts.size :=
  w.size_contexts_modifyContext c _

end

theorem exists_machineFor :
    ∃ memory, w.machineFor c = { (w.context c).machine with memory } := by
  simp only [machineFor]
  split
  · exact ⟨_, rfl⟩
  · exact ⟨_, rfl⟩

theorem objects_machineFor :
    (w.machineFor c).objects = (w.context c).machine.objects := by
  obtain ⟨memory, hm⟩ := w.exists_machineFor c
  rw [hm]

theorem memoryInUse_eq (r : RuntimeId) :
    w.memoryInUse r = (w.contextsOf r).foldl (fun n c => n + (w.context c).taken) 0 := by
  suffices hfold : ∀ (cs : List ContextId) (n : Nat), ((cs.map w.context).filter (!·.isReleased)).foldl
      (fun n s => n + contextFootprint + s.machine.storageInUse s.pins.values) n =
      cs.foldl (fun n c => n + (w.context c).taken) n from hfold _ 0
  intro cs
  induction cs with
  | nil => exact fun n => rfl
  | cons c cs ih =>
    intro n
    rw [List.map_cons, List.foldl_cons, ContextState.taken]
    cases h : (w.context c).isReleased with
    | true => rw [List.filter_cons_of_neg (by simp [h]), ih, if_pos rfl, Nat.add_zero]
    | false => rw [List.filter_cons_of_pos (by simp [h]), List.foldl_cons, ih, if_neg Bool.false_ne_true, Nat.add_assoc]

theorem borrows_machineFor : (w.machineFor c).borrows = (w.context c).machine.borrows := by
  obtain ⟨memory, hm⟩ := w.exists_machineFor c
  rw [hm]

section

variable {w c c'}

section

omit [Guest.Collector]

theorem context_modifyContext_of_ne (f : ContextState → ContextState) (h : c' ≠ c) :
    (w.modifyContext c f).context c' = w.context c' := by
  rw [context_modifyContext, if_neg fun hc => h hc.1]

theorem context_modifyContext_self (f : ContextState → ContextState) (h : c.index < w.contexts.size) :
    (w.modifyContext c f).context c = f (w.context c) := by
  rw [context_modifyContext, if_pos ⟨rfl, h⟩]

theorem context_setMachine_of_ne {m : Guest.Machine} (h : c' ≠ c) : (w.setMachine c m).context c' = w.context c' :=
  context_modifyContext_of_ne _ h

theorem context_setMachine_self (m : Guest.Machine) (h : c.index < w.contexts.size) :
    (w.setMachine c m).context c = { w.context c with machine := m } := context_modifyContext_self _ h

end

end

end World

def Event.endsEngine : Event → Bool
  | engineReleased => true
  | _ => false

/-- What the life of runtimes and contexts can be told from. -/
structure Life where
  runtimes : Array RuntimeState
  homes : Array (RuntimeId × Bool)
  engineReleases : Nat

namespace World

variable (w : World) (r : RuntimeId) (c : ContextId)

/-- How often an engine has been released. -/
def engineReleases : Nat := w.events.countP Event.endsEngine

omit [Guest.Collector] in
@[simp] theorem engineReleases_modifyRuntime (f : RuntimeState → RuntimeState) :
    (w.modifyRuntime r f).engineReleases = w.engineReleases := rfl

def life : Life where
  runtimes := w.runtimes
  homes := w.contexts.map fun s => (s.runtime, s.isReleased)
  engineReleases := w.engineReleases

omit [Guest.Collector] in
theorem home_context :
    ((w.context c).runtime, (w.context c).isReleased) = w.life.homes.getD c.index (⟨0⟩, false) := by
  simp only [context, life, Array.getD_eq_getD_getElem?, Array.getElem?_map]
  cases w.contexts[c.index]? <;> rfl

section SameLife

variable {w} {w' : World} (h : w'.life = w.life)
include h

section

omit [Guest.Collector]

theorem runtimes_of_life : w'.runtimes = w.runtimes := congrArg Life.runtimes h

theorem runtime_of_life (r : RuntimeId) : w'.runtime r = w.runtime r := by
  rw [runtime, runtime, runtimes_of_life h]

theorem home_of_life (c : ContextId) : (w'.context c).runtime = (w.context c).runtime := by
  have hc := w'.home_context c
  rw [h, ← home_context] at hc
  exact congrArg Prod.fst hc

theorem isReleased_of_life (c : ContextId) : (w'.context c).isReleased = (w.context c).isReleased := by
  have hc := w'.home_context c
  rw [h, ← home_context] at hc
  exact congrArg Prod.snd hc

theorem size_contexts_of_life : w'.contexts.size = w.contexts.size := by
  simpa [life] using congrArg (fun l => l.homes.size) h

theorem engineReleases_of_life : w'.engineReleases = w.engineReleases := congrArg Life.engineReleases h

theorem life_modifyRuntime (r : RuntimeId) (f : RuntimeState → RuntimeState) :
    (w'.modifyRuntime r f).life = (w.modifyRuntime r f).life := by
  have hhomes := congrArg Life.homes h
  simp only [life] at hhomes
  rw [life, life, engineReleases_modifyRuntime, engineReleases_modifyRuntime, engineReleases_of_life h]
  simp only [modifyRuntime, runtimes_of_life h, hhomes]

end

end SameLife

section

omit [Guest.Collector]

theorem life_modifyContext (f : ContextState → ContextState)
    (hf : ∀ s, (f s).runtime = s.runtime ∧ (f s).isReleased = s.isReleased) :
    (w.modifyContext c f).life = w.life := by
  have hs : (w.contexts.modify c.index f).map (fun s => (s.runtime, s.isReleased)) =
      w.contexts.map fun s => (s.runtime, s.isReleased) := by
    apply Array.ext
    · simp
    · intro i hi _
      simp only [Array.getElem_map, Array.getElem_modify]
      split
      · rw [(hf _).1, (hf _).2]
      · rfl
  simp only [life, modifyContext, hs, engineReleases]

@[simp] theorem engineReleases_report (e : Event) :
    (w.report e).engineReleases = w.engineReleases + if e.endsEngine then 1 else 0 :=
  List.countP_cons

theorem life_report (e : Event) (he : e.endsEngine = false) : (w.report e).life = w.life := by
  simp [life, report, engineReleases, he]

@[simp] theorem life_setMachine (m : Guest.Machine) : (w.setMachine c m).life = w.life :=
  w.life_modifyContext c _ fun _ => ⟨rfl, rfl⟩

@[simp] theorem life_useRegistry : (w.useRegistry c).life = w.life := by
  unfold useRegistry
  split <;> rfl

@[simp] theorem life_takeBackRegistry : (w.takeBackRegistry c).life = w.life := rfl

@[simp] theorem life_unregister (h : Handle) : (w.unregister c h).2.life = w.life := by
  rw [← w.life_useRegistry c]
  simp only [unregister]
  split
  · rw [life_report _ _ rfl, life_modifyContext]
    exact fun _ => ⟨rfl, rfl⟩
  · rfl

@[simp] theorem life_unregisterAll (hs : List Handle) : (w.unregisterAll c hs).life = w.life := by
  unfold unregisterAll
  induction hs generalizing w with
  | nil => rfl
  | cons h hs ih => rw [List.foldl_cons, ih, life_unregister]

@[simp] theorem life_endLeases (places : List Nat) : (w.endLeases c places).life = w.life := by
  rw [endLeases, life_unregisterAll]
  exact w.life_modifyContext c _ fun _ => ⟨rfl, rfl⟩

end

@[simp] theorem life_reap : (w.reap c).life = w.life := by
  simp only [reap]
  split
  · rfl
  · exact w.life_endLeases c _

@[simp] theorem life_collectIn : (w.collectIn c).life = w.life := by
  simp only [collectIn]
  split
  · rfl
  · exact w.life_endLeases c _

omit [Guest.Collector] in
@[simp] theorem life_pin (v : Guest.Value) : (w.pin c v).2.life = w.life :=
  w.life_modifyContext c _ fun _ => ⟨rfl, rfl⟩

omit [Guest.Collector] in
@[simp] theorem life_copy (v : ValueRef) : (w.copy v).2.life = w.life := w.life_pin _ _

@[simp] theorem life_drop (v : ValueRef) : (w.drop v).life = w.life := by
  rw [drop, life_reap]
  exact w.life_modifyContext _ _ fun _ => ⟨rfl, rfl⟩

@[simp] theorem life_dropPending : (w.dropPending c).life = w.life := by
  unfold dropPending
  split
  · rw [life_drop]
    exact w.life_modifyContext c _ fun _ => ⟨rfl, rfl⟩
  · rfl

@[simp] theorem life_collect : (w.collect r).life = w.life := by
  unfold collect
  generalize w.contextsOf r = cs
  induction cs generalizing w with
  | nil => rfl
  | cons c cs ih => rw [List.foldl_cons, ih, life_collectIn]

theorem life_leave : (w.leave c).life =
    (w.modifyRuntime (w.context c).runtime fun s => { s with entered := false }).life := by
  have hrest : (w.modifyContext c fun s => { s with machine := s.machine.atRest, begun := [] }).life = w.life :=
    w.life_modifyContext c _ fun _ => ⟨rfl, rfl⟩
  simp only [leave]
  rw [home_of_life hrest]
  exact life_modifyRuntime ((life_reap _ c).trans hrest) _ _

@[simp] theorem life_register (f : HostFn) : (w.register c f).2.life = w.life := by
  simp only [register]
  split
  · rfl
  · split
    · rw [life_report _ _ rfl, life_modifyContext, life_reap]
      exact fun _ => ⟨rfl, rfl⟩
    · exact w.life_reap c

omit [Guest.Collector] in
@[simp] theorem life_beginCall (h : Handle) : (w.beginCall c h).2.life = w.life := by
  unfold beginCall
  split
  · exact w.life_modifyContext c _ fun _ => ⟨rfl, rfl⟩
  · rfl

@[simp] theorem life_answer (q : Guest.Query) : (w.answer c q).2.life = w.life := by
  cases q with
  | isReleased | unmapped | pinned | remembersTexts => rfl
  | register f => exact w.life_register c f
  | pin v => exact w.life_pin c v
  | beginCall h => exact w.life_beginCall c h
  | dropCall | forgetTexts => exact w.life_modifyContext c _ fun _ => ⟨rfl, rfl⟩
  | report e => exact (life_report _ _ rfl).trans (w.life_reap c)

@[simp] theorem life_makeCall (call : PendingCall) : (w.makeCall c call).life = w.life := by
  rw [makeCall, life_modifyContext, life_reap]
  exact fun _ => ⟨rfl, rfl⟩

theorem life_asked (m : Guest.Machine) (q : Guest.Query) : ((w.setMachine c m).answer c q).2.life = w.life :=
  (life_answer _ _ _).trans (w.life_setMachine c m)

theorem life_refused (m : Guest.Machine) (q : Guest.Query) :
    (((w.setMachine c m).answer c q).2.lendRegistry c).life = w.life := life_asked w c m q

theorem life_freed (m : Guest.Machine) : ((w.setMachine c m).reap c).life = w.life :=
  (life_reap _ _).trans (w.life_setMachine c m)

theorem life_called (m : Guest.Machine) (call : PendingCall) : ((w.setMachine c m).makeCall c call).life = w.life :=
  (life_makeCall _ _ _).trans (w.life_setMachine c m)

end World

end Embedding
