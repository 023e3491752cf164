import Embedding.Proofs.Callbacks
import Embedding.Proofs.ClosedMachines
import Embedding.Proofs.Layout

namespace Embedding

variable [Guest.Collector]

inductive ContextState.Operated (op : Operation) (c : ContextId) (s : ContextState) : ContextState → Prop where
  | kept {s' : ContextState} (hregistry : s'.registry = s.registry) (hleases : s'.leases = s.leases)
      (hmachine : s'.machine = s.machine) (hpins : ∀ v ∈ s.pins.values, v ∈ s'.pins.values)
      (hbegun : s'.begun = s.begun) : Operated op c s s'
  | removed (h : Handle) (hop : op = .unregister c h) :
      Operated op c s { s with registry := (s.registry.remove h).2 }
  | reaped {s' : ContextState} (hregistry : s'.registry = s.registry) (hleases : s'.leases = s.leases)
      (hmachine : s'.machine = s.machine) (hbegun : s'.begun = s.begun) : Operated op c s s'.reaped
  | collected (r : RuntimeId) (hop : op = .collect r) :
      Operated op c s s.collected
  | opened {s' : ContextState} (limit : Nat) (hs : s = default) (hregistry : s'.registry = Registry.ofLimit limit)
      (hleases : s'.leases = []) (hmachine : s'.machine.handleAt? = fun _ => none)
      (hrest : s'.machine.atRest = s'.machine) (hbegun : s'.begun = []) : Operated op c s s'

namespace ContextState.Operated

variable {op : Operation} {c : ContextId} {s : ContextState}

theorem refl (op : Operation) (c : ContextId) (s : ContextState) : s.Operated op c s :=
  .kept rfl rfl rfl (fun _ => id) rfl

end ContextState.Operated

namespace World

variable (w : World) (c : ContextId)

omit [Guest.Collector] in
theorem context_of_contexts {w w' : World} (h : w'.contexts = w.contexts) (c : ContextId) :
    w'.context c = w.context c := by
  rw [context, context, h]

theorem context_drop (v : ValueRef) : (w.drop v).context c =
    if c = v.context ∧ v.context.index < w.contexts.size then
      ContextState.reaped { w.context v.context with pins := (w.context v.context).pins.remove v.pin }
    else w.context c := by
  rw [drop, context_reap, size_contexts_modifyContext, context_modifyContext, context_modifyContext]
  split
  · next h => rw [if_pos ⟨rfl, h.2⟩]
  · rfl

theorem machine_drop (v : ValueRef) :
    ((w.drop v).context c).machine = (w.context c).machine := by
  rw [context_drop]
  split
  · next h => rw [h.1, ContextState.machine_reaped]
  · rfl

theorem dropPending_context (c' : ContextId) :
    ((w.dropPending c).context c').machine = (w.context c').machine ∧
      ((∀ v, (w.context c).pending = some v → v.context ≠ c') →
        ((w.dropPending c).context c').registry = (w.context c').registry) := by
  unfold dropPending
  split
  · next v hv =>
    have hcleared (f : ContextState → ContextState) (hf : ∀ s, (f s).machine = s.machine ∧ (f s).registry = s.registry) :
        ((w.modifyContext c f).context c').machine = (w.context c').machine ∧
          ((w.modifyContext c f).context c').registry = (w.context c').registry := by
      rw [context_modifyContext]
      split
      · next h => rw [h.1]; exact hf _
      · exact ⟨rfl, rfl⟩
    obtain ⟨hmachine, hregistry⟩ := hcleared (fun s => { s with pending := none }) fun _ => ⟨rfl, rfl⟩
    rw [machine_drop]
    refine ⟨hmachine, fun hother => ?_⟩
    rw [context_drop, if_neg fun h => hother v hv h.1.symm]
    exact hregistry
  · exact ⟨rfl, fun _ => rfl⟩

theorem operated_drop (op : Operation) (v : ValueRef) :
    (w.context c).Operated op c ((w.drop v).context c) := by
  rw [context_drop]
  split
  · next h =>
    rw [h.1]
    exact .reaped rfl rfl rfl rfl
  · exact .refl _ _ _

theorem operated_dropPending (op : Operation) (c' : ContextId) :
    (w.context c).Operated op c ((w.dropPending c').context c) := by
  unfold dropPending
  split
  · next v _ =>
    have hsame : ((w.modifyContext c' fun s => { s with pending := none }).context c).registry = (w.context c).registry ∧
        ((w.modifyContext c' fun s => { s with pending := none }).context c).leases = (w.context c).leases ∧
        ((w.modifyContext c' fun s => { s with pending := none }).context c).machine = (w.context c).machine ∧
        ((w.modifyContext c' fun s => { s with pending := none }).context c).pins = (w.context c).pins ∧
        ((w.modifyContext c' fun s => { s with pending := none }).context c).begun = (w.context c).begun := by
      rw [context_modifyContext]
      split
      · next h => rw [h.1]; exact ⟨rfl, rfl, rfl, rfl, rfl⟩
      · exact ⟨rfl, rfl, rfl, rfl, rfl⟩
    obtain ⟨hregistry, hleases, hmachine, hpins, hbegun⟩ := hsame
    rw [context_drop]
    split
    · next h =>
      rw [← h.1]
      exact .reaped hregistry hleases hmachine hbegun
    · exact .kept hregistry hleases hmachine (hpins ▸ fun _ => id) hbegun
  · exact .refl _ _ _

section Open

variable {w c}

section

omit [Guest.Collector]

theorem context_release_of_open {c' : ContextId} (h : ((w.release c').context c).isReleased = false) :
    (w.release c').context c = w.context c := by
  by_cases hr : (w.context c').isReleased = true
  · rw [release_of_released hr]
  · rw [context_release _ (Bool.eq_false_iff.mpr hr)] at h ⊢
    split at h
    · cases h
    · next hc => rw [if_neg hc]

theorem context_drain_of_open {cs : List ContextId} (h : ((cs.foldl release w).context c).isReleased = false) :
    (cs.foldl release w).context c = w.context c := by
  induction cs generalizing w with
  | nil => rfl
  | cons c' cs ih =>
    have hrest := ih h
    rw [List.foldl_cons] at h ⊢
    rw [hrest] at h ⊢
    exact context_release_of_open h

theorem context_freeRuntime_of_open {r : RuntimeId} (h : ((w.freeRuntime r).context c).isReleased = false) :
    (w.freeRuntime r).context c = w.context c := by
  by_cases hfreed : (w.runtime r).freed = true
  · rw [freeRuntime_of_freed hfreed]
  · have hdrain : ((w.freeRuntime r).context c) =
        (((w.runtime r).parked.foldl release (w.closeRuntime r)).context c) := by
      rw [freeRuntime_of_open (Bool.eq_false_iff.mpr hfreed)]
      dsimp only
      split
      · exact context_of_contexts (contexts_teardown _ r) c
      · rfl
    rw [hdrain] at h ⊢
    rw [context_drain_of_open h]
    exact context_of_contexts (w.contexts_closeRuntime r) c

theorem context_dropRuntime_of_open {r : RuntimeId} (h : ((w.dropRuntime r).context c).isReleased = false) :
    (w.dropRuntime r).context c = w.context c := by
  simp only [dropRuntime] at h ⊢
  split
  · rfl
  · next hfreed =>
    rw [if_neg hfreed] at h
    split
    · next hcleanup =>
      rw [hcleanup] at h
      exact context_freeRuntime_of_open h
    · rfl
    · rfl

end

end Open

theorem context_collect (r : RuntimeId) : (w.collect r).context c =
    if c ∈ w.contextsOf r then
      (w.context c).collected
    else w.context c := by
  have hfold (cs : List ContextId) (hnodup : cs.Nodup) (hknown : ∀ c ∈ cs, c.index < w.contexts.size) (w' : World)
      (hsize : w'.contexts.size = w.contexts.size) : (cs.foldl (fun w c => w.collectIn c) w').context c =
      if c ∈ cs then
        (w'.context c).collected
      else w'.context c := by
    induction cs generalizing w' with
    | nil => rfl
    | cons c' cs ih =>
      obtain ⟨hnew, hnodup⟩ := List.nodup_cons.mp hnodup
      have hnext : (w'.collectIn c').contexts.size = w.contexts.size :=
        (size_contexts_of_life (w'.life_collectIn c')).trans hsize
      rw [List.foldl_cons, ih hnodup (fun c hc => hknown c (List.mem_cons_of_mem _ hc)) _ hnext, context_collectIn, hsize]
      by_cases hc : c = c'
      · subst hc
        simp [hnew, hknown c List.mem_cons_self]
      · simp [hc]
  exact hfold _ (w.nodup_contextsOf r) (fun c hc => ((w.mem_contextsOf r c).mp hc).1) w rfl

end World

omit [Guest.Collector] in
theorem Guest.Realm.rests_initial :
    initial.roots = [] ∧ initial.frames = [] ∧ initial.depth = 0 ∧ initial.memory = 0 := ⟨rfl, rfl, rfl, rfl⟩

theorem World.operated_addContext (w : World) (c : ContextId) (op : Operation) (r : RuntimeId) :
    (w.context c).Operated op c ((w.addContext r).2.context c) := by
  simp only [addContext, context_report, context_modifyRuntime]
  simp only [context, Array.getD_eq_getD_getElem?, Array.getElem?_push]
  split
  · next hc =>
    rw [hc, Array.getElem?_size, Option.getD_some]
    have hrealm := Guest.Realm.handleAt?_initial
    obtain ⟨hroots, hframes, hdepth, hmemory⟩ := Guest.Realm.rests_initial
    have hclosed := Guest.Realm.closed_initial
    generalize Guest.Realm.initial = m at hrealm hclosed hroots hframes hdepth hmemory
    refine .opened _ rfl rfl rfl ((Guest.Machine.handleAt?_of_objects rfl).trans hrealm) ?_ rfl
    exact Guest.Machine.Closed.atRest_eq { hclosed with } hroots hframes hdepth hmemory
  · exact .refl _ _ _

theorem Operation.operated (op : Operation) (w : World) (c : ContextId)
    (hopen : ((op.apply w).context c).isReleased = false) :
    (w.context c).Operated op c ((op.apply w).context c) := by
  cases op with
  | newRuntime config => exact .refl _ _ _
  | dropRuntime r =>
    rw [apply, World.context_dropRuntime_of_open hopen]
    exact .refl _ _ _
  | freeRuntime r =>
    rw [apply, World.context_freeRuntime_of_open hopen]
    exact .refl _ _ _
  | collect r =>
    simp only [apply]
    split
    · exact .refl _ _ _
    · rw [World.context_collect]
      split
      · exact .collected r rfl
      · exact .refl _ _ _
  | newContext r =>
    simp only [apply]
    split
    · exact .refl _ _ _
    · exact w.operated_addContext c _ r
  | dropContext c' =>
    simp only [apply] at hopen ⊢
    rcases w.dropContext_cases c' with ⟨h, -⟩ | ⟨h, -⟩ | ⟨h, -⟩
    · rw [h]
      exact w.operated_dropPending c _ c'
    · rw [h] at hopen ⊢
      rw [World.context_release_of_open hopen]
      exact w.operated_dropPending c _ c'
    · rw [h]
      exact w.operated_dropPending c _ c'
  | freeContext c' =>
    simp only [apply, World.freeContext] at hopen ⊢
    rw [World.context_release_of_open hopen]
    exact w.operated_dropPending c _ c'
  | dropPending c' => exact w.operated_dropPending c _ c'
  | keepPending c' v =>
    simp only [apply]
    rw [World.context_modifyContext]
    split
    · next h =>
      rw [h.1]
      exact .kept rfl rfl rfl (fun _ => id) rfl
    · exact .refl _ _ _
  | unregister c' h =>
    simp only [apply]
    rw [World.context_unregister]
    split
    · next hc =>
      obtain ⟨rfl, -⟩ := hc
      exact .removed h rfl
    · exact .refl _ _ _
  | copy v =>
    simp only [apply, World.copy, World.pin]
    rw [World.context_modifyContext]
    split
    · next h =>
      rw [h.1]
      exact .kept rfl rfl rfl (fun _ => List.mem_cons_of_mem _) rfl
    · exact .refl _ _ _
  | drop v => exact w.operated_drop c _ v
  | exposed name h => exact .refl _ _ _

end Embedding
