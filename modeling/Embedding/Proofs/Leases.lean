import Embedding.Proofs.Slots
import Embedding.Proofs.World

namespace Embedding

theorem Guest.Machine.handleAt?_of_objects {m m' : Machine} (h : m'.objects = m.objects) :
    m'.handleAt? = m.handleAt? := by
  unfold handleAt?
  rw [h]

theorem Guest.Machine.handleAt?_atRest (m : Machine) : m.atRest.handleAt? = m.handleAt? :=
  (handleAt?_mended _).trans (handleAt?_of_objects rfl)

namespace ContextState

variable (s : ContextState)

/-- The handles whose leases end when the functions at some places are freed. -/
def endedHandles (places : List Nat) : List Handle :=
  (places.filterMap fun o => s.leases.find? (·.function = o)).map (·.handle)

/-- A context in which the functions at some places have been freed. -/
def endLeases (places : List Nat) : ContextState :=
  { s with
    leases := s.leases.filter (·.function ∉ places)
    registry := s.registry.removeAll (s.endedHandles places) }

section

variable [Guest.Collector]

/-- A context in which all has been freed that nothing refers to. -/
def reaped : ContextState := s.endLeases (Guest.Collector.freed s.machine s.pins.values)

def collected : ContextState := s.endLeases (Guest.Collector.unreachable s.machine s.pins.values)

@[simp] theorem machine_reaped : s.reaped.machine = s.machine := rfl

theorem prunes_reaped : s.registry.Prunes s.reaped.registry := .removeAll _ _

theorem sound_reaped (h : s.registry.Sound) : s.reaped.registry.Sound := h.removeAll _

/-- What the engine frees in a context as soon as nothing refers to it. -/
def Freed (o : Guest.ObjectId) : Prop := o ∈ Guest.Collector.freed s.machine s.pins.values

/-- What a full collection frees in a context. -/
def Unreachable (o : Guest.ObjectId) : Prop := o ∈ Guest.Collector.unreachable s.machine s.pins.values

end

section

variable {s} {places : List Nat} (h : ∀ l ∈ s.leases, l.function ∉ places)
include h

theorem endedHandles_eq_nil : s.endedHandles places = [] := by
  rw [endedHandles, List.map_eq_nil_iff, List.filterMap_eq_nil_iff]
  intro o ho
  rw [List.find?_eq_none]
  rintro l hl hlo
  exact h l hl (of_decide_eq_true hlo ▸ ho)

theorem filter_leases_eq_self : s.leases.filter (·.function ∉ places) = s.leases :=
  List.filter_eq_self.mpr fun l hl => decide_eq_true (h l hl)

theorem endLeases_eq_self : s.endLeases places = s := by
  rw [endLeases, endedHandles_eq_nil h, filter_leases_eq_self h]
  rfl

end

end ContextState

namespace World

variable {w : World} {c c' : ContextId}

theorem modifyContext_eq_self {f : ContextState → ContextState} (h : f (w.context c) = w.context c) :
    w.modifyContext c f = w := by
  have hcontexts : w.contexts.modify c.index f = w.contexts := by
    apply Array.ext
    · simp
    · intro i hi hi'
      rw [Array.getElem_modify]
      split
      · next hc =>
        subst hc
        have hget : w.context c = w.contexts[c.index] := by simp [context, hi']
        rwa [hget] at h
      · rfl
  rw [modifyContext, hcontexts]

theorem context_of_le (h : ¬ c.index < w.contexts.size) : w.context c = default := by
  simp [context, h]

section

variable [Guest.Collector]

section

omit [Guest.Collector]

theorem context_unregister (h : Handle) : (w.unregister c h).2.context c' =
    if c' = c ∧ c.index < w.contexts.size then
      { w.context c with registry := ((w.context c).registry.remove h).2 }
    else w.context c' := by
  simp only [unregister, context_useRegistry]
  split
  · next r hremove =>
    simp only [context_report, context_modifyContext, hremove, context_useRegistry, contexts_useRegistry]
  · next r hremove =>
    have hsame : ((w.context c).registry.remove h).2 = (w.context c).registry := by
      unfold Registry.remove at hremove ⊢
      split at hremove
      · cases hremove
      · rfl
    rw [hsame, context_useRegistry]
    split
    · next hc => rw [hc.1]
    · rfl

@[simp] theorem size_contexts_unregister (h : Handle) : (w.unregister c h).2.contexts.size = w.contexts.size :=
  size_contexts_of_life (w.life_unregister c h)

theorem context_unregisterAll (hs : List Handle) : (w.unregisterAll c hs).context c' =
    if c' = c ∧ c.index < w.contexts.size then
      { w.context c with registry := (w.context c).registry.removeAll hs }
    else w.context c' := by
  unfold unregisterAll Registry.removeAll
  induction hs generalizing w with
  | nil =>
    split
    · next hc => rw [hc.1]; rfl
    · rfl
  | cons h hs ih =>
    rw [List.foldl_cons, ih, size_contexts_unregister]
    split
    · next hc => rw [context_unregister, if_pos ⟨rfl, hc.2⟩, List.foldl_cons]
    · next hc => rw [context_unregister, if_neg hc]

theorem context_endLeases (places : List Nat) : (w.endLeases c places).context c' =
    if c' = c ∧ c.index < w.contexts.size then (w.context c).endLeases places else w.context c' := by
  rw [endLeases, context_unregisterAll, size_contexts_modifyContext, context_modifyContext, context_modifyContext]
  split
  · next hc =>
    rw [if_pos ⟨rfl, hc.2⟩]
    rfl
  · rfl

end

theorem context_reap : (w.reap c).context c' =
    if c' = c ∧ c.index < w.contexts.size then (w.context c).reaped else w.context c' := by
  simp only [reap]
  split
  · next hempty =>
    have hnone := List.isEmpty_iff.mp hempty
    rw [ContextState.reaped, ContextState.endLeases_eq_self (by simp [hnone])]
    split
    · next hc => rw [hc.1]
    · rfl
  · exact context_endLeases _

theorem context_collectIn : (w.collectIn c).context c' =
    if c' = c ∧ c.index < w.contexts.size then (w.context c).collected else w.context c' := by
  simp only [collectIn]
  split
  · next hempty =>
    have hnone := List.isEmpty_iff.mp hempty
    rw [ContextState.collected, ContextState.endLeases_eq_self (by simp [hnone])]
    split
    · next hc => rw [hc.1]
    · rfl
  · exact context_endLeases _

theorem reap_eq_self (h : ∀ l ∈ (w.context c).leases, ¬ (w.context c).Freed l.function) : w.reap c = w := by
  simp only [reap]
  split
  · rfl
  · show World.unregisterAll _ c ((w.context c).endedHandles _) = w
    rw [ContextState.endedHandles_eq_nil h]
    apply modifyContext_eq_self
    rw [ContextState.filter_leases_eq_self h]

theorem size_contexts_reap : (w.reap c).contexts.size = w.contexts.size := size_contexts_of_life (w.life_reap c)

theorem context_reap_of_ne (h : c' ≠ c) : (w.reap c).context c' = w.context c' := by
  rw [context_reap, if_neg fun hc => h hc.1]

theorem context_answer_of_ne (q : Guest.Query) (h : c' ≠ c) : (w.answer c q).2.context c' = w.context c' := by
  cases q with
  | isReleased | unmapped | pinned | remembersTexts => rfl
  | register f =>
    simp only [answer, register]
    split
    · rfl
    · split
      · rw [context_report, context_modifyContext_of_ne _ h, context_reap_of_ne h]
      · rw [context_reap_of_ne h]
  | pin v => exact context_modifyContext_of_ne _ h
  | beginCall g =>
    simp only [answer, beginCall]
    split
    · exact context_modifyContext_of_ne _ h
    · rfl
  | dropCall call => exact context_modifyContext_of_ne _ h
  | forgetTexts n => exact context_modifyContext_of_ne _ h
  | report n => exact context_reap_of_ne h

theorem context_makeCall_of_ne (call : PendingCall) (h : c' ≠ c) : (w.makeCall c call).context c' = w.context c' := by
  rw [makeCall, context_modifyContext_of_ne _ h, context_reap_of_ne h]

theorem context_leave_of_ne (h : c' ≠ c) : (w.leave c).context c' = w.context c' := by
  rw [leave, context_modifyRuntime, context_reap_of_ne h, context_modifyContext_of_ne _ h]

theorem context_makeCall_self (call : PendingCall) (h : c.index < w.contexts.size) :
    (w.makeCall c call).context c = { (w.context c).reaped with begun := (w.context c).begun.erase call } := by
  have hreap : (w.reap c).context c = (w.context c).reaped := by rw [context_reap, if_pos ⟨rfl, h⟩]
  rw [makeCall, context_modifyContext_self _ (by rwa [size_contexts_reap]), hreap]
  rfl

theorem context_leave_self (h : c.index < w.contexts.size) :
    (w.leave c).context c = ContextState.reaped { w.context c with machine := (w.context c).machine.atRest, begun := [] } := by
  rw [leave, context_modifyRuntime, context_reap, if_pos ⟨rfl, by simpa using h⟩, context_modifyContext_self _ h]

/-- Only a host function that is kept changes what is registered; all else that is asked ends registrations at most. -/
theorem context_answer_self (q : Guest.Query) (hq : ∀ f, q ≠ .register f) (h : c.index < w.contexts.size) :
    ∃ s₁ : ContextState, s₁.registry = (w.context c).registry ∧ s₁.leases = (w.context c).leases ∧
      ((w.answer c q).2.context c = s₁ ∨ (w.answer c q).2.context c = s₁.reaped) := by
  cases q with
  | isReleased | unmapped | pinned | remembersTexts => exact ⟨w.context c, rfl, rfl, .inl rfl⟩
  | register f => exact absurd rfl (hq f)
  | pin v =>
    refine ⟨{ w.context c with pins := ((w.pin c v).2.context c).pins }, rfl, rfl, .inl ?_⟩
    simp only [answer, pin, context_modifyContext_self _ h]
  | beginCall g =>
    simp only [answer, beginCall]
    split
    · next f _ =>
      refine ⟨{ w.context c with begun := ⟨g, f⟩ :: (w.context c).begun }, rfl, rfl, .inl ?_⟩
      exact context_modifyContext_self _ h
    · exact ⟨w.context c, rfl, rfl, .inl rfl⟩
  | dropCall call =>
    refine ⟨{ w.context c with begun := (w.context c).begun.erase call }, rfl, rfl, .inl ?_⟩
    exact context_modifyContext_self _ h
  | forgetTexts n =>
    refine ⟨{ w.context c with forgotten := n :: (w.context c).forgotten }, rfl, rfl, .inl ?_⟩
    exact context_modifyContext_self _ h
  | report n => exact ⟨w.context c, rfl, rfl, .inr (by rw [answer, context_report, context_reap, if_pos ⟨rfl, h⟩])⟩

end

end World

namespace ContextState

theorem not_freed_of_mem_reaped [Guest.Collector] {s : ContextState} {l : Lease} (hl : l ∈ s.reaped.leases) : ¬ s.Freed l.function :=
  of_decide_eq_true (p := l.function ∉ Guest.Collector.freed s.machine s.pins.values) (List.mem_filter.mp hl).2

/-- The leases of a context agree with its registry, and with the handles that functions have in it: what is
registered is leased, by the one function that has the handle. -/
structure Leased (s : ContextState) (handles : Guest.ObjectId → Option Handle) : Prop where
  issued : ∀ o h, handles o = some h → s.registry.Issued h
  apart : ∀ o o' h, handles o = some h → handles o' = some h → o = o'
  leased : ∀ h f, s.registry.get? h = some f → ∃ l ∈ s.leases, l.handle = h
  holds : ∀ l ∈ s.leases, handles l.function = some l.handle
  sound : s.registry.Sound

/-- A context that has shed some of its entries, and nothing else of its registry: each of them has been removed, or the
function that leased it has been freed. -/
structure Sheds (s s' : ContextState) (removed : Handle → Prop) (freed : Guest.ObjectId → Prop) : Prop where
  registry : s.registry.Prunes s'.registry
  sound : s.registry.Sound → s'.registry.Sound
  leases : ∀ l ∈ s'.leases, l ∈ s.leases
  gone : ∀ h f, s.registry.get? h = some f → s'.registry.get? h = none →
    removed h ∨ ∃ l ∈ s.leases, l.handle = h ∧ l ∉ s'.leases
  freed : ∀ l ∈ s.leases, l ∉ s'.leases → freed l.function
  ended : ∀ l ∈ s.leases, l ∉ s'.leases → s'.registry.get? l.handle = none

namespace Sheds

variable {s s' s'' : ContextState} {removed removed' : Handle → Prop} {freed freed' : Guest.ObjectId → Prop}

theorem of_same (hregistry : s'.registry = s.registry) (hleases : s'.leases = s.leases) : s.Sheds s' removed freed where
  registry := hregistry ▸ .refl _
  sound h := hregistry ▸ h
  leases l hl := hleases ▸ hl
  gone h f hf hnone := by
    rw [hregistry, hf] at hnone
    cases hnone
  freed l hl hl' := absurd (hleases ▸ hl) hl'
  ended l hl hl' := absurd (hleases ▸ hl) hl'

theorem imp (h : s.Sheds s' removed freed) (hremoved : ∀ h, removed h → removed' h) (hfreed : ∀ o, freed o → freed' o) :
    s.Sheds s' removed' freed' where
  registry := h.registry
  sound := h.sound
  leases := h.leases
  gone g f hf hnone := (h.gone g f hf hnone).imp_left (hremoved g)
  freed l hl hl' := hfreed _ (h.freed l hl hl')
  ended := h.ended

theorem trans (h : s.Sheds s' removed freed) (h' : s'.Sheds s'' removed freed) : s.Sheds s'' removed freed where
  registry := h.registry.trans h'.registry
  sound := h'.sound ∘ h.sound
  leases l hl := h.leases l (h'.leases l hl)
  gone g f hf hnone := by
    cases hmid : s'.registry.get? g with
    | none =>
      exact (h.gone g f hf hmid).imp_right fun ⟨l, hl, hg, hl'⟩ => ⟨l, hl, hg, fun hl'' => hl' (h'.leases l hl'')⟩
    | some f' => exact (h'.gone g f' hmid hnone).imp_right fun ⟨l, hl, hg, hl'⟩ => ⟨l, h.leases l hl, hg, hl'⟩
  freed l hl hl'' := by
    by_cases hl' : l ∈ s'.leases
    · exact h'.freed l hl' hl''
    · exact h.freed l hl hl'
  ended l hl hl'' := by
    by_cases hl' : l ∈ s'.leases
    · exact h'.ended l hl' hl''
    · exact h'.registry.get?_eq_none (h.ended l hl hl')

theorem remove (h : Handle) (hregistry : s'.registry = (s.registry.remove h).2) (hleases : s'.leases = s.leases) :
    s.Sheds s' (· = h) freed where
  registry := hregistry ▸ .remove _ h
  sound hsound := hregistry ▸ hsound.remove h
  leases l hl := hleases ▸ hl
  gone g f hf hnone := by
    by_contra hor
    rw [hregistry, Registry.get?_remove_eq, if_neg fun heq => hor (.inl heq), hf] at hnone
    cases hnone
  freed l hl hl' := absurd (hleases ▸ hl) hl'
  ended l hl hl' := absurd (hleases ▸ hl) hl'

end Sheds

namespace Leased

variable {s s' : ContextState} {handles : Guest.ObjectId → Option Handle} (h : s.Leased handles)
include h

theorem unique {l l' : Lease} (hl : l ∈ s.leases) (hl' : l' ∈ s.leases) (heq : l.handle = l'.handle) : l = l' := by
  have hfunction := h.apart _ _ _ (h.holds l hl) (heq ▸ h.holds l' hl')
  cases l
  cases l'
  simp_all

theorem mem_endedHandles {places : List Nat} {g : Handle} :
    g ∈ s.endedHandles places ↔ ∃ l ∈ s.leases, l.handle = g ∧ l.function ∈ places := by
  simp only [endedHandles, List.mem_map, List.mem_filterMap]
  constructor
  · rintro ⟨l, ⟨o, ho, hfind⟩, rfl⟩
    have hlo : l.function = o := by simpa using List.find?_some hfind
    exact ⟨l, List.mem_of_find?_eq_some hfind, rfl, hlo ▸ ho⟩
  · rintro ⟨l, hl, rfl, ho⟩
    obtain ⟨l', hfind⟩ : ∃ l', s.leases.find? (·.function = l.function) = some l' := by
      rw [← Option.isSome_iff_exists, List.find?_isSome]
      exact ⟨l, hl, decide_eq_true rfl⟩
    have hsame : l'.function = l.function := by simpa using List.find?_some hfind
    have hhandle := h.holds l' (List.mem_of_find?_eq_some hfind)
    rw [hsame, h.holds l hl] at hhandle
    exact ⟨l', ⟨l.function, ho, hfind⟩, (Option.some.inj hhandle).symm⟩

theorem get?_endLeases {places : List Nat} (g : Handle) : (s.endLeases places).registry.get? g =
    if ∃ l ∈ s.leases, l.handle = g ∧ l.function ∈ places then none else s.registry.get? g := by
  rw [endLeases, Registry.get?_removeAll]
  simp only [h.mem_endedHandles]

omit h in
theorem not_mem_filter {places : List Nat} {l : Lease} (hl : l ∈ s.leases) (hl' : l ∉ (s.endLeases places).leases) :
    l.function ∈ places := by
  by_contra ho
  exact hl' (List.mem_filter.mpr ⟨hl, decide_eq_true ho⟩)

theorem sheds_endLeases {places : List Nat} : s.Sheds (s.endLeases places) (fun _ => False) (· ∈ places) where
  registry := .removeAll _ _
  sound hsound := hsound.removeAll _
  leases l hl := (List.mem_filter.mp hl).1
  gone g f hf hnone := by
    rw [h.get?_endLeases] at hnone
    split at hnone
    · next hended =>
      obtain ⟨l, hl, hg, ho⟩ := hended
      refine .inr ⟨l, hl, hg, fun hl' => ?_⟩
      exact of_decide_eq_true (List.mem_filter.mp hl').2 ho
    · rw [hf] at hnone
      cases hnone
  freed l hl hl' := not_mem_filter hl hl'
  ended l hl hl' := by
    rw [h.get?_endLeases, if_pos ⟨l, hl, rfl, not_mem_filter hl hl'⟩]

theorem sheds {removed : Handle → Prop} {freed : Guest.ObjectId → Prop} (hsheds : s.Sheds s' removed freed)
    (hascends : s.registry.Ascends s'.registry) : s'.Leased handles where
  issued o g ho := (h.issued o g ho).prune hsheds.registry hascends
  apart := h.apart
  leased g f hf := by
    obtain ⟨l, hl, rfl⟩ := h.leased g f (hsheds.registry.get? hf)
    by_cases hl' : l ∈ s'.leases
    · exact ⟨l, hl', rfl⟩
    · rw [hsheds.ended l hl hl'] at hf
      cases hf
  holds l hl := h.holds l (hsheds.leases l hl)
  sound := hsheds.sound h.sound

theorem register {i : Nat} (hsize : i ≤ s.registry.slots.size) (hlimit : i < s.registry.limit)
    (hfree : s.registry.isFree i = true) (f : HostFn) {o : Guest.ObjectId} (ho : handles o = none) :
    ContextState.Leased { s with
      registry := s.registry.occupy i f
      leases := ⟨o, ⟨i, s.registry.generationAt i⟩⟩ :: s.leases }
    (fun o' => if o' = o then some ⟨i, s.registry.generationAt i⟩ else handles o') where
  issued o' g hg := by
    split at hg
    · cases hg
      apply Registry.Issued.of_get? (f := f)
      rw [Registry.get?_occupy hsize hfree, if_pos rfl]
    · exact (h.issued o' g hg).occupy hsize f
  apart o₁ o₂ g h₁ h₂ := by
    have hnew : ∀ o', handles o' ≠ some ⟨i, s.registry.generationAt i⟩ := fun o' ho' =>
      Registry.not_issued_of_isFree hfree (h.issued o' _ ho')
    split at h₁ <;> split at h₂
    · next e₁ e₂ => rw [e₁, e₂]
    · cases h₁
      exact absurd h₂ (hnew o₂)
    · cases h₂
      exact absurd h₁ (hnew o₁)
    · exact h.apart o₁ o₂ g h₁ h₂
  leased g f' hf := by
    rw [Registry.get?_occupy hsize hfree] at hf
    split at hf
    · next hg => exact ⟨_, List.mem_cons_self, hg.symm⟩
    · obtain ⟨l, hl, hg⟩ := h.leased g f' hf
      exact ⟨l, List.mem_cons_of_mem _ hl, hg⟩
  holds l hl := by
    rcases List.mem_cons.mp hl with rfl | hl
    · exact if_pos rfl
    · have hheld := h.holds l hl
      rw [if_neg]
      · exact hheld
      · rintro rfl
        rw [ho] at hheld
        cases hheld
  sound := h.sound.occupy hsize hlimit hfree f

end Leased

end ContextState

end Embedding
