import Embedding.Proofs.Registrations

namespace Embedding

variable [Guest.Collector]

namespace ContextState

/-- What the engine has freed has let go of its leases, and nothing that ran has left anything behind. -/
structure Idle (s : ContextState) : Prop where
  quiet : ∀ l ∈ s.leases, ¬ s.Freed l.function
  rest : s.machine.atRest = s.machine
  begun : s.begun = []

variable {s s' : ContextState}

theorem idle_reaped (hrest : s.machine.atRest = s.machine) (hbegun : s.begun = []) : s.reaped.Idle where
  quiet _ := not_freed_of_mem_reaped (s := s)
  rest := hrest
  begun := hbegun

theorem Operated.idle [Guest.Collector.Lawful] {op : Operation} {c : ContextId} (hop : s.Operated op c s') (h : s.Idle) : s'.Idle := by
  cases hop with
  | kept hregistry hleases hmachine hpins hbegun =>
    refine ⟨fun l hl hmem => h.quiet l (hleases ▸ hl) ?_, hmachine ▸ h.rest, hbegun.trans h.begun⟩
    rw [Freed, hmachine] at hmem
    exact Guest.Collector.Lawful.of_more hpins hmem
  | removed g => exact ⟨h.quiet, h.rest, h.begun⟩
  | reaped hregistry hleases hmachine hbegun => exact idle_reaped (hmachine ▸ h.rest) (hbegun.trans h.begun)
  | collected => exact ⟨fun l hl => h.quiet l (List.mem_of_mem_filter hl), h.rest, h.begun⟩
  | opened limit hs hregistry hleases hmachine hrest hbegun =>
    refine ⟨fun l hl => ?_, hrest, hbegun⟩
    rw [hleases] at hl
    cases hl

end ContextState

namespace World

variable {w : World} {c : ContextId}

theorem idle_dropPending [Guest.Collector.Lawful] (h : (w.context c).Idle) (c' : ContextId) : ((w.dropPending c').context c).Idle :=
  (w.operated_dropPending c (.dropPending c') c').idle h

omit [Guest.Collector] in
theorem size_contexts_drain (cs : List ContextId) : (cs.foldl release w).contexts.size = w.contexts.size := by
  induction cs generalizing w with
  | nil => rfl
  | cons c cs ih => rw [List.foldl_cons, ih, size_contexts_release]

omit [Guest.Collector] in
theorem size_contexts_freeRuntime (r : RuntimeId) : (w.freeRuntime r).contexts.size = w.contexts.size := by
  by_cases hfreed : (w.runtime r).freed = true
  · rw [freeRuntime_of_freed hfreed]
  · have hdrain : ((w.runtime r).parked.foldl release (w.closeRuntime r)).contexts.size = w.contexts.size := by
      rw [size_contexts_drain, contexts_closeRuntime]
    rw [freeRuntime_of_open (Bool.eq_false_iff.mpr hfreed)]
    dsimp only
    split
    · rw [contexts_teardown, hdrain]
    · exact hdrain

theorem size_contexts_leave : (w.leave c).contexts.size = w.contexts.size :=
  (size_contexts_of_life (w.life_leave c) :)

theorem idle_leave (h : c.index < w.contexts.size) : ((w.leave c).context c).Idle := by
  rw [context_leave_self h]
  exact ContextState.idle_reaped (Guest.Machine.atRest_atRest _) rfl

theorem idle_addContext (r : RuntimeId) (h : c.index = w.contexts.size) : ((w.addContext r).2.context c).Idle := by
  simp only [addContext, context_report, context_modifyRuntime]
  simp only [context, Array.getD_eq_getD_getElem?, h, Array.getElem?_push_size, Option.getD_some]
  obtain ⟨hroots, hframes, hdepth, hmemory⟩ := Guest.Realm.rests_initial
  have hclosed := Guest.Realm.closed_initial
  generalize Guest.Realm.initial = m at hclosed hroots hframes hdepth hmemory
  refine ⟨fun _ hl => (by cases hl), Guest.Machine.Closed.atRest_eq ?_ hroots hframes hdepth hmemory, rfl⟩
  exact { hclosed with }

end World

theorem Operation.size_contexts (op : Operation) (w : World) (hop : ∀ r, op ≠ .newContext r) :
    (op.apply w).contexts.size = w.contexts.size := by
  cases op with
  | newContext r => exact absurd rfl (hop r)
  | newRuntime config => rfl
  | freeRuntime r => exact w.size_contexts_freeRuntime r
  | dropRuntime r =>
    simp only [apply, World.dropRuntime]
    split
    · rfl
    · split
      · exact w.size_contexts_freeRuntime r
      · rfl
      · rfl
  | collect r =>
    simp only [apply]
    split
    · rfl
    · exact World.size_contexts_of_life (w.life_collect r)
  | dropContext c =>
    have hdrop := World.size_contexts_of_life (w.life_dropPending c)
    rw [apply]
    rcases w.dropContext_cases c with ⟨h, -⟩ | ⟨h, -⟩ | ⟨h, -⟩
    · rw [h, hdrop]
    · rw [h, World.size_contexts_release, hdrop]
    · rw [h, World.contexts_modifyRuntime, World.contexts_report, hdrop]
  | freeContext c =>
    rw [apply, World.freeContext, World.size_contexts_release, World.size_contexts_of_life (w.life_dropPending c)]
  | dropPending c => exact World.size_contexts_of_life (w.life_dropPending c)
  | keepPending c v => exact w.size_contexts_modifyContext c _
  | unregister c h => exact w.size_contexts_unregister h
  | copy v => exact World.size_contexts_of_life (w.life_copy v)
  | drop v => exact World.size_contexts_of_life (w.life_drop v)
  | exposed name h => rfl

def Position.Idle (p : Position) (c : ContextId) : Prop :=
  c.index < p.world.contexts.size → c ∉ p.work.map Activity.context → (p.world.context c).isReleased = false →
    (p.world.context c).Idle

theorem Step.idle [Guest.Collector.Lawful] {p q : Position} {m : Move} {c : ContextId} (hstep : Step p m q)
    (hseated : Seated p.world (p.work.map Activity.context)) (h : p.Idle c) : q.Idle c := by
  intro hknown hwork hopen
  have hopen' := hstep.open_before hopen
  cases hstep with
  | operate op =>
    by_cases hknown' : c.index < p.world.contexts.size
    · exact (op.operated p.world c hopen).idle (h hknown' hwork hopen')
    · by_cases hnew : ∃ r, op = .newContext r
      · obtain ⟨r, rfl⟩ := hnew
        simp only [Position.operate, Operation.apply] at hknown ⊢
        split at hknown
        · exact absurd hknown hknown'
        · next hr =>
          rw [if_neg hr]
          rw [World.size_contexts_addContext] at hknown
          exact World.idle_addContext r (by omega)
      · rw [Position.operate, op.size_contexts p.world fun r hop => hnew ⟨r, hop⟩] at hknown
        exact absurd hknown hknown'
  | enter => exact h hknown (fun hmem => hwork (List.mem_cons_of_mem _ hmem)) hopen'
  | @answer w held work c' α q m resume | @refuse w held work c' α q m resume =>
    have hc : c ≠ c' := fun heq => hwork (heq ▸ List.mem_cons_self)
    have hcontext := (World.context_answer_of_ne (w := w.setMachine c' m) q hc).trans (World.context_setMachine_of_ne hc)
    have hknown : c.index < w.contexts.size := World.size_contexts_of_life (World.life_asked _ _ _ _) ▸ hknown
    exact hcontext ▸ h hknown hwork hopen'
  | @free w held work c' α q m resume =>
    have hc : c ≠ c' := fun heq => hwork (heq ▸ List.mem_cons_self)
    rw [World.size_contexts_of_life (World.life_freed _ _ _)] at hknown
    rw [World.context_reap_of_ne hc, World.context_setMachine_of_ne hc]
    exact h hknown hwork hopen'
  | @call w held work c' α call args m resume =>
    have hc : c ≠ c' := fun heq => hwork (heq ▸ List.mem_cons_self)
    rw [World.size_contexts_of_life (World.life_called _ _ _ _)] at hknown
    rw [World.context_makeCall_of_ne _ hc, World.context_setMachine_of_ne hc]
    exact h hknown hwork hopen'
  | reply | dropped => exact h hknown hwork hopen'
  | @leave w held work c' α run m hend =>
    have hsize : ((w.setMachine c' m).leave c').contexts.size = w.contexts.size := by
      rw [World.size_contexts_leave, World.size_contexts_setMachine]
    by_cases hc : c = c'
    · subst hc
      rw [World.size_contexts_leave] at hknown
      exact World.idle_leave hknown
    · rw [hsize] at hknown
      rw [World.context_leave_of_ne hc, World.context_setMachine_of_ne hc]
      refine h hknown (fun hmem => ?_) hopen'
      rcases List.mem_cons.mp hmem with heq | hmem
      · exact hc heq
      · exact hwork hmem

theorem Position.Reachable.idle [Guest.Collector.Lawful] {p : Position} (hp : p.Reachable) (c : ContextId) : p.Idle c := by
  obtain ⟨ms, hplay⟩ := hp
  refine (hplay.keeps (P := fun p => p.Reachable ∧ p.Idle c) (fun hstep hp => ⟨?_, ?_⟩) ⟨⟨[], .nil⟩, ?_⟩).2
  · exact hp.1.append (.one hstep)
  · exact hstep.idle hp.1.seated hp.2
  · exact fun hknown => absurd hknown (Nat.not_lt_zero _)

theorem Position.Reachable.idle_of_free [Guest.Collector.Lawful] {p : Position} (hp : p.Reachable) {c : ContextId}
    (hknown : c.index < p.world.contexts.size) (hfree : p.world.contextObstacle? c = none) :
    (p.world.context c).Idle :=
  hp.idle c hknown (hp.seated.not_mem_of_free hfree) (World.contextObstacle_eq_none.mp hfree).1

namespace World

variable {w v : World} {c : ContextId}

theorem reap_of_idle (h : (w.context c).Idle) : w.reap c = w := reap_eq_self h.quiet

omit [Guest.Collector] in
theorem runtimes_enter_leave (hfree : (w.runtimeOf c).entered = false) (hruntimes : v.runtimes = (w.enter c).runtimes) :
    (v.modifyRuntime (w.context c).runtime fun r => { r with entered := false }).runtimes = w.runtimes := by
  rw [modifyRuntime, hruntimes, enter, modifyRuntime]
  apply Array.ext
  · simp
  · intro i hi hi'
    simp only [Array.getElem_modify]
    split
    · next hr =>
      simp only [runtimeOf, runtime, hr, Array.getD_eq_getD_getElem?, Array.getElem?_eq_getElem hi', Option.getD_some] at hfree
      generalize w.runtimes[i] = s at hfree ⊢
      cases s
      cases hfree
      rfl
    · rfl

theorem leave_of_idle {m : Guest.Machine} (h : (w.context c).Idle) (hm : m.atRest = (w.context c).machine)
    (hfree : (w.runtimeOf c).entered = false) (hruntimes : v.runtimes = (w.enter c).runtimes)
    (hcontexts : v.contexts = w.contexts) :
    ((v.setMachine c m).leave c).runtimes = w.runtimes ∧ ((v.setMachine c m).leave c).contexts = w.contexts := by
  have hcontext : v.context c = w.context c := by rw [context, context, hcontexts]
  have hrest : ((v.setMachine c m).modifyContext c fun s => { s with machine := s.machine.atRest, begun := [] }) = v := by
    rw [setMachine, modifyContext_modifyContext]
    apply modifyContext_eq_self
    rw [hcontext, hm, ← h.begun]
  have hidle : (v.context c).Idle := hcontext ▸ h
  rw [leave, hrest, reap_of_idle hidle, hcontext]
  exact ⟨runtimes_enter_leave hfree hruntimes, hcontexts⟩

theorem context_leave_of_no_leases (hknown : c.index < w.contexts.size) (hleases : (w.context c).leases = []) :
    (w.leave c).context c = { w.context c with machine := (w.context c).machine.atRest, begun := [] } := by
  rw [context_leave_self hknown, ContextState.reaped, ContextState.endLeases_eq_self (by rintro l hl; cases hleases ▸ hl)]

/-- To leave a context that has nothing leased undoes to the runtimes what entering it did. -/
theorem runtimes_leave_of_no_leases (hfree : (w.runtimeOf c).entered = false) (hruntimes : v.runtimes = (w.enter c).runtimes)
    (hknown : c.index < v.contexts.size) (hhome : (v.context c).runtime = (w.context c).runtime)
    (hleases : (v.context c).leases = []) : (v.leave c).runtimes = w.runtimes := by
  have hrest := context_modifyContext_self (w := v) (c := c)
    (fun s => { s with machine := s.machine.atRest, begun := [] }) hknown
  have hreap : (v.modifyContext c fun s => { s with machine := s.machine.atRest, begun := [] }).reap c =
      v.modifyContext c fun s => { s with machine := s.machine.atRest, begun := [] } := by
    apply reap_eq_self
    rw [hrest]
    rintro l hl
    cases hleases ▸ hl
  rw [leave, hreap, hrest, hhome]
  exact runtimes_enter_leave hfree hruntimes

end World

end Embedding
