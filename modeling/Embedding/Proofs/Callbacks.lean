import Embedding.Proofs.Calling

namespace Embedding

section

variable [Guest.Collector]

/-- What operations do to a context: no handle comes to find a function, the calls that are begun stay as they
are, and a context that is released finds none. -/
structure ContextState.Settles (s s' : ContextState) : Prop where
  gone : ∀ h, s.registry.get? h = none → s'.registry.get? h = none
  begun : s'.begun = s.begun
  released : s'.isReleased = true → s.isReleased = true ∨ ∀ h, s'.registry.get? h = none
  stays : s.isReleased = true → s'.isReleased = true
  sound : s.registry.Sound → s'.registry.Sound

namespace ContextState.Settles

variable {s s' s'' : ContextState}

omit [Guest.Collector] in
theorem refl (s : ContextState) : s.Settles s := ⟨fun _ => id, rfl, .inl, id, id⟩

omit [Guest.Collector] in
theorem trans (h : s.Settles s') (h' : s'.Settles s'') : s.Settles s'' where
  gone g hg := h'.gone g (h.gone g hg)
  begun := h'.begun.trans h.begun
  released hr := by
    rcases h'.released hr with hr | hr
    · rcases h.released hr with hr | hr
      · exact .inl hr
      · exact .inr fun g => h'.gone g (hr g)
    · exact .inr hr
  stays := h'.stays ∘ h.stays
  sound := h'.sound ∘ h.sound

end ContextState.Settles

namespace World

def Settles (w w' : World) : Prop := ∀ c, (w.context c).Settles (w'.context c)

namespace Settles

variable {w w' w'' : World}

section

omit [Guest.Collector]

theorem refl (w : World) : w.Settles w := fun _ => .refl _

theorem trans (h : w.Settles w') (h' : w'.Settles w'') : w.Settles w'' := fun c => (h c).trans (h' c)

theorem of_contexts (h : w'.contexts = w.contexts) : w.Settles w' := by
  intro c
  rw [context, context, h]
  exact .refl _

theorem modifyContext (w : World) (c : ContextId) (f : ContextState → ContextState)
    (hf : (w.context c).Settles (f (w.context c))) : w.Settles (w.modifyContext c f) := by
  intro c'
  rw [context_modifyContext]
  split
  · next h =>
    rw [h.1]
    exact hf
  · exact .refl _

theorem modifyContext_of_same (w : World) (c : ContextId) (f : ContextState → ContextState)
    (hf : ∀ s, (f s).registry = s.registry ∧ (f s).begun = s.begun ∧ (f s).isReleased = s.isReleased) :
    w.Settles (w.modifyContext c f) := by
  obtain ⟨hr, hb, hl⟩ := hf (w.context c)
  apply modifyContext
  exact ⟨fun _ h => by rwa [hr], hb, fun h => .inl (by rwa [hl] at h), fun h => by rwa [hl],
    fun h => by rwa [hr]⟩

theorem setMachine (w : World) (c : ContextId) (m : Guest.Machine) : w.Settles (w.setMachine c m) :=
  modifyContext_of_same w c _ fun _ => ⟨rfl, rfl, rfl⟩

theorem unregister (w : World) (c : ContextId) (h : Handle) : w.Settles (w.unregister c h).2 := by
  intro c'
  rw [context_unregister]
  split
  · next hc =>
    rw [hc.1]
    exact ⟨fun g hg => Registry.get?_remove _ g h hg, rfl, .inl, id, fun hs => hs.remove h⟩
  · exact .refl _

theorem unregisterAll (w : World) (c : ContextId) (hs : List Handle) : w.Settles (w.unregisterAll c hs) := by
  unfold World.unregisterAll
  induction hs generalizing w with
  | nil => exact .refl w
  | cons h hs ih => exact (unregister w c h).trans (ih _)

theorem endLeases (w : World) (c : ContextId) (places : List Nat) : w.Settles (w.endLeases c places) := by
  have hset := modifyContext_of_same w c (fun s => { s with leases := s.leases.filter (·.function ∉ places) })
    fun _ => ⟨rfl, rfl, rfl⟩
  exact hset.trans (unregisterAll _ c _)

end

theorem reap (w : World) (c : ContextId) : w.Settles (w.reap c) := by
  simp only [World.reap]
  split
  · exact .refl w
  · exact endLeases w c _

theorem collectIn (w : World) (c : ContextId) : w.Settles (w.collectIn c) := by
  simp only [World.collectIn]
  split
  · exact .refl w
  · exact endLeases w c _

theorem collect (w : World) (r : RuntimeId) : w.Settles (w.collect r) := by
  unfold World.collect
  generalize w.contextsOf r = cs
  induction cs generalizing w with
  | nil => exact .refl w
  | cons c cs ih => exact (collectIn w c).trans (ih _)

omit [Guest.Collector] in
theorem pin (w : World) (c : ContextId) (v : Guest.Value) : w.Settles (w.pin c v).2 :=
  modifyContext_of_same w c _ fun _ => ⟨rfl, rfl, rfl⟩

theorem forgetTexts (w : World) (c : ContextId) (n : Nat) : w.Settles (w.answer c (.forgetTexts n)).2 :=
  modifyContext_of_same w c _ fun _ => ⟨rfl, rfl, rfl⟩

theorem drop (w : World) (v : ValueRef) : w.Settles (w.drop v) := by
  have hset := modifyContext_of_same w v.context (fun s => { s with pins := s.pins.remove v.pin })
    fun _ => ⟨rfl, rfl, rfl⟩
  exact hset.trans (reap _ v.context)

theorem dropPending (w : World) (c : ContextId) : w.Settles (w.dropPending c) := by
  unfold World.dropPending
  split
  · have hset := modifyContext_of_same w c (fun s => { s with pending := none }) fun _ => ⟨rfl, rfl, rfl⟩
    exact hset.trans (drop _ _)
  · exact .refl w

section

omit [Guest.Collector]

theorem release (w : World) (c : ContextId) : w.Settles (w.release c) := by
  by_cases h : (w.context c).isReleased = true
  · rw [release_of_released h]
    exact .refl w
  · rw [release_of_open (Bool.eq_false_iff.mpr h)]
    have hset := modifyContext w c (fun s => { s with isReleased := true, registry := (w.context c).registry.clear.2 })
      ⟨fun g _ => Registry.get?_clear _ g, rfl, fun _ => .inr fun g => Registry.get?_clear _ g, fun _ => rfl, .clear⟩
    apply hset.trans
    apply of_contexts
    rw [contexts_report, contexts_closeContext, World.modifyContext, contexts_report, contexts_takeAll]
    rfl

theorem drain (w : World) (cs : List ContextId) : w.Settles (cs.foldl World.release w) := by
  induction cs generalizing w with
  | nil => exact .refl w
  | cons c cs ih => exact (release w c).trans (ih _)

theorem freeRuntime (w : World) (r : RuntimeId) : w.Settles (w.freeRuntime r) := by
  by_cases hfreed : (w.runtime r).freed = true
  · rw [freeRuntime_of_freed hfreed]
    exact .refl w
  · rw [freeRuntime_of_open (Bool.eq_false_iff.mpr hfreed)]
    have hdrain := (of_contexts (w.contexts_closeRuntime r)).trans (drain _ (w.runtime r).parked)
    dsimp only
    split
    · exact hdrain.trans (of_contexts (contexts_teardown _ r))
    · exact hdrain.trans (of_contexts rfl)

theorem dropRuntime (w : World) (r : RuntimeId) : w.Settles (w.dropRuntime r) := by
  simp only [World.dropRuntime]
  split
  · exact .refl w
  · split
    · exact freeRuntime w r
    · exact of_contexts rfl
    · exact of_contexts rfl

theorem addContext (w : World) (r : RuntimeId) : w.Settles (w.addContext r).2 := by
  intro c
  simp only [World.addContext, context_report, context_modifyRuntime]
  simp only [World.context, Array.getD_eq_getD_getElem?, Array.getElem?_push]
  split
  · next h =>
    rw [h, Array.getElem?_size]
    exact ⟨fun g _ => Registry.get?_ofLimit g _, rfl, fun h => (by cases h), fun h => (by cases h),
      fun _ => Registry.sound_ofLimit _⟩
  · exact .refl _

end

theorem dropContext (w : World) (c : ContextId) : w.Settles (w.dropContext c) := by
  rcases w.dropContext_cases c with ⟨h, -⟩ | ⟨h, -⟩ | ⟨h, -⟩
  · rw [h]
    exact dropPending w c
  · rw [h]
    exact (dropPending w c).trans (release _ c)
  · rw [h]
    exact (dropPending w c).trans (of_contexts rfl)

end Settles

end World

theorem Operation.settles (op : Operation) (w : World) : w.Settles (op.apply w) := by
  cases op with
  | newRuntime => exact .of_contexts rfl
  | dropRuntime r => exact .dropRuntime w r
  | freeRuntime r => exact .freeRuntime w r
  | collect r =>
    simp only [apply]
    split
    · exact .refl w
    · exact .collect w r
  | newContext r =>
    simp only [apply]
    split
    · exact .refl w
    · exact .addContext w r
  | dropContext c => exact .dropContext w c
  | freeContext c => exact (World.Settles.dropPending w c).trans (.release _ c)
  | dropPending c => exact .dropPending w c
  | keepPending c v => exact .modifyContext_of_same w c _ fun _ => ⟨rfl, rfl, rfl⟩
  | unregister c h => exact .unregister w c h
  | copy v => exact .pin w _ _
  | drop v => exact .drop w v
  | exposed => exact .of_contexts rfl

namespace World

variable (w : World) (c c' : ContextId) (h : Handle)

/-- A handle finds no function in a context. -/
def Lacks : Prop := (w.context c).registry.get? h = none

/-- How many calls through a handle are begun in a context. -/
def begunCalls : Nat := (w.context c).begun.countP fun call => call.handle = h

variable {w c c' h}

section

omit [Guest.Collector]

theorem Settles.lacks {w' : World} (hs : w.Settles w') (hg : w.Lacks c h) : w'.Lacks c h := (hs c).gone h hg

theorem Settles.begunCalls {w' : World} (hs : w.Settles w') : w'.begunCalls c h = w.begunCalls c h := by
  rw [World.begunCalls, (hs c).begun, World.begunCalls]

theorem lacks_unregister : (w.unregister c h).2.Lacks c h := by
  rw [Lacks, context_unregister]
  split
  · exact Registry.get?_remove_self _ h
  · next hc =>
    rw [context_of_le fun hi => hc ⟨rfl, hi⟩]
    exact Registry.get?_ofLimit h 1

theorem unregister_of_get? {f : HostFn} (hf : (w.context c).registry.get? h = some f) : (w.unregister c h).1 = true := by
  simp [unregister, Registry.remove, hf]

theorem lacks_setBegun (b : List PendingCall → List PendingCall) :
    (w.modifyContext c' fun s => { s with begun := b s.begun }).Lacks c h ↔ w.Lacks c h := by
  rw [Lacks, context_modifyContext, Lacks]
  split
  · next hc => rw [hc.1]
  · rfl

theorem begunCalls_setBegun (b : List PendingCall → List PendingCall)
    (hb : ((b (w.context c').begun).countP fun call => call.handle = h) ≤ w.begunCalls c' h) :
    (w.modifyContext c' fun s => { s with begun := b s.begun }).begunCalls c h ≤ w.begunCalls c h := by
  rw [begunCalls, context_modifyContext]
  split
  · next hc =>
    rw [hc.1]
    exact hb
  · exact Nat.le_refl _

end

theorem register_of_released {f : HostFn} (hr : (w.context c).isReleased = true) :
    w.register c f = (.error (.freed .context), w) := by
  simp [register, hr]

theorem lacks_register {f : HostFn} (hg : w.Lacks c h) (hne : ¬(c' = c ∧ (w.register c' f).1 = .ok h)) :
    (w.register c' f).2.Lacks c h := by
  have hreap := (Settles.reap w c').lacks hg
  simp only [register] at hne ⊢
  split
  · exact hg
  · next hr =>
    rw [if_neg hr] at hne
    split
    · next g r hins =>
      rw [Lacks, context_report, context_modifyContext]
      split
      · next hc =>
        obtain ⟨rfl, -⟩ := hc
        have hgh : g ≠ h := by
          rintro rfl
          rw [hins] at hne
          exact hne ⟨rfl, rfl⟩
        exact Registry.get?_insert hins hgh hreap
      · exact hreap
    · exact hreap

theorem begun_register {f : HostFn} : ((w.register c' f).2.context c).begun = (w.context c).begun := by
  have hreap := (Settles.reap w c' c).begun
  simp only [register]
  split
  · rfl
  · split
    · rw [context_report, context_modifyContext]
      split
      · next hc => rw [← hreap, hc.1]
      · exact hreap
    · exact hreap

theorem begun_answer (q : Guest.Query) (hknown : c.index < w.contexts.size) :
    ((w.answer c q).2.context c).begun = q.begunAfter (w.context c).begun (w.answer c q).1 := by
  cases q with
  | isReleased | unmapped | pinned | remembersTexts => rfl
  | register f => exact begun_register
  | pin v => exact (Settles.pin w c v c).begun
  | beginCall g =>
    simp only [answer, beginCall]
    split
    · rw [context_modifyContext_self _ hknown]
      rfl
    · rfl
  | dropCall call | forgetTexts n =>
    simp only [answer]
    rw [context_modifyContext_self _ hknown]
    rfl
  | report n => exact (Settles.reap w c c).begun

omit [Guest.Collector] in
theorem lacks_beginCall {h' : Handle} (hg : w.Lacks c h) : (w.beginCall c' h').2.Lacks c h := by
  unfold beginCall
  split
  · next f _ => exact (lacks_setBegun fun b => ⟨h', f⟩ :: b).mpr hg
  · exact hg

omit [Guest.Collector] in
theorem begunCalls_beginCall {h' : Handle} (hg : w.Lacks c h) : (w.beginCall c' h').2.begunCalls c h ≤ w.begunCalls c h := by
  unfold beginCall
  split
  · next f hf =>
    rw [begunCalls, context_modifyContext]
    split
    · next hc =>
      obtain ⟨rfl, -⟩ := hc
      have hne : h' ≠ h := by
        rintro rfl
        rw [Lacks, hf] at hg
        cases hg
      simp [begunCalls, hne]
    · exact Nat.le_refl _
  · exact Nat.le_refl _

theorem lacks_makeCall (call : PendingCall) (hg : w.Lacks c h) : (w.makeCall c' call).Lacks c h :=
  (lacks_setBegun fun b => b.erase call).mpr ((Settles.reap w c').lacks hg)

theorem begunCalls_makeCall {call : PendingCall} (hmem : call ∈ (w.context c').begun) (hknown : c'.index < w.contexts.size) :
    (if c' = c ∧ call.handle = h then 1 else 0) + (w.makeCall c' call).begunCalls c h ≤ w.begunCalls c h := by
  by_cases hc : c' = c
  · subst hc
    have hperm := List.perm_cons_erase hmem
    rw [begunCalls, context_makeCall_self call hknown, begunCalls, hperm.countP_eq, List.countP_cons]
    simp [Nat.add_comm]
  · rw [begunCalls, context_makeCall_of_ne call (Ne.symm hc)]
    simp [hc, begunCalls]

theorem leave_begun (c' : ContextId) (hg : w.Lacks c h) : (w.leave c').Lacks c h ∧ (w.leave c').begunCalls c h ≤ w.begunCalls c h := by
  have hrest : (w.modifyContext c' fun s => { s with machine := s.machine.atRest, begun := [] }).Lacks c h ∧
      (w.modifyContext c' fun s => { s with machine := s.machine.atRest, begun := [] }).begunCalls c h ≤
        w.begunCalls c h := by
    rw [Lacks, begunCalls, context_modifyContext]
    split
    · next hc =>
      rw [← hc.1]
      exact ⟨hg, Nat.zero_le _⟩
    · exact ⟨hg, Nat.le_refl _⟩
  have hleave : (w.modifyContext c' fun s => { s with machine := s.machine.atRest, begun := [] }).Settles (w.leave c') :=
    (Settles.reap _ c').trans (.of_contexts rfl)
  exact ⟨hleave.lacks hrest.1, Nat.le_trans (Nat.le_of_eq hleave.begunCalls) hrest.2⟩

end World

namespace Move

/-- Whether a move gives out a handle of a context. -/
def Issues (c : ContextId) (h : Handle) : Move → Prop
  | .answer c' (.register _) given => c' = c ∧ given = .ok h
  | _ => False

/-- Whether a move enters a function through a handle of a context. -/
def enters (c : ContextId) (h : Handle) : Move → Bool
  | .call c' begun _ => c' = c ∧ begun.handle = h
  | _ => false

end Move

namespace Step

variable {p q : Position} {m : Move} {c : ContextId} {h : Handle} (hstep : Step p m q)
include hstep

theorem lacks (hissue : ¬m.Issues c h) (hg : p.world.Lacks c h) : q.world.Lacks c h := by
  have hanswer {w : World} {c' : ContextId} {m : Guest.Machine} {q : Guest.Query} (hg : w.Lacks c h)
      (hissue : ¬ (Move.answer c' q ((w.setMachine c' m).answer c' q).1).Issues c h) :
      ((w.setMachine c' m).answer c' q).2.Lacks c h := by
    have hg' := (World.Settles.setMachine w c' m).lacks hg
    generalize w.setMachine c' m = w' at *
    cases q with
    | isReleased | unmapped | pinned | remembersTexts => exact hg'
    | register f => exact World.lacks_register hg' hissue
    | pin v => exact (World.Settles.pin w' c' v).lacks hg'
    | beginCall g => exact World.lacks_beginCall hg'
    | dropCall call => exact (World.lacks_setBegun fun b => b.erase call).mpr hg'
    | forgetTexts n => exact (World.Settles.forgetTexts w' c' n).lacks hg'
    | report n => exact (World.Settles.reap w' c').lacks hg'
  cases hstep with
  | operate op => exact (Operation.settles op p.world).lacks hg
  | enter | reply | dropped => exact hg
  | answer | refuse => exact hanswer hg hissue
  | free => exact (World.Settles.reap _ _).lacks ((World.Settles.setMachine _ _ _).lacks hg)
  | @call w held work c' α call args m resume => exact World.lacks_makeCall call ((World.Settles.setMachine w c' m).lacks hg)
  | @leave w held work c' α run m hend => exact (World.leave_begun c' ((World.Settles.setMachine w c' m).lacks hg)).1

theorem released (hr : (p.world.context c).isReleased = true) : (q.world.context c).isReleased = true := by
  have hlife {w' : World} (hlife : w'.life = p.world.life) : (w'.context c).isReleased = true := by
    rwa [World.isReleased_of_life hlife]
  cases hstep with
  | operate => exact (Operation.settles _ _ c).stays hr
  | enter | reply | dropped => exact hr
  | answer => exact hlife (World.life_asked _ _ _ _)
  | free => exact hlife (World.life_freed _ _ _)
  | refuse => exact hlife (World.life_refused _ _ _ _)
  | call => exact hlife (World.life_called _ _ _ _)
  | leave =>
    rw [World.isReleased_of_life (World.life_leave _ _), World.context_modifyRuntime]
    exact hlife (World.life_setMachine _ _ _)

theorem open_before (hopen : (q.world.context c).isReleased = false) : (p.world.context c).isReleased = false := by
  by_contra hr
  rw [hstep.released (Bool.not_eq_false _ ▸ hr)] at hopen
  cases hopen

theorem not_issues_of_released (hr : (p.world.context c).isReleased = true) : ¬m.Issues c h := by
  cases hstep with
  | @answer w held work c' α q m resume | @refuse w held work c' α q m resume =>
    cases q with
    | register f =>
      rintro ⟨rfl, hok⟩
      have hr' : ((w.setMachine c' m).context c').isReleased = true := by
        rwa [World.isReleased_of_life (w.life_setMachine c' m)]
      rw [World.answer, World.register_of_released hr'] at hok
      cases hok
    | _ => exact id
  | _ => exact id

theorem sealed (hp : ∀ c, (p.world.context c).isReleased = true → ∀ h, p.world.Lacks c h) :
    ∀ c, (q.world.context c).isReleased = true → ∀ h, q.world.Lacks c h := by
  intro c hr h
  by_cases hbefore : (p.world.context c).isReleased = true
  · exact hstep.lacks (hstep.not_issues_of_released hbefore) (hp c hbefore h)
  · have hlife {w' : World} (hlife : w'.life = p.world.life) (hr : (w'.context c).isReleased = true) :
        w'.Lacks c h := by
      rw [World.isReleased_of_life hlife] at hr
      exact absurd hr hbefore
    cases hstep with
    | operate =>
      rcases (Operation.settles _ _ c).released hr with hr | hnone
      · exact absurd hr hbefore
      · exact hnone h
    | enter | reply | dropped => exact absurd hr hbefore
    | answer => exact hlife (World.life_asked _ _ _ _) hr
    | free => exact hlife (World.life_freed _ _ _) hr
    | refuse => exact hlife (World.life_refused _ _ _ _) hr
    | call => exact hlife (World.life_called _ _ _ _) hr
    | leave =>
      rw [World.isReleased_of_life (World.life_leave _ _), World.context_modifyRuntime,
        World.isReleased_of_life (World.life_setMachine _ _ _)] at hr
      exact absurd hr hbefore

end Step

theorem Position.Reachable.sealed {p : Position} (hp : p.Reachable) {c : ContextId}
    (hr : (p.world.context c).isReleased = true) (h : Handle) : p.world.Lacks c h := by
  obtain ⟨ms, hplay⟩ := hp
  refine hplay.keeps (P := fun p => ∀ c, (p.world.context c).isReleased = true → ∀ h, p.world.Lacks c h)
    (fun hstep => hstep.sealed) ?_ c hr h
  exact fun c hr => absurd hr (Bool.noConfusion : ¬false = true)

def Activity.Makes (w : World) : Activity → Prop
  | running c run => run.Makes (w.context c).begun
  | waiting c resume => ∀ r, (resume r).Makes (w.context c).begun
  | dropping c rest => rest.Makes (w.context c).begun

omit [Guest.Collector] in
theorem Activity.Makes.of_begun {w w' : World} {a : Activity} (h : a.Makes w)
    (hbegun : (w'.context a.context).begun = (w.context a.context).begun) : a.Makes w' := by
  cases a with
  | running c run =>
    rw [Makes, show (w'.context c).begun = _ from hbegun]
    exact h
  | waiting c resume =>
    rw [Makes, show (w'.context c).begun = _ from hbegun]
    exact h
  | dropping c rest =>
    rw [Makes, show (w'.context c).begun = _ from hbegun]
    exact h

theorem Step.makes {p q : Position} {m : Move} (hstep : Step p m q) (hseated : Seated p.world (p.work.map Activity.context))
    (hp : ∀ a ∈ p.work, a.Makes p.world) : ∀ a ∈ q.work, a.Makes q.world := by
  have hothers {w : World} {a b : Activity} {work : List Activity} (hwork : p.work = a :: work)
      (hcontext : b.context = a.context) (hhere : b.Makes w)
      (hthere : ∀ c ≠ b.context, (w.context c).begun = (p.world.context c).begun) : ∀ a ∈ b :: work, a.Makes w := by
    rw [hwork] at hp hseated
    intro a' ha'
    rcases List.mem_cons.mp ha' with rfl | ha'
    · exact hhere
    · exact (hp a' (List.mem_cons_of_mem _ ha')).of_begun (hthere _ (hcontext ▸ hseated.others a' ha'))
  have hanswer {w : World} {c c' : ContextId} {m : Guest.Machine} (q : Guest.Query) (hc : c' ≠ c) :
      (((w.setMachine c m).answer c q).2.context c').begun = (w.context c').begun := by
    rw [World.context_answer_of_ne q hc, World.context_setMachine_of_ne hc]
  have hasked {w : World} {c : ContextId} {m : Guest.Machine} (q : Guest.Query) (hknown : c.index < w.contexts.size) :
      (((w.setMachine c m).answer c q).2.context c).begun =
        q.begunAfter (w.context c).begun ((w.setMachine c m).answer c q).1 := by
    rw [World.begun_answer q (by rwa [World.size_contexts_setMachine]), World.context_setMachine_self m hknown]
  cases hstep with
  | operate op => exact fun a ha => (hp a ha).of_begun (Operation.settles op p.world a.context).begun
  | @enter _ c α x =>
    intro a ha
    rcases List.mem_cons.mp ha with rfl | ha
    · exact ((x.caught.run Guest.Engine.standard).makes _).mono fun _ => Nat.zero_le _
    · exact hp a ha
  | @answer w held work c α q m resume =>
    have hrun : (Guest.Run.ask q m resume).Makes (w.context c).begun := hp _ List.mem_cons_self
    refine hothers rfl rfl ?_ fun _ hc => hanswer q hc
    rw [Activity.Makes, hasked q (hseated.known c List.mem_cons_self)]
    exact hrun.2 _
  | @free w held work c α q m resume =>
    have hrun : (Guest.Run.ask q m resume).Makes (w.context c).begun := hp _ List.mem_cons_self
    have hbegun (c' : ContextId) : (((w.setMachine c m).reap c).context c').begun = (w.context c').begun :=
      ((World.Settles.reap _ c c').begun).trans
        (World.Settles.setMachine w c m c').begun
    exact hothers rfl rfl (by rwa [Activity.Makes, hbegun]) fun c' _ => hbegun c'
  | @refuse w held work c α q m resume =>
    have hrun : (Guest.Run.ask q m resume).Makes (w.context c).begun := hp _ List.mem_cons_self
    refine hothers rfl rfl ?_ fun c' hc => hanswer q hc
    show Guest.Run.Makes (((w.setMachine c m).answer c q).2.context c).begun _
    rw [hasked q (hseated.known c List.mem_cons_self)]
    exact hrun.2 _
  | @call w held work c α call args m resume =>
    have hrun : (Guest.Run.call call args m resume).Makes (w.context c).begun := hp _ List.mem_cons_self
    have hknown := hseated.known c List.mem_cons_self
    refine hothers rfl rfl (fun r => ?_) fun c' hc => ?_
    · rw [World.context_makeCall_self call (by rwa [World.size_contexts_setMachine]),
        World.context_setMachine_self m hknown]
      exact hrun.2 r
    · have hc : c' ≠ c := hc
      exact congrArg ContextState.begun ((World.context_makeCall_of_ne call hc).trans (World.context_setMachine_of_ne hc))
  | @reply w held work c α resume r =>
    have hrun : ∀ r, (resume r).Makes (w.context c).begun := hp _ List.mem_cons_self
    exact hothers rfl rfl (hrun r) fun _ _ => rfl
  | @dropped w held work c α rest =>
    have hrest : rest.Makes (w.context c).begun := hp _ List.mem_cons_self
    exact hothers rfl rfl hrest fun _ _ => rfl
  | @leave w held work c α run m =>
    intro a ha
    have hc : a.context ≠ c := hseated.others a ha
    refine (hp a (List.mem_cons_of_mem _ ha)).of_begun ?_
    rw [World.context_leave_of_ne hc, World.context_setMachine_of_ne hc]

theorem Position.Reachable.makes {p : Position} (hp : p.Reachable) : ∀ a ∈ p.work, a.Makes p.world := by
  obtain ⟨ms, hplay⟩ := hp
  refine hplay.induction (P := fun _ p => ∀ a ∈ p.work, a.Makes p.world) ?_ nofun
  exact fun hplay hstep ih => hstep.makes (Position.Reachable.seated ⟨_, hplay⟩) ih

theorem Step.begunCalls_le {p q : Position} {m : Move} {c : ContextId} {h : Handle} (hstep : Step p m q)
    (hp : p.Reachable) (hg : p.world.Lacks c h) :
    (if m.enters c h then 1 else 0) + q.world.begunCalls c h ≤ p.world.begunCalls c h := by
  have hanswer {w : World} {c' : ContextId} {m : Guest.Machine} {q : Guest.Query} (hg : w.Lacks c h) :
      ((w.setMachine c' m).answer c' q).2.begunCalls c h ≤ w.begunCalls c h := by
    have hg' := (World.Settles.setMachine w c' m).lacks hg
    rw [← (World.Settles.setMachine w c' m).begunCalls]
    generalize w.setMachine c' m = w' at *
    cases q with
    | isReleased | unmapped | pinned | remembersTexts => exact Nat.le_refl _
    | register f => exact Nat.le_of_eq (by simp only [World.begunCalls, World.answer, World.begun_register])
    | pin v => exact Nat.le_of_eq (World.Settles.pin w' c' v).begunCalls
    | beginCall g => exact World.begunCalls_beginCall hg'
    | dropCall call => exact World.begunCalls_setBegun (fun b => b.erase call) List.erase_sublist.countP_le
    | forgetTexts n => exact Nat.le_of_eq (World.Settles.forgetTexts w' c' n).begunCalls
    | report n => exact Nat.le_of_eq (World.Settles.reap w' c').begunCalls
  have hmakes := hp.makes
  have hseated := hp.seated
  cases hstep with
  | operate op =>
    rw [Position.operate, (Operation.settles op p.world).begunCalls]
    simp [Move.enters]
  | enter => simp [Move.enters, World.begunCalls, World.enter]
  | answer => simpa [Move.enters] using hanswer hg
  | @free w held work c' α q m resume =>
    rw [(World.Settles.reap _ _).begunCalls, (World.Settles.setMachine w c' m).begunCalls]
    simp [Move.enters]
  | refuse =>
    simp only [Move.enters, Bool.false_eq_true, if_false, Nat.zero_add]
    exact hanswer hg
  | @call w held work c' α call args m resume =>
    have hrun : (Guest.Run.call call args m resume).Makes (w.context c').begun := hmakes _ List.mem_cons_self
    have hknown := hseated.known c' List.mem_cons_self
    rw [← (World.Settles.setMachine w c' m).begunCalls]
    have hbegun : call ∈ ((w.setMachine c' m).context c').begun := by
      rw [World.context_setMachine_self m hknown]
      exact hrun.1
    simpa [Move.enters] using World.begunCalls_makeCall (c := c) (h := h) hbegun (by rwa [World.size_contexts_setMachine])
  | reply => simp [Move.enters]
  | @dropped w held work c' α rest =>
    simp only [Move.enters, Bool.false_eq_true, if_false, Nat.zero_add]
    exact Nat.le_refl (w.begunCalls c h)
  | @leave w held work c' α run m hend =>
    have hbegun := (World.leave_begun c' ((World.Settles.setMachine w c' m).lacks hg)).2
    rw [(World.Settles.setMachine w c' m).begunCalls] at hbegun
    simpa [Move.enters] using hbegun

namespace Play

variable {p q : Position} {ms : List (Position × Move)} {c : ContextId} {h : Handle}

/-- How often a play enters a function through a handle. -/
def entries (c : ContextId) (h : Handle) (ms : List (Position × Move)) : Nat := ms.countP fun pm => pm.2.enters c h

theorem lacks (hplay : Play p ms q) (hissue : ∀ pm ∈ ms, ¬pm.2.Issues c h) (hg : p.world.Lacks c h) : q.world.Lacks c h := by
  induction hplay with
  | nil => exact hg
  | cons hstep _ ih =>
    exact ih (fun pm hpm => hissue pm (List.mem_cons_of_mem _ hpm)) (hstep.lacks (hissue _ List.mem_cons_self) hg)

theorem entries_le (hplay : Play p ms q) (hp : p.Reachable) (hissue : ∀ pm ∈ ms, ¬pm.2.Issues c h)
    (hg : p.world.Lacks c h) : entries c h ms + q.world.begunCalls c h ≤ p.world.begunCalls c h := by
  induction hplay with
  | nil => simp [entries]
  | @cons p p' q m ms hstep _ ih =>
    have hbegun := hstep.begunCalls_le hp hg
    have hrest := ih (hp.append (.one hstep)) (fun pm hpm => hissue pm (List.mem_cons_of_mem _ hpm))
      (hstep.lacks (hissue _ List.mem_cons_self) hg)
    rw [entries] at hrest
    rw [entries, List.countP_cons]
    dsimp only
    omega

theorem not_issues_of_released (hplay : Play p ms q) (hr : (p.world.context c).isReleased = true) :
    ∀ pm ∈ ms, ¬pm.2.Issues c h := by
  induction hplay with
  | nil => exact fun _ hpm => absurd hpm List.not_mem_nil
  | cons hstep _ ih =>
    intro pm hpm
    rcases List.mem_cons.mp hpm with rfl | hpm
    · exact hstep.not_issues_of_released hr
    · exact ih (hstep.released hr) pm hpm

end Play

/-- After a function has been removed, or its context released, only those of its calls are still made that were
begun before: that had found the function and were converting their arguments. -/
theorem removed_function_only_begun_calls {p q : Position} {ms : List (Position × Move)} {c : ContextId} {h : Handle}
    (hp : p.Reachable) (hplay : Play p ms q)
    (hremoved : (p.world.context c).isReleased = true ∨
      (∃ w : World, (w.unregister c h).1 = true ∧ (w.unregister c h).2 = p.world) ∧ ∀ pm ∈ ms, ¬pm.2.Issues c h) :
    Play.entries c h ms + q.world.begunCalls c h ≤ p.world.begunCalls c h := by
  rcases hremoved with hr | ⟨⟨w, -, hw⟩, hissue⟩
  · exact hplay.entries_le hp (hplay.not_issues_of_released hr) (hp.sealed hr h)
  · have hlacks : p.world.Lacks c h := by
      have hgone := World.lacks_unregister (w := w) (c := c) (h := h)
      rwa [hw] at hgone
    exact hplay.entries_le hp hissue hlacks

end

/-- The host removes the function in the inner call; the outer call has been begun, and is made. -/
theorem removed_function_only_begun_calls_callWithinCall :
    ∃ (p q : Position) (ms : List (Position × Move)), p.Reachable ∧ Play p ms q ∧
      (∃ w : World, (w.unregister ⟨0⟩ ⟨0, 0⟩).1 = true ∧ (w.unregister ⟨0⟩ ⟨0, 0⟩).2 = p.world) ∧ Play.entries ⟨0⟩ ⟨0, 0⟩ ms = 1 ∧
      Play.entries ⟨0⟩ ⟨0, 0⟩ ms + q.world.begunCalls ⟨0⟩ ⟨0, 0⟩ ≤ p.world.begunCalls ⟨0⟩ ⟨0, 0⟩ := by
  have hopen := Play.operates [.newRuntime {}, .newContext ⟨0⟩] (p := {}) trivial rfl
  obtain ⟨ms, w, m, hcalling, -, -, -, -, hcontext⟩ := Play.exists_calling_new (n := 4096) (c := ⟨0⟩)
    (p := List.foldl Position.operate {} [.newRuntime {}, .newContext ⟨0⟩]) trivial (by decide) rfl rfl rfl rfl ⟨0⟩
  have hfound : (w.unregister ⟨0⟩ ⟨0, 0⟩).1 = true := World.unregister_of_get? (f := ⟨0⟩) (by
    rw [hcontext, Registry.get?_occupy (Nat.zero_le _) rfl, Registry.generationAt_ofLimit, if_pos rfl])
  have hremoved := (hopen.append hcalling).append (.one (.operate (.unregister ⟨0⟩ ⟨0, 0⟩) trivial rfl))
  have hreply : Step ⟨(w.unregister ⟨0⟩ ⟨0, 0⟩).2, [⟨0⟩], [.waiting ⟨0⟩ fun _ => .call ⟨⟨0, 0⟩, ⟨0⟩⟩ [] m.mended fun _ =>
      .done (Except.ok () : Except Error Unit) m.mended]⟩ (.reply ⟨0⟩ (.ok .null)) _ := .reply _
  have houter := Play.cons hreply (.one .call)
  exact ⟨_, _, _, ⟨_, hremoved⟩, houter, ⟨_, hfound, rfl⟩, rfl,
    removed_function_only_begun_calls ⟨_, hremoved⟩ houter (.inr ⟨⟨_, hfound, rfl⟩, by simp [Move.Issues]⟩)⟩

end Embedding
