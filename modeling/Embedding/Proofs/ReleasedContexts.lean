import Embedding.Proofs.Identity
import Embedding.Proofs.Panics

namespace Embedding

namespace World

variable {w : World} {c c' : ContextId}

theorem sound_setBegun (b : List PendingCall → List PendingCall) (h : (w.context c).registry.Sound) :
    ((w.modifyContext c' fun s => { s with begun := b s.begun }).context c).registry.Sound := by
  rw [context_modifyContext]
  split
  · next hc => exact hc.1 ▸ h
  · exact h

theorem sound_register (f : HostFn) (h : (w.context c).registry.Sound) : ((w.register c' f).2.context c).registry.Sound := by
  have hreap := (Settles.reap w c' c).sound h
  simp only [register]
  split
  · exact h
  · rcases hinsert : ((w.reap c').context c').registry.insert f with e | ⟨g, r⟩
    · exact hreap
    · rw [context_report, context_modifyContext]
      split
      · next hc =>
        rw [hc.1] at hreap
        rcases hreap.insert f with ⟨-, i, hsize, hlimit, hfree, hok⟩ | ⟨-, herror⟩
        · rw [hok] at hinsert
          cases hinsert
          exact hreap.occupy hsize hlimit hfree f
        · rw [herror] at hinsert
          cases hinsert
      · exact hreap

theorem sound_answer (q : Guest.Query) (h : (w.context c).registry.Sound) :
    ((w.answer c' q).2.context c).registry.Sound := by
  cases q with
  | isReleased | unmapped | pinned | remembersTexts => exact h
  | register f => exact sound_register f h
  | pin v => exact (Settles.pin w c' v c).sound h
  | beginCall g =>
    simp only [answer, beginCall]
    split
    · next f _ => exact sound_setBegun (⟨g, f⟩ :: ·) h
    · exact h
  | dropCall call => exact sound_setBegun (fun b => b.erase call) h
  | forgetTexts n =>
    have hforget : w.Settles (w.answer c' (.forgetTexts n)).2 := .modifyContext_of_same w c' _ fun _ => ⟨rfl, rfl, rfl⟩
    exact (hforget c).sound h
  | report n => exact (Settles.reap w c' c).sound h

theorem sound_makeCall (call : PendingCall) (h : (w.context c).registry.Sound) :
    ((w.makeCall c' call).context c).registry.Sound :=
  sound_setBegun (fun b => b.erase call) ((Settles.reap w c' c).sound h)

theorem sound_leave (h : (w.context c).registry.Sound) : ((w.leave c').context c).registry.Sound := by
  rw [leave, context_modifyRuntime]
  apply (Settles.reap _ c' c).sound
  rw [context_modifyContext]
  split
  · next hc => exact hc.1 ▸ h
  · exact h

end World

theorem Step.sound {p q : Position} {m : Move} {c : ContextId} (hstep : Step p m q)
    (h : (p.world.context c).registry.Sound) : (q.world.context c).registry.Sound := by
  have hset (c' : ContextId) (m : Guest.Machine) : ((p.world.setMachine c' m).context c).registry.Sound := by
    have hsettles : p.world.Settles (p.world.setMachine c' m) := .modifyContext_of_same _ c' _ fun _ => ⟨rfl, rfl, rfl⟩
    exact (hsettles c).sound h
  cases hstep with
  | operate op => exact (Operation.settles op p.world c).sound h
  | enter | reply | dropped => exact h
  | answer | refuse => exact World.sound_answer _ (hset _ _)
  | free => exact (World.Settles.reap _ _ c).sound (hset _ _)
  | call => exact World.sound_makeCall _ (hset _ _)
  | leave => exact World.sound_leave (hset _ _)

theorem Position.Reachable.sound {p : Position} (hp : p.Reachable) (c : ContextId) :
    (p.world.context c).registry.Sound := by
  obtain ⟨ms, hplay⟩ := hp
  exact hplay.keeps (P := fun p => (p.world.context c).registry.Sound) (fun hstep => hstep.sound)
    (Registry.sound_ofLimit 1)

/-- A context that can do nothing any more. -/
structure Inert (p : Position) (c : ContextId) : Prop where
  vacant : ContextId.callbackCount (p.world.context c) = 0 ∧ (p.world.context c).registry.entries = []
  unregister : ∀ h, p.world.unregister c h = (false, p.world)
  /-- Whatever is done with the context or with one of its values fails because it has been released, also while the
  engine is running. -/
  context : ∀ {σ : Type} (handler : Handler σ) (s : σ), c.Fails handler p.world s (.freed .context)
  values : ∀ {σ : Type} (handler : Handler σ) (s : σ) (v : ValueRef), v.context = c →
    v.Fails handler p.world s (.freed .context)
  release : p.world.release c = p.world
  /-- To free or to drop it lets go of the result of an evaluation, if there is one, and does nothing else. -/
  free : p.world.freeContext c = p.world.dropPending c
  drop : p.world.dropContext c = p.world.dropPending c
  /-- It is in no runtime among those that are released with it. -/
  parked : ∀ r, c ∉ (p.world.runtime r).parked
  pending : (p.world.dropPending c).life = p.world.life ∧
    ((p.world.context c).pending = none → p.world.dropPending c = p.world)
  letGo : ∀ v : ValueRef, v.context = c → (p.world.drop v).life = p.world.life

theorem Play.released {p q : Position} {ms : List (Position × Move)} {c : ContextId} (hplay : Play p ms q)
    (hr : (p.world.context c).isReleased = true) : (q.world.context c).isReleased = true :=
  hplay.keeps (P := fun p => (p.world.context c).isReleased = true) (fun hstep => hstep.released) hr

/-- From the moment that a context has been released it is inert, whatever happens then. -/
theorem Position.Reachable.inert {p q : Position} {ms : List (Position × Move)} {c : ContextId} (hp : p.Reachable)
    (hr : (p.world.context c).isReleased = true) (hplay : Play p ms q) : Inert q c := by
  have hq := hp.append hplay
  have hr' := hplay.released hr
  have hlacks := hq.sealed hr'
  have hobstacle : q.world.contextObstacle? c = some (.freed .context) := by
    rw [World.contextObstacle?, if_pos hr']
  have hpending := q.world.life_dropPending c
  have hdropped : ((q.world.dropPending c).context c).isReleased = true := by
    rw [World.isReleased_of_life hpending]
    exact hr'
  constructor
  case vacant => exact (hq.sound c).vacant hlacks
  case unregister =>
    intro h
    rw [World.unregister_of_lacks (hlacks h), World.useRegistry]
    split
    · next hlent => rw [← hq.lent.isOpen c hlent hr']
    · rfl
  case context => exact fun handler s => ContextId.fails hobstacle
  case values => exact fun handler s v hv => ValueRef.fails (hv ▸ hobstacle)
  case release => exact World.release_of_released hr'
  case free => exact World.release_of_released hdropped
  case drop => rw [World.dropContext, if_pos hdropped]
  case parked =>
    intro r hparked
    have hopen := ((q.world.mem_openContextsOf r c).mp (hq.books.parked_open r c hparked).1).2.2
    rw [hr'] at hopen
    cases hopen
  case pending => exact ⟨hpending, fun hnone => by rw [World.dropPending, hnone]⟩
  case letGo => exact fun v _ => q.world.life_drop v

theorem World.isReleased_release {w : World} {c : ContextId} (hc : c.index < w.contexts.size) :
    ((w.release c).context c).isReleased = true := by
  cases hr : (w.context c).isReleased with
  | true => rw [release_of_released hr, hr]
  | false => rw [context_release _ hr, if_pos ⟨rfl, hc⟩]

/-- Guest code of a context waits for the host, and the host frees the context. -/
theorem inert_freedWithinCall : ∃ (p q : Position) (ms : List (Position × Move)) (c : ContextId), p.Reachable ∧
    (p.world.context c).isReleased = true ∧ Play p ms q ∧ (∃ a ∈ q.work, a.context = c) ∧
    (q.world.runtimeOf c).entered = true ∧ Inert q c := by
  have hopen := Play.operates [.newRuntime {}, .newContext ⟨0⟩] (p := {}) trivial rfl
  obtain ⟨ms, w, m, hcall, -, hlife, -⟩ := Play.exists_calling_new (n := 4096) (c := ⟨0⟩)
    (p := List.foldl Position.operate {} [.newRuntime {}, .newContext ⟨0⟩]) trivial (by decide) rfl rfl rfl rfl ⟨7⟩
  have hknown : 0 < w.contexts.size := by
    rw [World.size_contexts_of_life hlife]
    decide
  generalize hq : Position.mk w _ _ = q at hcall
  have hwork : ∃ a ∈ q.work, a.context = ⟨0⟩ := by
    subst hq
    exact ⟨_, List.mem_cons_self, rfl⟩
  have hfree : Step q (.operate (.freeContext ⟨0⟩)) (q.operate (.freeContext ⟨0⟩)) := by
    subst hq
    exact .operate _ trivial rfl
  have hreleased : ((q.operate (.freeContext ⟨0⟩)).world.context ⟨0⟩).isReleased = true := by
    subst hq
    apply World.isReleased_release
    rwa [World.size_contexts_of_life (w.life_dropPending ⟨0⟩)]
  have hreachable : (q.operate (.freeContext ⟨0⟩)).Reachable := ⟨_, (hopen.append hcall).append (.one hfree)⟩
  obtain ⟨a, ha, hac⟩ := hwork
  refine ⟨_, _, [], ⟨0⟩, hreachable, hreleased, .nil, ⟨a, ha, hac⟩, ?_, hreachable.inert hreleased .nil⟩
  exact (hreachable.seated.entered _).mpr ⟨⟨0⟩, List.mem_map.mpr ⟨a, ha, hac⟩, rfl⟩

end Embedding
