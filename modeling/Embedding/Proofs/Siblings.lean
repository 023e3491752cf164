import Embedding.Proofs.ShortMemory

namespace Embedding

namespace Registry

theorem Prunes.ne_of_isFree {r r' : Registry} (hprunes : r.Prunes r') {i : Nat} (hfree : r'.isFree i = true) {h : Handle}
    {f : HostFn} (hf : r.get? h = some f) : (⟨i, r'.generationAt i⟩ : Handle) ≠ h := by
  rintro rfl
  rw [get?_eq_some] at hf
  rcases hprunes.slots i with hsame | ⟨s, hs, -, hnext⟩
  · rw [isFree_eq_false.mpr ⟨_, f, hsame.trans hf⟩] at hfree
    cases hfree
  · obtain rfl : (⟨r'.generationAt i, some f⟩ : Slot) = s := Option.some.inj (hf.symm.trans hs)
    have hnew : r'.generationAt i = r'.generationAt i + 1 := by
      conv_lhs => rw [generationAt, hnext]
      rfl
    simp at hnew

end Registry

theorem World.register_apart {w : World} {c : ContextId} {f : HostFn} {h' : Handle} (hknown : c.index < w.contexts.size)
    (hsound : (w.context c).registry.Sound) (hok : (w.register c f).1 = .ok h') :
    ((w.register c f).2.context c).registry.get? h' = some f ∧
      ∀ h g, (w.context c).registry.get? h = some g → h' ≠ h := by
  have hopen : (w.context c).isReleased = false := by
    by_contra hr
    rw [register, if_pos (Bool.not_eq_false _ ▸ hr)] at hok
    cases hok
  rcases context_register_self f hknown hopen (ContextState.sound_reaped _ hsound) with
    ⟨-, i, hi, -, hfree, hhandle, hcontext⟩ | ⟨-, herror, -⟩
  · rw [hhandle] at hok
    cases hok
    refine ⟨?_, fun h g hg => (ContextState.prunes_reaped _).ne_of_isFree hfree hg⟩
    rw [hcontext, Registry.get?_occupy hi hfree, if_pos rfl]
  · rw [herror] at hok
    cases hok

/-- What a function of the host gets that is exposed once more, in the same context or in another: an entry of its own. -/
structure EntersApart (p q : Position) (c' : ContextId) (h' : Handle) (f : HostFn) (c : ContextId) (h : Handle) : Prop where
  entry : (q.world.context c').registry.get? h' = some f
  ne : (c', h') ≠ (c, h)
  stays : c' ≠ c → (q.world.context c).registry.get? h = (p.world.context c).registry.get? h
  unregister : ((q.world.unregister c' h').2.context c).registry.get? h = (q.world.context c).registry.get? h
  unregister' : ((q.world.unregister c h).2.context c').registry.get? h' = some f

theorem Step.entersApart {p q : Position} {c c' : ContextId} {f g : HostFn} {h h' : Handle}
    (hstep : Step p (.answer c' (.register f) (.ok h')) q) (hp : p.Reachable)
    (hg : (p.world.context c).registry.get? h = some g) : EntersApart p q c' h' f c h := by
  generalize hm : Move.answer c' (.register f) (.ok h') = m at hstep
  cases hstep with
  | @answer w held work _ α _ m resume =>
    rw [Move.answer.injEq] at hm
    obtain ⟨rfl, rfl, hreply⟩ := hm
    have hok : ((w.setMachine c' m).register c' f).1 = .ok h' := (eq_of_heq hreply).symm
    have hset : ((w.setMachine c' m).context c').registry = (w.context c').registry := by
      rw [World.setMachine, World.context_modifyContext]
      split <;> rfl
    have hsound : ((w.setMachine c' m).context c').registry.Sound := hset ▸ hp.sound c'
    have hknown : c'.index < (w.setMachine c' m).contexts.size := by
      rw [World.size_contexts_setMachine]
      exact hp.seated.known c' List.mem_cons_self
    obtain ⟨hentry, hnew⟩ := World.register_apart hknown hsound hok
    have hne : (c', h') ≠ (c, h) := by
      rintro heq
      cases heq
      exact hnew _ g (hset ▸ hg) rfl
    exact ⟨hentry, hne, fun hc => congrArg (·.registry.get? h)
      ((World.context_answer_of_ne _ (Ne.symm hc)).trans (World.context_setMachine_of_ne (Ne.symm hc))),
      World.get?_unregister (Ne.symm hne), (World.get?_unregister hne).trans hentry⟩
  | refuse hrefused =>
    rw [Move.answer.injEq] at hm
    obtain ⟨rfl, rfl, hreply⟩ := hm
    rw [← eq_of_heq hreply] at hrefused
    cases hrefused
  | _ => cases hm

/-- What comes out of work is a value of the context. -/
def Attempt.Yields {σ : Type} (handler : Handler σ) (w : World) (s : σ) (c : ContextId) (x : Attempt σ ValueRef) : Prop :=
  ∀ v, x.result handler w s = .ok v → v.context = c

/-- All values that the host gets out of a context are values of the context. -/
structure ContextId.YieldsOwn {σ : Type} (handler : Handler σ) (w : World) (s : σ) (c : ContextId) : Prop where
  evaluate : ∀ source, Attempt.Yields handler w s c (c.evaluate source)
  evaluateBinary : ∀ b, Attempt.Yields handler w s c (c.evaluateBinary b)
  globalObject : Attempt.Yields handler w s c c.globalObject
  register : ∀ f r, (c.register f).result handler w s = .ok r → r.2.context = c
  get : ∀ (v : ValueRef) (name : String), v.context = c → Attempt.Yields handler w s c (v.get name)
  getIndex : ∀ (v : ValueRef) (i : Nat), v.context = c → Attempt.Yields handler w s c (v.getIndex i)
  call : ∀ (v : ValueRef) (name : String) (args : List Native), v.context = c →
    Attempt.Yields handler w s c (v.call name args)

section

variable {σ α : Type} {handler : Handler σ} {w : World} {s : σ} {c : ContextId}

theorem Attempt.Yields.bind {f : α → Attempt σ ValueRef} {x : Attempt σ α} {P : α → Prop}
    (hx : ∀ a, x.result handler w s = .ok a → P a) (hf : ∀ a, P a → ∀ w s, Attempt.Yields handler w s c (f a)) :
    Attempt.Yields handler w s c (x >>= f) := by
  intro v hv
  rw [Attempt.result, run_bind] at hv
  rcases hrun : x.run handler w s with ⟨⟨a | a, w'⟩, s'⟩
  · rw [hrun] at hv
    cases hv
  · rw [hrun] at hv
    exact hf a (hx a (by rw [Attempt.result, hrun])) w' s' v hv

theorem Attempt.Yields.pure {v : ValueRef} (h : v.context = c) : Attempt.Yields handler w s c (pure v) := by
  rintro v' hv
  cases hv
  exact h

theorem Attempt.Yields.holding (x : Attempt σ Nat) : Attempt.Yields handler w s c (x >>= fun pin => Pure.pure ⟨c, pin⟩) :=
  .bind (P := fun _ => True) (fun _ _ => trivial) fun _ _ _ _ => .pure rfl

theorem evaluateWith_yields (x : Guest.Bridge Guest.Value) : Attempt.Yields handler w s c (c.evaluateWith x) := by
  refine .bind (P := fun _ => True) (fun _ _ => trivial) fun _ _ w s => ?_
  refine .bind (P := fun v => v.context = c) (Attempt.Yields.holding _) fun v hv w s => ?_
  exact .bind (P := fun _ => True) (fun _ _ => trivial) fun _ _ _ _ => .pure hv

theorem ContextId.yieldsOwn : c.YieldsOwn handler w s where
  evaluate _ := evaluateWith_yields _
  evaluateBinary _ := evaluateWith_yields _
  globalObject := .holding _
  register f r hr := by
    rw [ContextId.register, Attempt.result, run_bind] at hr
    split at hr
    · cases hr
      rfl
    · cases hr
  get v name hv := hv ▸ .holding _
  getIndex v i hv := hv ▸ .holding _
  call v name args hv := hv ▸ .holding _

end

/-- A value shows the same in two worlds. -/
structure ValueRef.ShowsAlike {σ : Type} (handler : Handler σ) (w w' : World) (s : σ) (v : ValueRef) : Prop where
  type : v.type.result handler w' s = v.type.result handler w s
  kind : v.kind.result handler w' s = v.kind.result handler w s
  toNative : v.toNative.result handler w' s = v.toNative.result handler w s
  objectToNative : v.objectToNative.result handler w' s = v.objectToNative.result handler w s

theorem World.SameAt.showsAlike {σ : Type} {handler : Handler σ} {w w' : World} {v : ValueRef}
    (hsame : w.SameAt v.context w') (hmachine : w'.machineFor v.context = w.machineFor v.context)
    (hkeeps : handler.KeepsTo v.context) (s : σ) : v.ShowsAlike handler w w' s where
  type := (hkeeps.inside _ s hsame hmachine).1
  kind := (hkeeps.inside _ s hsame hmachine).1
  toNative := (hkeeps.inside _ s hsame hmachine).1
  objectToNative := (hkeeps.inside _ s hsame hmachine).1

/-- The memory that is left for a context is the same in two worlds: nothing limits it, or as much is in use. -/
def World.LeavesSameMemory (c : ContextId) (w w' : World) : Prop :=
  (w.context c).machine.memoryLimit = none ∨
    w'.memoryInUse (w.context c).runtime = w.memoryInUse (w.context c).runtime

theorem World.SameAt.machineFor {w w' : World} {c : ContextId} (hsame : w.SameAt c w') (hmemory : w.LeavesSameMemory c w') :
    w'.machineFor c = w.machineFor c := by
  simp only [World.machineFor, hsame.context]
  split
  · next limit hlimit =>
    rcases hmemory with hnone | hmemory
    · cases hlimit.symm.trans hnone
    · rw [hmemory]
  · rfl

/-- A context does not share what guest code makes with any other, after the moves of a play. -/
structure Apart (ms : List (Position × Move)) (p : Position) (c : ContextId) : Prop where
  made : ∀ o < (p.world.context c).machine.objects.size, Play.Made ms p c o
  /-- So was all that guest code can get to, and all that the host holds on to. -/
  reached : p.Rests c → (p.world.context c).isReleased = false → ∀ o,
    (p.world.context c).machine.GetsTo (p.world.context c).pins.values (.object o) → Play.Made ms p c o
  /-- What the host holds on to in the context was handed out there. -/
  held : ∀ x ∈ (p.world.context c).pins.values, Play.HandedOut ms c x
  /-- What guest code takes from the host as a value was handed out in its context before. -/
  taken : ∀ earlier p' id x later, ms = earlier ++ (p', .answer c (.pinned id) (some x)) :: later →
    Play.HandedOut earlier c x
  pending : (∀ pm ∈ ms, pm.2.KeepsOwn) → ∀ v, (p.world.context c).pending = some v → v.context = c
  /-- So are all values that the host gets out of the context. -/
  yields : ∀ {σ : Type} (handler : Handler σ) (s : σ), c.YieldsOwn handler p.world s
  /-- A value of another context is refused, and nothing has changed. -/
  setForeign : ∀ {σ : Type} (handler : Handler σ) (s : σ) (v x : ValueRef) (name : String), v.context = c →
    x.context ≠ c →
      Attempt.Fails handler p.world s (.conversion "value of another context" "property") (v.setValue name x)
  /-- Functions of the host do not share entries, even if they are the same. -/
  exposed : ∀ c' f h' q, Step p (.answer c' (.register f) (.ok h')) q →
    ∀ h g, (p.world.context c).registry.get? h = some g → EntersApart p q c' h' f c h
  /-- What is done with other contexts leaves the context as it is. Its values show the same afterwards, as far as the
  functions of the host that are called meanwhile do, unless it has got short of memory. -/
  undisturbed : c.index < p.world.contexts.size → ∀ ns q, Play p ns q → (∀ pm ∈ ns, ¬ pm.2.Concerns pm.1.world c) →
    q.world.context c = p.world.context c ∧
      ((q.world.runtimeOf c).entered = (p.world.runtimeOf c).entered → p.world.LeavesSameMemory c q.world →
        ∀ {σ : Type} (handler : Handler σ) (s : σ) (v : ValueRef), handler.KeepsTo c → v.context = c →
          v.ShowsAlike handler p.world q.world s)

theorem Play.taken {ms earlier later : List (Position × Move)} {p p' : Position} {c : ContextId} {id : Nat} {x : Guest.Value}
    (hplay : Play {} ms p) (hms : ms = earlier ++ (p', .answer c (.pinned id) (some x)) :: later) :
    HandedOut earlier c x := by
  subst hms
  obtain ⟨r, hearlier, hrest⟩ := hplay.split
  cases hrest with
  | cons hstep _ =>
    generalize hm : Move.answer c (.pinned id) (some x) = m at hstep
    cases hstep with
    | @answer w held work _ α _ m resume =>
      rw [Move.answer.injEq] at hm
      obtain ⟨rfl, rfl, hreply⟩ := hm
      have hfind : ((w.setMachine c m).context c).pins.find? id = some x := (eq_of_heq hreply).symm
      rw [(World.pins_setMachine m c).1] at hfind
      exact hearlier.handedOut x (Guest.Pins.mem_values_of_find? hfind)
    | refuse hrefused =>
      rw [Move.answer.injEq] at hm
      obtain ⟨rfl, rfl, -⟩ := hm
      cases hrefused
    | _ => cases hm

theorem World.memoryInUse_two {w : World} (hsize : w.contexts.size = 2) (hzero : (w.context ⟨0⟩).runtime = ⟨0⟩)
    (hone : (w.context ⟨1⟩).runtime = ⟨0⟩) : w.memoryInUse ⟨0⟩ = (w.context ⟨0⟩).taken + (w.context ⟨1⟩).taken := by
  have hcontexts : w.contextsOf ⟨0⟩ = [⟨0⟩, ⟨1⟩] := by simp [contextsOf, hsize, List.range_succ, hzero, hone]
  rw [memoryInUse_eq, hcontexts, List.foldl_cons, List.foldl_cons, List.foldl_nil, Nat.zero_add]

end Embedding
