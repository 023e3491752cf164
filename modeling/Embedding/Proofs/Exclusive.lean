import Embedding.Proofs.Calling
import Embedding.Proofs.Enclosed
import Embedding.Proofs.Obstacles
import Embedding.Proofs.Registrations

namespace Embedding

variable {σ α β : Type} (handler : Handler σ) (w : World) (s : σ)

/-- Work that is refused because the engine is running: nothing has changed. -/
def Attempt.Refused (x : Attempt σ α) : Prop := x.run handler w s = ((.error .reentrant, w), s)

/-- What a context answers while the engine is running. -/
structure ContextId.Refuses (c : ContextId) : Prop where
  evaluate : ∀ source, (c.evaluate source).run handler w s = ((.error .reentrant, w.dropPending c), s)
  evaluateBinary : ∀ b, (c.evaluateBinary b).run handler w s = ((.error .reentrant, w.dropPending c), s)
  compile : ∀ source, Attempt.Refused handler w s (c.compile source)
  globalObject : Attempt.Refused handler w s c.globalObject
  register : ∀ f, Attempt.Refused handler w s (c.register f)

/-- What a value answers while the engine is running. -/
structure ValueRef.Refuses (v : ValueRef) : Prop where
  type : Attempt.Refused handler w s v.type
  toNative : Attempt.Refused handler w s v.toNative
  coerceText : Attempt.Refused handler w s v.coerceText
  asObject : (v.asObject? : Work σ (Option ValueRef)) handler w s = ((none, w), s)
  requireObject : Attempt.Refused handler w s v.requireObject
  kind : Attempt.Refused handler w s v.kind
  objectToNative : Attempt.Refused handler w s v.objectToNative
  get : ∀ name, Attempt.Refused handler w s (v.get name)
  getIndex : ∀ i, Attempt.Refused handler w s (v.getIndex i)
  set : ∀ name value, Attempt.Refused handler w s (v.set name value)
  setValue : ∀ name (x : ValueRef), x.context = v.context → Attempt.Refused handler w s (v.setValue name x)
  setForeign : ∀ name (x : ValueRef), x.context ≠ v.context →
    (v.setValue name x).run handler w s = ((.error (.conversion "value of another context" "property"), w), s)
  call : ∀ name args, Attempt.Refused handler w s (v.call name args)
  setFunction : ∀ name f, Attempt.Refused handler w s (v.setFunction name f)
  requireView : ∀ view, Attempt.Refused handler w s (v.requireView view)
  countIn : ∀ view, Attempt.Refused handler w s (v.countIn view)
  contentsIn : ∀ view, Attempt.Refused handler w s (v.contentsIn view)

/-- What a runtime answers while its engine is running. -/
structure RuntimeId.Refuses (r : RuntimeId) : Prop where
  newContext : Attempt.Refused handler w s r.newContext
  collect : Attempt.Refused handler w s r.collect
  memoryUsage : Attempt.Refused handler w s r.memoryUsage

section Refusals

variable {handler w s}

theorem Attempt.Refused.bind {x : Attempt σ α} (h : Attempt.Refused handler w s x) (f : α → Attempt σ β) :
    Attempt.Refused handler w s (x >>= f) := run_bind_of_error handler w s h f

section

variable {c : ContextId} (h : w.contextObstacle? c = some .reentrant)
include h

theorem ContextId.refuses : c.Refuses handler w s :=
  have hfails := ContextId.fails h
  ⟨hfails.evaluate, hfails.evaluateBinary, hfails.compile, hfails.globalObject, hfails.register⟩

end

theorem ValueRef.refuses {v : ValueRef} (h : w.contextObstacle? v.context = some .reentrant) : v.Refuses handler w s :=
  have hfails := ValueRef.fails h
  { hfails with }

theorem RuntimeId.refuses {r : RuntimeId} (h : w.runtimeObstacle? r = some .reentrant) : r.Refuses handler w s where
  newContext := by rw [Attempt.Refused, newContext_run, World.newContextObstacle?, h]
  collect := by
    apply Attempt.Refused.bind
    rw [Attempt.Refused, requireEngine_run, h]
  memoryUsage := by
    apply Attempt.Refused.bind
    rw [Attempt.Refused, requireEngine_run, h]

end Refusals

/-- The engine of one runtime between moves. -/
structure EngineExclusive (p : Position) (r : RuntimeId) : Prop where
  once : p.work.countP (fun a => (p.world.context a.context).runtime = r) ≤ 1
  entered : (p.world.runtime r).entered = true ↔ ∃ a ∈ p.work, (p.world.context a.context).runtime = r
  lasting : ∀ m q, Step p m q → (∀ c, m = .leave c → (p.world.context c).runtime ≠ r) →
    (p.world.runtime r).entered = true → (q.world.runtime r).entered = true
  /-- Until the work has ended, no context of the runtime can be entered. -/
  contexts : (p.world.runtime r).entered = true → ∀ c ∈ p.world.openContextsOf r, ∀ {σ : Type} (handler : Handler σ)
    (s : σ), c.Refuses handler p.world s ∧ ∀ v : ValueRef, v.context = c → v.Refuses handler p.world s
  runtime : (p.world.runtime r).entered = true → (p.world.runtime r).freed = false → ∀ {σ : Type}
    (handler : Handler σ) (s : σ), r.Refuses handler p.world s
  /-- To let go of the result of an evaluation ends the registrations that depended on it, and nothing else. -/
  pending : ∀ c, (p.world.dropPending c).life = p.world.life ∧
    ∀ c', ((p.world.dropPending c).context c').machine = (p.world.context c').machine ∧
      ((∀ v, (p.world.context c).pending = some v → v.context ≠ c') →
        ((p.world.dropPending c).context c').registry = (p.world.context c').registry)

theorem Step.entered {p q : Position} {m : Move} {r : RuntimeId} (hstep : Step p m q)
    (hm : ∀ c, m = .leave c → (p.world.context c).runtime ≠ r) (h : (p.world.runtime r).entered = true) :
    (q.world.runtime r).entered = true := by
  have hlife {w' : World} (hlife : w'.life = p.world.life) : (w'.runtime r).entered = true := by
    rwa [World.runtime_of_life hlife]
  cases hstep with
  | operate op => exact (((Operation.ages op p.world).runtime r).entered).trans h
  | @enter _ c =>
    show ((p.world.enter c).runtime r).entered = true
    rw [World.enter, World.runtime_modifyRuntime]
    split
    · rfl
    · exact h
  | answer => exact hlife (World.life_asked _ _ _ _)
  | free => exact hlife (World.life_freed _ _ _)
  | refuse => exact hlife (World.life_refused _ _ _ _)
  | call => exact hlife (World.life_called _ _ _ _)
  | reply | dropped => exact h
  | @leave w held work c α run m =>
    have hother : ((w.setMachine c m).context c).runtime ≠ r := by
      rw [World.home_of_life (w.life_setMachine c m)]
      exact hm c rfl
    rw [World.runtime_of_life (World.life_leave _ _), World.runtime_modifyRuntime, if_neg fun h => hother h.1.symm]
    exact hlife (World.life_setMachine _ _ _)

theorem Position.Reachable.engineExclusive {p : Position} (hp : p.Reachable) (r : RuntimeId) : EngineExclusive p r where
  once := by
    have hcount := List.nodup_iff_count_le_one.mp hp.seated.once r
    rw [List.map_map, List.count, List.countP_map] at hcount
    refine Nat.le_trans (Nat.le_of_eq (List.countP_congr fun a _ => ?_)) hcount
    simp
  entered := by
    rw [hp.seated.entered]
    simp
  lasting m q hstep := hstep.entered
  contexts hentered c hc σ handler s := by
    obtain ⟨-, hhome, hopen⟩ := (p.world.mem_openContextsOf r c).mp hc
    have hobstacle : p.world.contextObstacle? c = some .reentrant := by
      simp [World.contextObstacle?, hopen, World.runtimeOf, hhome, hentered]
    exact ⟨ContextId.refuses hobstacle, fun v hv => ValueRef.refuses (hv ▸ hobstacle)⟩
  runtime hentered hopen σ handler s :=
    RuntimeId.refuses (by simp [World.runtimeObstacle?, hopen, hentered])
  pending c := ⟨p.world.life_dropPending c, p.world.dropPending_context c⟩

theorem ContextState.reaped_of_pinned {s : ContextState} {o : Guest.ObjectId} {h : Handle}
    (hleases : s.leases = [⟨o, h⟩]) (hpins : .object o ∈ s.pins.values) : s.reaped = s := by
  apply endLeases_eq_self
  intro l hl hfreed
  rw [hleases, List.mem_singleton] at hl
  subst hl
  have hroot := s.machine.mem_freedPlaces _ |>.mp hfreed
  exact Guest.Machine.not_freed_of_root (Guest.Machine.mem_rootPlaces_of_held hpins) hroot.2

theorem ContextState.get?_reaped_of_freed {s : ContextState} {o : Guest.ObjectId} {h : Handle}
    (hleases : s.leases = [⟨o, h⟩]) (hfreed : s.Freed o) : s.reaped.registry.get? h = none := by
  rw [reaped, endLeases, Registry.get?_removeAll, if_pos]
  rw [endedHandles, List.mem_map]
  refine ⟨⟨o, h⟩, List.mem_filterMap.mpr ⟨o, hfreed, ?_⟩, rfl⟩
  rw [hleases]
  simp

theorem World.get?_dropPending {w : World} {c : ContextId} {pin : Nat} {o : Guest.ObjectId} {h : Handle}
    (hknown : c.index < w.contexts.size) (hpending : (w.context c).pending = some ⟨c, pin⟩)
    (hleases : (w.context c).leases = [⟨o, h⟩]) (hlt : o < (w.context c).machine.placeCount)
    (hfreed : (w.context c).machine.Freed ((w.context c).pins.remove pin).values o) :
    ((w.dropPending c).context c).registry.get? h = none := by
  rw [dropPending, hpending]
  dsimp only
  rw [context_drop, if_pos ⟨rfl, by simpa using hknown⟩, context_modifyContext, if_pos ⟨rfl, hknown⟩]
  apply ContextState.get?_reaped_of_freed
  · exact hleases
  · exact ((w.context c).machine.mem_freedPlaces _).mpr ⟨hlt, hfreed⟩

def handOut (f : HostFn) : Guest.Bridge Nat := do
  let o := (← Guest.Bridge.ofGuest Guest.Act.machine).objects.size
  let _ ← Guest.Bridge.registering f
  Guest.Bridge.ask (.pin (.object o))

def callFirst : Guest.Bridge Unit := do
  let _ ← Guest.Bridge.ofGuest (Guest.Act.callHost ⟨0, 0⟩ (pure (.ok [] : Except Error (List Native))))

theorem handOut_run (f : HostFn) (e : Guest.Engine) (m : Guest.Machine) :
    (handOut f).caught.run e m =
      .ask (.register f) m fun r =>
      .ask (.pin (.object m.objects.size)) (m.grant (.register f) r) fun n => .done (.ok n) (m.grant (.register f) r) := rfl

theorem callFirst_run (e : Guest.Engine) (m : Guest.Machine) :
    ∃ k, callFirst.caught.run e m = .ask (.beginCall ⟨0, 0⟩) m k ∧
      ∀ f, k (some f) = .call ⟨⟨0, 0⟩, f⟩ [] m.mended fun _ => .done (.ok ()) m.mended := ⟨_, rfl, fun _ => rfl⟩

theorem Position.Reachable.step {p q : Position} {m : Move} (hp : p.Reachable) (hstep : Step p m q) : q.Reachable :=
  hp.append (.one hstep)

theorem World.machineFor_of_unlimited [Guest.Collector] {w : World} {c : ContextId}
    (h : (w.context c).machine.memoryLimit = none) : w.machineFor c = (w.context c).machine := by
  simp only [machineFor, h]

section

variable {w : World} {held : List ContextId} {c : ContextId} {m : Guest.Machine} {o : Guest.ObjectId}

/-- Work that ends by handing out the first value, an object that the machine has. -/
theorem exists_pinned {k : Nat} (hp : Position.Reachable ⟨w, held, [.running c (.ask (.pin (.object k)) m fun n =>
      .done (Except.ok n : Except Error Nat) m)]⟩) (hknown : c.index < w.contexts.size)
    (hopen : (w.context c).isReleased = false) (hpins : (w.context c).pins = {}) (hk : k < m.objects.size) :
    ∃ w', Position.Reachable ⟨w', held, []⟩ ∧ w'.contexts.size = w.contexts.size ∧ w'.contextObstacle? c = none ∧
      (∀ c' ≠ c, w'.context c' = w.context c') ∧ w'.context c = ContextState.reaped { w.context c with
        machine := m.atRest
        begun := []
        pins := ⟨1, [(0, .object k)]⟩ } := by
  have hset := World.context_setMachine_self m hknown
  have hanswer : (w.setMachine c m).answer c (.pin (.object k)) =
      (0, (w.setMachine c m).modifyContext c fun s => { s with pins := ⟨1, [(0, .object k)]⟩ }) := by
    have hthere : (Guest.Target.ofValue (.object k)).all (Guest.Target.isKnown m.objects.size) = true := by
      simpa [Guest.Target.ofValue, Guest.Target.isKnown] using hk
    simp only [World.answer, World.pin, hset, hthere, if_true, hpins]
    rfl
  have hpinned := hp.step .answer
  rw [hanswer] at hpinned
  dsimp only at hpinned
  have hleft := hpinned.step (.leave rfl)
  have hcontext := World.context_leave_self (c := c) (w := ((w.setMachine c m).modifyContext c fun s =>
    { s with pins := ⟨1, [(0, .object k)]⟩ }).setMachine c m) (by simpa using hknown)
  rw [World.context_setMachine_self _ (by simpa using hknown), World.context_modifyContext_self _ (by simpa using hknown),
    hset] at hcontext
  refine ⟨_, hleft, ?_, ?_, fun c' hc' => ?_, hcontext⟩
  · rw [World.size_contexts_of_life (World.life_leave _ _), World.contexts_modifyRuntime, World.size_contexts_setMachine,
      World.size_contexts_modifyContext, World.size_contexts_setMachine]
  · refine World.contextObstacle_eq_none.mpr ⟨by rw [hcontext]; exact hopen, Bool.eq_false_iff.mpr ?_⟩
    refine (hleft.seated.entered _).not.mpr ?_
    rintro ⟨c', hc', -⟩
    exact absurd hc' List.not_mem_nil
  · rw [World.context_leave_of_ne hc', World.context_setMachine_of_ne hc', World.context_modifyContext_of_ne _ hc',
      World.context_setMachine_of_ne hc']

theorem exists_handedOut (hp : Position.Reachable ⟨w, held, []⟩) (hknown : c.index < w.contexts.size)
    (hfree : w.contextObstacle? c = none) (hleases : (w.context c).leases = []) (hpins : (w.context c).pins = {})
    {n : Nat} (hregistry : (w.context c).registry = Registry.ofLimit n) (hm : (w.context c).machine = m)
    (hunlimited : m.memoryLimit = none) (f : HostFn) :
    ∃ w', Position.Reachable ⟨w', held, []⟩ ∧ c.index < w'.contexts.size ∧ w'.contextObstacle? c = none ∧
      (w'.context c).registry.get? ⟨0, 0⟩ = some f ∧ (w'.context c).leases = [⟨m.objects.size, ⟨0, 0⟩⟩] ∧
      (w'.context c).pins = ⟨1, [(0, .object m.objects.size)]⟩ ∧
      (w'.context c).machine = (m.grant (.register f) (.ok ⟨0, 0⟩)).atRest := by
  obtain ⟨hopen, -⟩ := World.contextObstacle_eq_none.mp hfree
  have henter := hp.step (.enter (handOut f) trivial hknown hfree)
  dsimp only at henter
  rw [handOut_run, World.machineFor_of_unlimited (hm ▸ hunlimited), hm] at henter
  obtain ⟨w₁, hregister, hlife₁, -, hcontext₁⟩ := Step.exists_registered (w := w.enter c) held [] (m := m) f _ hknown
    hopen hleases hregistry
  have hasked := henter.step hregister
  generalize hgranted : m.grant (.register f) (.ok ⟨0, 0⟩) = granted at hasked ⊢
  have hsize : granted.objects.size = m.objects.size + 1 := by
    rw [← hgranted]
    exact Array.size_push _
  have hsize₁ := World.size_contexts_of_life hlife₁
  obtain ⟨w', hleft, hsize', hfree', -, hcontext⟩ := exists_pinned hasked (hsize₁ ▸ hknown)
    ((World.isReleased_of_life hlife₁ c).trans hopen) (by rw [hcontext₁]; exact hpins) (hsize ▸ Nat.lt_succ_self _)
  rw [hcontext₁, ContextState.reaped_of_pinned (o := m.objects.size) (h := ⟨0, 0⟩) rfl (List.mem_singleton.mpr rfl)]
    at hcontext
  refine ⟨w', hleft, hsize' ▸ hsize₁ ▸ hknown, hfree', ?_⟩
  rw [hcontext]
  refine ⟨?_, rfl, rfl, rfl⟩
  rw [Registry.get?_occupy (Nat.zero_le _) rfl, Registry.generationAt_ofLimit, if_pos rfl]

/-- Guest code calls the first function of the host, which only the result of an evaluation holds on to. -/
theorem exists_calling (hp : Position.Reachable ⟨w, held, []⟩) (hknown : c.index < w.contexts.size)
    (hfree : w.contextObstacle? c = none) (hheld : c ∈ held) {f : HostFn}
    (hf : (w.context c).registry.get? ⟨0, 0⟩ = some f) (hleases : (w.context c).leases = [⟨o, ⟨0, 0⟩⟩])
    (hpins : (w.context c).pins = ⟨1, [(0, .object o)]⟩) (hclosed : (w.context c).machine.Closed)
    (hunlimited : (w.context c).machine.memoryLimit = none) :
    ∃ w' a, Position.Reachable ⟨w', held, [a]⟩ ∧ Position.HostMoves ⟨w', held, [a]⟩ ∧ a.context = c ∧
      c.index < w'.contexts.size ∧ w'.context c = { w.context c with pending := some ⟨c, 0⟩ } := by
  have hkept := hp.step (.operate (.keepPending c ⟨c, 0⟩) trivial (by
    simp [Operation.allowed, Operation.runtime?, Operation.context?, hheld]))
  obtain ⟨w₁, hw₁⟩ : ∃ w₁, w₁ = w.modifyContext c fun s => { s with pending := some ⟨c, 0⟩ } := ⟨_, rfl⟩
  have hcontext₁ : w₁.context c = { w.context c with pending := some ⟨c, 0⟩ } := by
    rw [hw₁, World.context_modifyContext_self _ hknown]
  have hlife₁ : w₁.life = w.life := by
    rw [hw₁]
    exact w.life_modifyContext c _ fun _ => ⟨rfl, rfl⟩
  have hknown₁ : c.index < w₁.contexts.size := World.size_contexts_of_life hlife₁ ▸ hknown
  have hfree₁ : w₁.contextObstacle? c = none := (World.contextObstacle?_of_life hlife₁ c).trans hfree
  have hmachine₁ : w₁.machineFor c = (w.context c).machine := by
    rw [World.machineFor_of_unlimited (by rw [hcontext₁]; exact hunlimited), hcontext₁]
  have henter := (hw₁ ▸ hkept : Position.Reachable ⟨w₁, held, []⟩).step (.enter callFirst trivial hknown₁ hfree₁)
  obtain ⟨k, hrun, hk⟩ := callFirst_run Guest.Engine.standard (w.context c).machine
  dsimp only at henter
  rw [hmachine₁, hrun] at henter
  obtain ⟨w₂, hbegin, hlife₂, -, hcontext₂⟩ := Step.exists_begun (w := w₁.enter c) held [] (m := (w.context c).machine)
    (h := ⟨0, 0⟩) (f := f) k hknown₁ (show (w₁.context c).registry.get? ⟨0, 0⟩ = some f by rw [hcontext₁, hf])
  rw [hk, hclosed.mended_eq] at hbegin
  have hknown₂ : c.index < w₂.contexts.size := World.size_contexts_of_life hlife₂ ▸ hknown₁
  have hset := World.context_setMachine_self (w.context c).machine hknown₂
  have hcontext₂ : (w₂.setMachine c (w.context c).machine).context c = { w.context c with
      pending := some ⟨c, 0⟩
      begun := ⟨⟨0, 0⟩, f⟩ :: (w.context c).begun } := by
    rw [hset, hcontext₂]
    show ContextState.mk .. = _
    rw [show (w₁.enter c).context c = w₁.context c from rfl, hcontext₁]
  have hcalled := (henter.step hbegin).step .call
  refine ⟨_, _, hcalled, trivial, rfl, ?_, ?_⟩
  · rw [World.size_contexts_of_life (World.life_called _ _ _ _)]
    exact hknown₂
  · have hpinned : Guest.Value.object o ∈ (w.context c).pins.values := by
      rw [hpins]
      exact List.mem_singleton.mpr rfl
    have hreaped : ContextState.reaped { w.context c with
        pending := some ⟨c, 0⟩
        begun := ⟨⟨0, 0⟩, f⟩ :: (w.context c).begun } = _ := ContextState.reaped_of_pinned hleases hpinned
    rw [World.context_makeCall_self _ (by rwa [World.size_contexts_setMachine]), hcontext₂, hreaped]
    simp

end

structure Guest.Machine.IsNew (m : Machine) : Prop where
  objects : m.objects = Realm.initial.objects
  cells : m.cells = #[]
  roots : m.roots = []
  frames : m.frames = []
  lexicals : m.lexicals = []
  collections : m.collections = #[]
  realmSize : m.realmSize = m.objects.size
  depth : m.depth = 0
  memory : m.memory = 0
  jobs : m.jobs = []
  closed : m.Closed

namespace Guest.Machine

theorem isNew_initial : Realm.initial.IsNew where
  objects := rfl
  cells := rfl
  roots := rfl
  frames := rfl
  lexicals := rfl
  collections := rfl
  realmSize := Realm.realmSize_initial
  depth := rfl
  memory := rfl
  jobs := rfl
  closed := Realm.closed_initial

theorem IsNew.limited {m : Machine} (h : m.IsNew) (depthLimit : Nat) (memoryLimit : Option Nat) :
    { m with depthLimit, memoryLimit }.IsNew :=
  { h with closed := { h.closed with } }

theorem IsNew.atRest_grant {m : Machine} (h : m.IsNew) (q : Query) (r : q.Reply) : (m.grant q r).atRest = m.grant q r := by
  have hsize : Intrinsic.functionPrototype < m.objects.size := by
    rw [h.objects]
    exact Realm.functionPrototype_lt_initial
  have hclosed := h.closed.grant hsize q r
  unfold grant at *
  split at hclosed
  · exact hclosed.atRest_eq h.roots h.frames h.depth h.memory
  · exact hclosed.atRest_eq h.roots h.frames h.depth h.memory

end Guest.Machine

structure Opened (config : Config) (w : World) : Prop where
  reachable : Position.Reachable ⟨w, [⟨0⟩], []⟩
  known : 0 < w.contexts.size
  free : w.contextObstacle? ⟨0⟩ = none
  configured : (w.runtimeOf ⟨0⟩).config = config
  leases : (w.context ⟨0⟩).leases = []
  begun : (w.context ⟨0⟩).begun = []
  pins : (w.context ⟨0⟩).pins = {}
  registry : (w.context ⟨0⟩).registry = Registry.ofLimit config.maxCallbacks
  machine : (w.context ⟨0⟩).machine.IsNew
  depthLimit : (w.context ⟨0⟩).machine.depthLimit = callDepthLimit
  memoryLimit : (w.context ⟨0⟩).machine.memoryLimit = none

theorem exists_opened (config : Config) (h : config.memoryLimit = none) : ∃ w, Opened config w := by
  obtain ⟨cleanup, unmapped, memoryLimit, maxStackSize, gcThreshold, maxCallbacks⟩ := config
  cases h
  have hplay := Play.operates [.newRuntime ⟨cleanup, unmapped, none, maxStackSize, gcThreshold, maxCallbacks⟩,
    .newContext ⟨0⟩] (p := {}) trivial rfl
  exact ⟨_, ⟨_, hplay⟩, Nat.one_pos, rfl, rfl, rfl, rfl, rfl, rfl,
    Guest.Machine.isNew_initial.limited callDepthLimit none, rfl, rfl⟩

/-- Guest code that calls a function of the host which the result of an evaluation holds on to, and nothing else. -/
structure CallsPending (p : Position) (c : ContextId) (h : Handle) (f : HostFn) (o : Guest.ObjectId) : Prop where
  reachable : p.Reachable
  turn : p.HostMoves
  work : ∃ a ∈ p.work, a.context = c
  known : c.index < p.world.contexts.size
  isReleased : (p.world.context c).isReleased = false
  kept : (p.world.context c).registry.get? h = some f
  pending : ∃ pin, (p.world.context c).pending = some ⟨c, pin⟩ ∧
    (p.world.context c).machine.Freed ((p.world.context c).pins.remove pin).values o
  leases : (p.world.context c).leases = [⟨o, h⟩]
  place : o < (p.world.context c).machine.placeCount

theorem exists_callsPending : ∃ p c h f o, CallsPending p c h f o := by
  obtain ⟨w, hopened⟩ := exists_opened {} rfl
  have hnew := hopened.machine
  generalize hm : (w.context ⟨0⟩).machine = m at hnew
  obtain ⟨w', hgiven, hknown', hfree', hget, hleases, hpins, hm'⟩ := exists_handedOut hopened.reachable hopened.known
    hopened.free hopened.leases hopened.pins hopened.registry hm (hm ▸ hopened.memoryLimit) ⟨7⟩
  have hsize : Guest.Intrinsic.functionPrototype < m.objects.size := by
    rw [hnew.objects]
    exact Guest.Realm.functionPrototype_lt_initial
  have hclosed := hnew.closed.grant hsize (.register ⟨7⟩) (.ok ⟨0, 0⟩)
  have hrested := hnew.atRest_grant (.register ⟨7⟩) (.ok ⟨0, 0⟩)
  have hunlimited : (m.grant (.register ⟨7⟩) (.ok ⟨0, 0⟩)).memoryLimit = none := by
    rw [← hopened.memoryLimit, hm]
    rfl
  rw [hrested] at hm'
  obtain ⟨w'', a, hcalling, hturn, ha, hknown'', hcontext⟩ := exists_calling hgiven hknown' hfree'
    (List.mem_singleton.mpr rfl) hget hleases hpins (hm'.symm ▸ hclosed) (hm'.symm ▸ hunlimited)
  generalize hgranted : m.grant (.register ⟨7⟩) (.ok ⟨0, 0⟩) = m' at hm'
  have hfunction : m'.objects = Guest.Realm.initial.objects.push (Guest.Machine.functionOf ⟨0, 0⟩) := by
    rw [← hgranted, ← hnew.objects]
    rfl
  have hmachine : (w''.context ⟨0⟩).machine = m' := by rw [hcontext, hm']
  have hidle : m'.rootPlaces [] = List.range m.objects.size := by
    rw [← hnew.realmSize, ← hgranted]
    exact Guest.Machine.rootPlaces_of_idle hnew.roots hnew.frames hnew.lexicals hnew.collections hnew.jobs
  have hplaces : m'.placeCount = m.objects.size + 1 := by
    rw [Guest.Machine.placeCount, hfunction, ← hnew.objects, Array.size_push, ← hgranted]
    exact congrArg (m.objects.size + 1 + ·) (congrArg Array.size hnew.cells)
  have hpinned : ((w''.context ⟨0⟩).pins.remove 0).values = [] := by
    rw [hcontext, hpins]
    rfl
  refine ⟨_, ⟨0⟩, ⟨0, 0⟩, ⟨7⟩, m.objects.size, hcalling, hturn, ⟨a, List.mem_singleton.mpr rfl, ha⟩, hknown'', ?_,
    by rw [hcontext]; exact hget, ⟨0, by rw [hcontext], ?_⟩, by rw [hcontext]; exact hleases, ?_⟩
  · rw [hcontext]
    exact (World.contextObstacle_eq_none.mp hfree').1
  · rw [hpinned, hmachine, hnew.objects]
    apply Guest.Realm.freed_function hfunction
    · rw [← hgranted]
      exact hnew.cells
    · rw [hidle, hnew.objects, List.mem_range]
      exact Nat.lt_irrefl _
  · rw [hmachine, hplaces]
    exact Nat.lt_succ_self _

/-- An evaluation is refused in a context whose guest code is running. Even so it lets go of the result of the one
before, which may be all that holds on to a function of the host: that is not registered any more. -/
theorem evaluate_refused_unregisters : ∃ (p : Position) (c : ContextId) (h : Handle) (f : HostFn), p.Reachable ∧
    p.HostMoves ∧ (∃ a ∈ p.work, a.context = c) ∧ (p.world.context c).isReleased = false ∧
    (p.world.context c).registry.get? h = some f ∧
    ∀ {σ : Type} (handler : Handler σ) (s : σ) (source : String), ∃ w,
      (c.evaluate source).run handler p.world s = ((.error .reentrant, w), s) ∧ (w.context c).registry.get? h = none := by
  obtain ⟨p, c, h, f, o, hcalls⟩ := exists_callsPending
  refine ⟨p, c, h, f, hcalls.reachable, hcalls.turn, hcalls.work, hcalls.isReleased, hcalls.kept,
    fun handler s source => ⟨_, evaluateWith_fails ?_ _, ?_⟩⟩
  · obtain ⟨a, ha, rfl⟩ := hcalls.work
    have hentered : (p.world.runtimeOf a.context).entered = true :=
      (hcalls.reachable.seated.entered _).mpr ⟨a.context, List.mem_map.mpr ⟨a, ha, rfl⟩, rfl⟩
    rw [World.contextObstacle?, if_neg (by simp [hcalls.isReleased]), if_pos hentered]
  · obtain ⟨pin, hpending, hfreed⟩ := hcalls.pending
    exact World.get?_dropPending hcalls.known hpending hcalls.leases hcalls.place hfreed

/-- While guest code calls the host, the engine is entered, and its context refuses all else. -/
theorem engineExclusive_callsPending : ∃ (p : Position) (r : RuntimeId), p.Reachable ∧
    (p.world.runtime r).entered = true ∧ p.world.openContextsOf r ≠ [] ∧ EngineExclusive p r := by
  obtain ⟨p, c, h, f, o, hcalls⟩ := exists_callsPending
  obtain ⟨a, ha, rfl⟩ := hcalls.work
  have hopen := (p.world.mem_openContextsOf (p.world.context a.context).runtime a.context).mpr
    ⟨hcalls.known, rfl, hcalls.isReleased⟩
  have hexclusive := hcalls.reachable.engineExclusive (p.world.context a.context).runtime
  exact ⟨p, _, hcalls.reachable, hexclusive.entered.mpr ⟨a, ha, rfl⟩, List.ne_nil_of_mem hopen, hexclusive⟩

end Embedding
