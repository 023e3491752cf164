import Embedding.Proofs.ClosedMachines
import Embedding.Proofs.Leases
import Embedding.Proofs.Lifecycle

namespace Embedding

theorem Registry.get?_first (n : Nat) (f : HostFn) : ((ofLimit n).occupy 0 f).get? ⟨0, 0⟩ = some f := by
  rw [get?_occupy (Nat.zero_le _) rfl, generationAt_ofLimit, if_pos rfl]

section

variable [Guest.Collector]

theorem World.register_first {w : World} {c : ContextId} {n : Nat} (f : HostFn)
    (hopen : (w.context c).isReleased = false) (hleases : (w.context c).leases = [])
    (hregistry : (w.context c).registry = Registry.ofLimit n) : w.register c f =
      (.ok ⟨0, 0⟩, (w.modifyContext c fun s => { s with
        registry := (Registry.ofLimit n).occupy 0 f
        leases := ⟨s.machine.objects.size, ⟨0, 0⟩⟩ :: s.leases }).report (.registered ⟨0, 0⟩)) := by
  have hreap : w.reap c = w := reap_eq_self (by simp [hleases])
  have hinsert : (Registry.ofLimit n).insert f = .ok (⟨0, 0⟩, (Registry.ofLimit n).occupy 0 f) := by
    rcases (Registry.sound_ofLimit n).insert f with ⟨-, i, hi, -, -, hok⟩ | ⟨hfull, -⟩
    · obtain rfl := Nat.le_zero.mp hi
      exact hok
    · exact absurd (Registry.sound_ofLimit n).limit_pos (Nat.not_lt.mpr hfull)
  simp only [register, hopen, Bool.false_eq_true, if_false, hreap, hregistry, hinsert]

section

variable {w : World} (held : List ContextId) (work : List Activity) {c : ContextId} {m : Guest.Machine} {α : Type}

theorem Step.exists_registered (f : HostFn) (k : Except Error Handle → Guest.Run α) (hknown : c.index < w.contexts.size)
    (hopen : (w.context c).isReleased = false) (hleases : (w.context c).leases = []) {n : Nat}
    (hregistry : (w.context c).registry = Registry.ofLimit n) :
    ∃ w', Step ⟨w, held, .running c (.ask (.register f) m k) :: work⟩ (.answer c (.register f) (.ok ⟨0, 0⟩))
        ⟨w', held, .running c (k (.ok ⟨0, 0⟩)) :: work⟩ ∧
      w'.life = w.life ∧ (∀ c' ≠ c, w'.context c' = w.context c') ∧ w'.context c = { w.context c with
        machine := m
        registry := (Registry.ofLimit n).occupy 0 f
        leases := [⟨m.objects.size, ⟨0, 0⟩⟩] } := by
  have hset := World.context_setMachine_self m hknown
  have hanswer : (w.setMachine c m).answer c (.register f) = _ := World.register_first (n := n) f
    (by rw [hset]; exact hopen) (by rw [hset]; exact hleases) (by rw [hset]; exact hregistry)
  have hstep : Step ⟨w, held, .running c (.ask (.register f) m k) :: work⟩ _ _ := .answer
  rw [hanswer] at hstep
  refine ⟨_, hstep, ?_, fun c' hc' => ?_, ?_⟩
  · rw [← congrArg Prod.snd hanswer, World.life_asked]
  · rw [World.context_report, World.context_modifyContext_of_ne _ hc', World.context_setMachine_of_ne hc']
  · rw [World.context_report, World.context_modifyContext_self _ (by rwa [World.size_contexts_setMachine]), hset, hleases]

theorem Step.exists_begun {h : Handle} {f : HostFn} (k : Option HostFn → Guest.Run α) (hknown : c.index < w.contexts.size)
    (hf : (w.context c).registry.get? h = some f) :
    ∃ w', Step ⟨w, held, .running c (.ask (.beginCall h) m k) :: work⟩ (.answer c (.beginCall h) (some f))
        ⟨w', held, .running c (k (some f)) :: work⟩ ∧
      w'.life = w.life ∧ (∀ c' ≠ c, w'.context c' = w.context c') ∧
      w'.context c = { w.context c with machine := m, begun := ⟨h, f⟩ :: (w.context c).begun } := by
  have hset := World.context_setMachine_self m hknown
  have hanswer : (w.setMachine c m).answer c (.beginCall h) =
      (some f, (w.setMachine c m).modifyContext c fun s => { s with begun := ⟨h, f⟩ :: s.begun }) := by
    simp only [World.answer, World.beginCall, hset, hf]
  have hstep : Step ⟨w, held, .running c (.ask (.beginCall h) m k) :: work⟩ _ _ := .answer
  rw [hanswer] at hstep
  refine ⟨_, hstep, ?_, fun c' hc' => ?_, ?_⟩
  · rw [← congrArg Prod.snd hanswer, World.life_asked]
  · rw [World.context_modifyContext_of_ne _ hc', World.context_setMachine_of_ne hc']
  · rw [World.context_modifyContext_self _ (by rwa [World.size_contexts_setMachine]), hset]

end

end

namespace Guest.Machine

theorem mem_roots_mended {m : Machine} {o : ObjectId} (h : Root.value (.object o) ∈ m.roots)
    (hlt : o < m.objects.size) : Root.value (.object o) ∈ m.mended.roots :=
  List.mem_filter.mpr ⟨h, by simp [Target.ofRoot, Target.ofValue, Target.isKnown, hlt]⟩

def holdingNew (m : Machine) (h : Handle) : Machine :=
  { m with
    objects := m.objects.push (functionOf h)
    roots := .value (.object m.objects.size) :: m.roots }

/-- What such a machine holds on to stays, also when its other references have been mended. -/
structure HoldsNew (m : Machine) (o : ObjectId) : Prop where
  root : Root.value (.object o) ∈ m.roots
  lt : o < m.objects.size

theorem HoldsNew.mended {m : Machine} {o : ObjectId} (h : m.HoldsNew o) : m.mended.HoldsNew o :=
  ⟨mem_roots_mended h.root h.lt, by simpa using h.lt⟩

theorem holdsNew_holdingNew (m : Machine) (h : Handle) : (m.holdingNew h).HoldsNew m.objects.size :=
  ⟨List.mem_cons_self, by simp [holdingNew]⟩

end Guest.Machine

/-- Guest code that calls a host function, and once more while it converts the arguments for the first call. It
holds on to the function all the while. -/
def callWithinCall (f : HostFn) : Guest.Bridge Unit := do
  let o := (← Guest.Bridge.ofGuest Guest.Act.machine).objects.size
  let _ ← Guest.Bridge.registering f
  Guest.Bridge.hold (.object o)
  let inner : Guest.Act (Except Error (List Native)) := do
    let _ ← Guest.Act.callHost ⟨0, 0⟩ (pure (.ok [] : Except Error (List Native)))
    return .ok []
  let _ ← Guest.Bridge.ofGuest (Guest.Act.callHost ⟨0, 0⟩ inner)

/-- What such guest code does on a machine once a function has been found for the first call, or one for each. -/
def makesCalls (m : Guest.Machine) (f : HostFn) : Option HostFn → Guest.Run (Except Error Unit)
  | none => .call ⟨⟨0, 0⟩, f⟩ [] m.mended fun _ => .done (.ok ()) m.mended
  | some g => .call ⟨⟨0, 0⟩, g⟩ [] m.mended fun _ =>
    .call ⟨⟨0, 0⟩, f⟩ [] m.mended.mended fun _ => .done (.ok ()) m.mended.mended

theorem callWithinCall_run (f : HostFn) (e : Guest.Engine) (m : Guest.Machine) : ∃ k,
    (callWithinCall f).caught.run e m = .ask (.register f) m k ∧
      ∀ h, ∃ k', k (.ok h) = .ask (.beginCall ⟨0, 0⟩) (m.holdingNew h) k' ∧
        ∀ f, k' (some f) = .ask (.beginCall ⟨0, 0⟩) (m.holdingNew h) (makesCalls (m.holdingNew h) f) := by
  refine ⟨_, rfl, fun h => ⟨_, rfl, fun f => ?_⟩⟩
  show Guest.Run.ask _ _ _ = Guest.Run.ask _ _ _
  congr 1
  funext found
  cases found <;> rfl

section

variable {w : World} {c : ContextId} {m : Guest.Machine} {o : Guest.ObjectId} {h : Handle}

theorem World.reap_of_holdsNew (hm : m.HoldsNew o) (hleases : (w.context c).leases = [⟨o, h⟩])
    (hknown : c.index < w.contexts.size) : (w.setMachine c m).reap c = w.setMachine c m := by
  apply reap_eq_self
  rw [context_setMachine_self m hknown]
  intro l hl
  obtain rfl := List.mem_singleton.mp (hleases ▸ hl)
  intro hfreed
  exact Guest.Machine.not_freed_of_root (Guest.Machine.mem_rootPlaces_of_value hm.root) ((m.mem_freedPlaces _).mp hfreed).2

end

/-- In a fresh context guest code makes a function of the host, calls it twice, the second time while it converts the
arguments for the first, and waits for the host. -/
theorem Play.exists_calling_new {p : Position} {c : ContextId} {n : Nat} (hturn : p.HostMoves)
    (hknown : c.index < p.world.contexts.size) (hfree : p.world.contextObstacle? c = none)
    (hleases : (p.world.context c).leases = []) (hregistry : (p.world.context c).registry = Registry.ofLimit n)
    (hbegun : (p.world.context c).begun = []) (f : HostFn) :
    ∃ ms w m, Play p ms ⟨w, p.held, .waiting c (fun _ => .call ⟨⟨0, 0⟩, f⟩ [] m.mended fun _ =>
        .done (Except.ok () : Except Error Unit) m.mended) :: p.work⟩ ∧ ms.length = 5 ∧
      w.life = (p.world.enter c).life ∧ m = ((p.world.machineFor c).holdingNew ⟨0, 0⟩).mended ∧
      (∀ c' ≠ c, w.context c' = p.world.context c') ∧ w.context c = { p.world.context c with
        machine := m
        registry := (Registry.ofLimit n).occupy 0 f
        leases := [⟨(p.world.context c).machine.objects.size, ⟨0, 0⟩⟩]
        begun := [⟨⟨0, 0⟩, f⟩] } := by
  obtain ⟨hopen, -⟩ := World.contextObstacle_eq_none.mp hfree
  have hobjects := p.world.objects_machineFor c
  obtain ⟨w, held, work⟩ := p
  have henter := Step.enter (callWithinCall f) hturn hknown hfree
  generalize hm : w.machineFor c = m at hobjects henter
  obtain ⟨k, hrun, hk⟩ := callWithinCall_run f Guest.Engine.standard m
  obtain ⟨k', hk, hk'⟩ := hk ⟨0, 0⟩
  obtain ⟨w₁, hregister, hlife₁, hother₁, hcontext₁⟩ := Step.exists_registered (w := w.enter c) held work (m := m) f k
    hknown hopen hleases hregistry
  have hknown₁ : c.index < w₁.contexts.size := World.size_contexts_of_life hlife₁ ▸ hknown
  obtain ⟨w₂, hbegin, hlife₂, hother₂, hcontext₂⟩ := Step.exists_begun held work (m := m.holdingNew ⟨0, 0⟩) k' hknown₁
    (h := ⟨0, 0⟩) (f := f) (by rw [hcontext₁]; exact Registry.get?_first n f)
  have hknown₂ : c.index < w₂.contexts.size := World.size_contexts_of_life hlife₂ ▸ hknown₁
  obtain ⟨w₃, hagain, hlife₃, hother₃, hcontext₃⟩ := Step.exists_begun held work (m := m.holdingNew ⟨0, 0⟩)
    (makesCalls (m.holdingNew ⟨0, 0⟩) f) hknown₂
    (h := ⟨0, 0⟩) (f := f) (by rw [hcontext₂, hcontext₁]; exact Registry.get?_first n f)
  have hknown₃ : c.index < w₃.contexts.size := World.size_contexts_of_life hlife₃ ▸ hknown₂
  have hholds : (m.holdingNew ⟨0, 0⟩).mended.HoldsNew (w.context c).machine.objects.size :=
    hobjects ▸ (Guest.Machine.holdsNew_holdingNew m ⟨0, 0⟩).mended
  have hcall : Step ⟨w₃, held, .running c (.call ⟨⟨0, 0⟩, f⟩ [] (m.holdingNew ⟨0, 0⟩).mended fun _ =>
      .call ⟨⟨0, 0⟩, f⟩ [] (m.holdingNew ⟨0, 0⟩).mended.mended fun _ =>
        .done (Except.ok () : Except Error Unit) (m.holdingNew ⟨0, 0⟩).mended.mended) :: work⟩ _ _ := .call
  rw [World.makeCall, World.reap_of_holdsNew hholds (by rw [hcontext₃, hcontext₂, hcontext₁, hobjects]) hknown₃] at hcall
  rw [hrun] at henter
  rw [hk] at hregister
  rw [hk'] at hbegin
  have hmade := World.context_modifyContext_self (w := w₃.setMachine c (m.holdingNew ⟨0, 0⟩).mended) (c := c)
    (fun s => { s with begun := s.begun.erase ⟨⟨0, 0⟩, f⟩ }) (by rwa [World.size_contexts_setMachine])
  refine ⟨_, _, _, ((((one henter).append (one hregister)).append (one hbegin)).append (one hagain)).append
    (one hcall), rfl, ?_, hm ▸ rfl, fun c' hc' => ?_, ?_⟩
  · refine (World.life_modifyContext _ c (fun s => { s with begun := s.begun.erase ⟨⟨0, 0⟩, f⟩ }) fun _ => ⟨rfl, rfl⟩).trans ?_
    rw [World.life_setMachine, hlife₃, hlife₂, hlife₁]
  · rw [World.context_modifyContext_of_ne _ hc', World.context_setMachine_of_ne hc', hother₃ _ hc', hother₂ _ hc',
      hother₁ _ hc']
    rfl
  · rw [hmade, World.context_setMachine_self _ hknown₃, hcontext₃, hcontext₂, hcontext₁, hobjects]
    simp [World.enter, hbegun]

end Embedding
