import Embedding.Proofs.Calling
import Embedding.Proofs.Making
import Embedding.Proofs.Origins
import Embedding.Proofs.Panics

namespace Embedding

theorem Guest.Realm.borrows_initial : initial.borrows = 0 := rfl

namespace Operation

variable (op : Operation) (w : World)

theorem borrows_apply (c : ContextId) :
    ((op.apply w).context c).machine.borrows = (w.context c).machine.borrows := by
  by_cases hmakes : (Move.operate op).MakesIn w c
  · cases op with
    | newContext r =>
      have hnew : c.index = w.contexts.size := hmakes
      have hbefore : (w.context c).machine.borrows = 0 := by simp [World.context, hnew]; rfl
      simp only [apply]
      split
      · rfl
      · rw [hbefore]
        simp only [World.addContext, World.context_report, World.context_modifyRuntime]
        simp only [World.context, Array.getD_eq_getD_getElem?, hnew, Array.getElem?_push_size, Option.getD_some]
        exact Guest.Realm.borrows_initial
    | _ => exact hmakes.elim
  · rw [machine_apply hmakes]

end Operation

namespace Guest.Run

variable {α : Type}

theorem GivesBack.final {n : Nat} {run : Run α} {m : Machine} (h : run.GivesBack n) (hend : run.final? = some m) :
    m.borrows = n := by
  cases run with
  | done a m' | threw v m' | stopped why m' =>
    cases hend
    exact h
  | ask q m' resume | call begun args m' resume => cases hend

/-- A run that calls functions of the host on such machines only. -/
def CallsWith (P : Machine → Prop) : Run α → Prop
  | .done .. | .threw .. | .stopped .. => True
  | .ask _ _ resume => ∀ r, (resume r).CallsWith P
  | .call _ _ m resume => P m ∧ ∀ r, (resume r).CallsWith P

variable {P : Machine → Prop} {x : Run α}

theorem GivesBack.callsWith {n : Nat} (h : x.GivesBack n) : x.CallsWith fun m => n ≤ m.borrows := by
  induction x with
  | done a m | threw v m | stopped why m => exact trivial
  | ask q m resume ih => exact fun r => ih r (h.2 r)
  | call begun args m resume ih => exact ⟨h.1, fun r => ih r (h.2 r)⟩

theorem CallsWith.leaving (h : x.CallsWith P) (f : Machine → Machine) : (x.leaving f).CallsWith P := by
  induction x with
  | done a m | threw v m | stopped why m => exact trivial
  | ask q m resume ih => exact fun r => ih r (h r)
  | call begun args m resume ih => exact ⟨h.1, fun r => ih r (h.2 r)⟩

end Guest.Run

namespace Guest.Bridge

variable {e : Engine} {m : Machine} {o : ObjectId}

theorem run_kindOf : (kindOf o).run e m = .ask .isReleased m fun released =>
    if released then .done (.error (.freed .context)) m
    else ((testKinds o).run e m.borrowed).leaving fun m' => { m' with borrows := m.borrows } := by
  unfold kindOf
  rw [run_bind]
  apply congrArg (Run.ask .isReleased m)
  funext released
  cases released <;> rfl

/-- A function of the host that is called while the kind of an object is told finds the builtins borrowed. -/
theorem kindOf_callsWith (e : Engine) (m : Machine) (o : ObjectId) :
    ((kindOf o).run e m).CallsWith fun m' => m.borrows < m'.borrows := by
  rw [run_kindOf]
  intro released
  cases released with
  | true => exact trivial
  | false => exact (((testKinds o).run e).givesBack m.borrowed).callsWith.leaving _

end Guest.Bridge

namespace Activity

/-- Whether work gives back all that it has borrowed. -/
def GivesBack : Activity → Prop
  | running _ run => run.GivesBack 0
  | waiting _ resume => ∀ r, (resume r).GivesBack 0
  | dropping _ rest => rest.GivesBack 0

/-- Work that waits for the host, to call a function or to drop some. -/
def Waits : Activity → Prop
  | running .. => False
  | waiting .. | dropping .. => True

end Activity

/-- Only work under way has borrowed anything, and will give it back. All work waits but the innermost. -/
structure Position.Owes (p : Position) : Prop where
  givesBack : ∀ a ∈ p.work, a.GivesBack
  rest : ∀ c, c ∉ p.work.map Activity.context → (p.world.context c).machine.borrows = 0
  waits : ∀ a ∈ p.work.tail, a.Waits

theorem Position.Owes.waits_of_hostMoves {p : Position} (h : p.Owes) (hturn : p.HostMoves) : ∀ a ∈ p.work, a.Waits := by
  obtain ⟨w, held, work⟩ := p
  cases work with
  | nil => exact nofun
  | cons a work =>
    refine List.forall_mem_cons.mpr ⟨?_, h.waits⟩
    cases a with
    | running => exact hturn.elim
    | waiting | dropping => exact trivial

theorem World.borrows_leave {w : World} {c : ContextId} {m : Guest.Machine} (hknown : c.index < w.contexts.size) :
    (((w.setMachine c m).leave c).context c).machine.borrows = m.borrows := by
  rw [World.context_leave_self (by rwa [World.size_contexts_setMachine]), World.context_setMachine_self _ hknown]
  rfl

theorem Step.owes {p q : Position} {m : Move} (hstep : Step p m q)
    (hseated : Seated p.world (p.work.map Activity.context)) (h : p.Owes) : q.Owes := by
  have hrest (hmakes : ∀ c, m.MakesIn p.world c → c ∈ p.work.map Activity.context) (c : ContextId)
      (hc : c ∉ p.work.map Activity.context) : (q.world.context c).machine.borrows = 0 := by
    rw [hstep.machine_of_not_makesIn fun hm => hc (hmakes c hm)]
    exact h.rest c hc
  have hhead {a : Activity} {work : List Activity} (hwork : p.work = a :: work) : a.GivesBack ∧ ∀ b ∈ work, b.GivesBack :=
    List.forall_mem_cons.mp (hwork ▸ h.givesBack)
  cases hstep with
  | operate op => exact ⟨h.givesBack, fun c hc => (op.borrows_apply p.world c).trans (h.rest c hc), h.waits⟩
  | @enter p c α x hturn hc hfree =>
    have hgives := (x.caught.run Guest.Engine.standard).givesBack (p.world.machineFor c)
    rw [p.world.borrows_machineFor, h.rest c (hseated.not_mem_of_free hfree)] at hgives
    exact ⟨List.forall_mem_cons.mpr ⟨hgives, h.givesBack⟩,
      fun c' hc' => h.rest c' fun hmem => hc' (List.mem_cons_of_mem _ hmem), h.waits_of_hostMoves hturn⟩
  | answer | refuse =>
    obtain ⟨hrun, hwork⟩ := hhead rfl
    exact ⟨List.forall_mem_cons.mpr ⟨hrun.2 _, hwork⟩, hrest fun c hc => hc ▸ List.mem_cons_self, h.waits⟩
  | free =>
    obtain ⟨hrun, hwork⟩ := hhead rfl
    exact ⟨List.forall_mem_cons.mpr ⟨hrun, hwork⟩, hrest fun c hc => hc ▸ List.mem_cons_self, h.waits⟩
  | dropped =>
    obtain ⟨hrun, hwork⟩ := hhead rfl
    exact ⟨List.forall_mem_cons.mpr ⟨hrun, hwork⟩, hrest fun _ => False.elim, h.waits⟩
  | call =>
    obtain ⟨hrun, hwork⟩ := hhead rfl
    exact ⟨List.forall_mem_cons.mpr ⟨hrun.2, hwork⟩, hrest fun c hc => hc ▸ List.mem_cons_self, h.waits⟩
  | reply r =>
    obtain ⟨hresume, hwork⟩ := hhead rfl
    exact ⟨List.forall_mem_cons.mpr ⟨hresume r, hwork⟩, hrest fun _ => False.elim, h.waits⟩
  | @leave w held work c α run m hend =>
    obtain ⟨hrun, hwork⟩ := hhead rfl
    refine ⟨hwork, fun c' hc' => ?_, fun a ha => h.waits a (List.mem_of_mem_tail ha)⟩
    by_cases hc : c' = c
    · subst hc
      exact (World.borrows_leave (hseated.known c' List.mem_cons_self)).trans (hrun.final hend)
    · refine hrest (fun c hc => hc ▸ List.mem_cons_self) c' fun hmem => ?_
      exact (List.mem_cons.mp hmem).elim hc hc'

theorem Position.Reachable.owes {p : Position} (hp : p.Reachable) : p.Owes := by
  obtain ⟨ms, hplay⟩ := hp
  refine (hplay.keeps (P := fun p => p.Reachable ∧ p.Owes) (fun hstep hp => ⟨?_, ?_⟩) ⟨⟨[], .nil⟩, ?_⟩).2
  · exact hp.1.append (.one hstep)
  · exact hstep.owes hp.1.seated hp.2
  · exact ⟨nofun, fun c _ => rfl, nofun⟩

theorem World.machine_makeCall {w : World} {c : ContextId} {m : Guest.Machine} (call : PendingCall)
    (hknown : c.index < w.contexts.size) : (((w.setMachine c m).makeCall c call).context c).machine = m := by
  rw [((w.setMachine c m).lightens_makeCall call c).machine, World.setMachine, World.context_modifyContext_self _ hknown]

/-- What contexts lend, after the moves of a play. -/
structure Lending (ms : List (Position × Move)) (p : Position) : Prop where
  /-- The host has panicked just if it has released a context that had lent its builtins or its registry, or has ended a
  registration where the registry was lent. -/
  panicked : p.world.panicked = true ↔ ∃ pm ∈ ms, pm.2.TakesLent pm.1.world
  /-- The builtins that are borrowed are given back when the work ends. -/
  rest : ∀ c, c ∉ p.work.map Activity.context → (p.world.context c).machine.borrows = 0
  /-- A registry is lent when a function is refused because the registry is full, and at no other time. -/
  refuses : ∀ m q c, Step p m q → c ∈ q.world.borrowed → c ∉ p.world.borrowed →
    ∃ f limit, (p.world.context c).isReleased = false ∧ m = .answer c (.register f) (.error (.registryFull limit))
  drops : ∀ c ∈ p.world.borrowed, ∃ (α : Type) (rest : Guest.Run α), Activity.dropping c rest ∈ p.work
  /-- Work that registers functions or looks for them never finds the registry lent. -/
  owns : ∀ c, p.RunsIn c → c ∉ p.world.borrowed
  /-- While it is the turn of the host, contexts lend only to work that waits for a function of the host, or for the host to
  drop functions. -/
  waits : p.HostMoves → ∀ c, p.world.Lends c → ∃ a ∈ p.work, a.context = c ∧ a.Waits
  /-- A function of the host that is called finds its context lending, if that is open and the call is made while something
  is borrowed. -/
  called : ∀ c call args q, Step p (.call c call args) q →
    ∃ (α : Type) (m : Guest.Machine) (resume : Except String Native → Guest.Run α) (work : List Activity),
      p.work = .running c (.call call args m resume) :: work ∧
      (q.world.Lends c ↔ (p.world.context c).isReleased = false ∧ 0 < m.borrows)
  /-- Each call that is made while the kind of an object is told is of that sort. -/
  tells : ∀ c o, ((Guest.Bridge.kindOf o).run Guest.Engine.standard (p.world.machineFor c)).CallsWith
    fun m => (p.world.context c).machine.borrows < m.borrows

theorem Step.refuses {p q : Position} {m : Move} {c : ContextId} (hstep : Step p m q)
    (hseated : Seated p.world (p.work.map Activity.context)) (hlent : p.Lent) (hafter : c ∈ q.world.borrowed)
    (hbefore : c ∉ p.world.borrowed) :
    ∃ f limit, (p.world.context c).isReleased = false ∧ m = .answer c (.register f) (.error (.registryFull limit)) := by
  have hsame (hborrowed : q.world.borrowed = p.world.borrowed) : False := hbefore (hborrowed ▸ hafter)
  cases hstep with
  | operate op => exact (hsame (op.panicsIf_apply fun c hc => hlent.known hseated hc).borrowed).elim
  | enter | reply => exact (hsame rfl).elim
  | @answer w held work c' α q m resume =>
    have hown : c' ∉ (w.setMachine c' m).borrowed := hlent.not_borrowed hseated
    exact (hsame (World.PanicsIf.answer hown q).borrowed).elim
  | @free w held work c' α q m resume =>
    have hown : c' ∉ (w.setMachine c' m).borrowed := hlent.not_borrowed hseated
    exact (hsame (World.PanicsIf.reap_of_own hown).borrowed).elim
  | @call w held work c' α call args m resume =>
    have hown : c' ∉ (w.setMachine c' m).borrowed := hlent.not_borrowed hseated
    exact (hsame (World.PanicsIf.makeCall hown call).borrowed).elim
  | @leave w held work c' α run m hend =>
    have hown : c' ∉ (w.setMachine c' m).borrowed := hlent.not_borrowed hseated
    exact (hsame (World.PanicsIf.leave hown).borrowed).elim
  | dropped => exact absurd (List.mem_of_mem_filter hafter) hbefore
  | @refuse w held work c' α q m resume hrefused =>
    have hown : c' ∉ (w.setMachine c' m).borrowed := hlent.not_borrowed hseated
    rcases List.mem_cons.mp hafter with rfl | hafter
    · obtain ⟨hopen, f, limit, rfl, hfull⟩ := World.refused_answer hrefused
      rw [World.isReleased_of_life (w.life_setMachine c m)] at hopen
      exact ⟨f, limit, hopen, congrArg (Move.answer c (.register f)) hfull⟩
    · exact absurd ((World.PanicsIf.answer hown q).borrowed ▸ hafter) hbefore

namespace Play

variable {p q : Position} {ms : List (Position × Move)}

theorem panicked_iff (hplay : Play p ms q) (hp : p.Reachable) :
    q.world.panicked = true ↔ p.world.panicked = true ∨ ∃ pm ∈ ms, pm.2.TakesLent pm.1.world := by
  induction hplay with
  | nil => simp
  | cons hstep _ ih =>
    rw [ih (hp.append (.one hstep)), hstep.panicked_iff hp.seated hp.lent, or_assoc]
    simp

end Play

namespace Guest

variable {α β : Type}

/-- A run that first begins a call of a function of the host, and makes it when the function is found. -/
def Run.CallsFirst (h : Handle) (m : Machine) (x : Run α) : Prop :=
  ∃ (k : Option HostFn → Run α) (k' : HostFn → Except String Native → Run α), x = .ask (.beginCall h) m k ∧
    ∀ f, k (some f) = .call ⟨h, f⟩ [] m.mended (k' f)

namespace Run.CallsFirst

variable {h : Handle} {m : Machine} {x : Run α} (hx : x.CallsFirst h m)
include hx

theorem andThen (f : α → Machine → Run β) : (x.andThen f).CallsFirst h m := by
  obtain ⟨k, k', rfl, hk⟩ := hx
  exact ⟨_, _, rfl, fun g => congrArg (Run.andThen · f) (hk g)⟩

theorem orElse (f : Value → Machine → Run α) : (x.orElse f).CallsFirst h m := by
  obtain ⟨k, k', rfl, hk⟩ := hx
  exact ⟨_, _, rfl, fun g => congrArg (Run.orElse · f) (hk g)⟩

theorem leaving (f : Machine → Machine) : (x.leaving f).CallsFirst h m := by
  obtain ⟨k, k', rfl, hk⟩ := hx
  exact ⟨_, _, rfl, fun g => congrArg (Run.leaving · f) (hk g)⟩

end Run.CallsFirst

def Property.got (g : ObjectId) : Property := ⟨.accessor (.object g) .undefined, true, true⟩

section

variable {n : Nat} {m : Machine} {o c g : ObjectId} {x y : Object} {h : Handle}
  (hg : m.objects[g]? = some (Machine.functionOf h))
include hg

theorem Act.get_callsFirst {k : Key} {receiver : Value} (hx : m.objects[c]? = some x) (hreads : x.Reads k (some (.got g))) :
    ((Engine.ofLevel (n + 2)).get c k receiver m).CallsFirst h (m.rooted [.object g]) := by
  rw [Act.get_eq hx hreads]
  show (Act.callValue (.object g) receiver [] (Engine.ofLevel n) m).CallsFirst h _
  unfold Act.callValue
  rw [Act.run_bind_of_done (Act.run_object hg)]
  show (Act.holding [.object g] (Bridge.callHost h []) (Engine.ofLevel n) m).CallsFirst h _
  rw [Act.run_holding]
  exact .leaving ⟨_, _, rfl, fun _ => rfl⟩ _

theorem Bridge.testKinds_callsFirst (hx : m.objects[Intrinsic.bufferConstructor]? = some x)
    (hreads : x.Reads (.symbol Symbol.hasInstance) (some (.got g))) (ho : m.objects[o]? = some y)
    (hproxy : y.isProxy = false) (harray : y.isArray = false) :
    ((testKinds o).run (Engine.ofLevel (n + 2)) m).CallsFirst h (m.rooted [.object g]) := by
  have hpasses := run_passes_isArray (n := n + 1) ho hproxy
  rw [harray] at hpasses
  have htest : (isInstanceOf o .buffer (Engine.ofLevel (n + 2)) m).CallsFirst h (m.rooted [.object g]) :=
    .orElse (.andThen (Act.get_callsFirst hg hx hreads) _) _
  unfold testKinds
  rw [run_bind, run_ofGuest, hpasses]
  show ((ofGuest (firstKind o (.buffer :: Kind.builtins.tail.tail)) >>= _ : Bridge Kind).run _ m).CallsFirst h _
  rw [run_bind, run_ofGuest, firstKind, Act.run_bind]
  exact ((htest.andThen _).andThen _).andThen _

end

def Bridge.kindWithGetter (f : HostFn) : Bridge Kind := do
  let o := (← ofGuest Act.machine).objects.size
  let _ ← registering f
  ofGuest (Act.putProperty Intrinsic.bufferConstructor (.symbol Symbol.hasInstance) (.got o))
  kindOf o

theorem Object.reads_change_putProperty {x : Object} {b : Builtin} {k : Key} {p : Property} (hb : x.payload = .builtin b)
    (hp : p.slot ≠ .lazyPrototype) : (x.change fun x => x.putProperty k p).Reads k (some p) := by
  have hnone : x.handle? = none := by simp [handle?, hb]
  have hnone' : (x.putProperty k p).handle? = none := by simp [handle?, hb]
  rw [change_eq rfl hnone hnone']
  refine reads_of_isTable (by rw [payload_putProperty, hb]; rfl) (by rw [property?_putProperty, if_pos rfl]) ?_
  rintro _ ⟨⟩
  exact hp

/-- The machine with a new function of the host that is the getter of the test for buffers. -/
def Machine.withGetter (m : Machine) (h : Handle) : Machine :=
  { m with objects := (m.objects.push (functionOf h)).modify Intrinsic.bufferConstructor fun x =>
      x.change fun x => x.putProperty (.symbol Symbol.hasInstance) (.got m.objects.size) }

section

variable {m : Machine} (hm : m.objects = Realm.initial.objects) (h : Handle)
include hm

theorem Machine.bufferConstructor_lt : Intrinsic.bufferConstructor < m.objects.size := by
  have hsite := constructorSite_of_kind (k := .buffer) rfl nofun
  rw [hm]
  exact (Array.getElem?_eq_some_iff.mp (Realm.getElem?_initial hsite.isSome_siteAt?)).1

theorem Machine.getElem?_withGetter_last : (m.withGetter h).objects[m.objects.size]? = some (functionOf h) := by
  rw [withGetter, Array.getElem?_modify, if_neg (Nat.ne_of_lt (bufferConstructor_lt hm))]
  exact Array.getElem?_push_size

theorem Machine.exists_withGetter_bufferConstructor : ∃ x, (m.withGetter h).objects[Intrinsic.bufferConstructor]? = some x ∧
    x.Reads (.symbol Symbol.hasInstance) (some (.got m.objects.size)) := by
  have hsite := constructorSite_of_kind (k := .buffer) rfl nofun
  obtain ⟨b, hb⟩ := hsite.exists_payload
  refine ⟨_, ?_, Object.reads_change_putProperty hb nofun⟩
  rw [withGetter, Array.getElem?_modify, if_pos rfl, Array.getElem?_push,
    if_neg (Nat.ne_of_lt (bufferConstructor_lt hm)), hm, Realm.getElem?_initial hsite.isSome_siteAt?, Option.map_some]

theorem Bridge.exists_kindWithGetter (f : HostFn) : ∃ K K',
    (kindWithGetter f).caught.run Engine.standard m = .ask (.register f) m K ∧
      K (.ok h) = .ask .isReleased (m.withGetter h) K' ∧
      (K' false).CallsFirst h ((m.withGetter h).borrowed.rooted [.object m.objects.size]) := by
  obtain ⟨x, hx, hreads⟩ := Machine.exists_withGetter_bufferConstructor hm h
  have hg := Machine.getElem?_withGetter_last hm h
  refine ⟨_, _, rfl, rfl, ?_⟩
  have hcalls := testKinds_callsFirst (n := 999998) (m := (m.withGetter h).borrowed) hg hx hreads hg rfl rfl
  exact (hcalls.leaving _).orElse _

end
end Guest

theorem Play.exists_called {w : World} {c : ContextId} {α : Type} {x : Guest.Run α} {h : Handle} {m : Guest.Machine}
    {f : HostFn} (held : List ContextId) (work : List Activity) (hx : x.CallsFirst h m)
    (hknown : c.index < w.contexts.size) (hf : (w.context c).registry.get? h = some f) :
    ∃ ms w' resume, Play ⟨w, held, .running c x :: work⟩ ms ⟨w', held, .waiting c (α := α) resume :: work⟩ ∧
      w'.life = w.life ∧ (w'.context c).machine = m.mended := by
  obtain ⟨k, k', rfl, hcall⟩ := hx
  obtain ⟨w₁, hbegun, hlife, -, -⟩ := Step.exists_begun (m := m) held work k hknown hf
  rw [hcall] at hbegun
  have hknown₁ : c.index < w₁.contexts.size := World.size_contexts_of_life hlife ▸ hknown
  exact ⟨_, _, k' f, (Play.one hbegun).append (.one .call), (World.life_called _ _ _ _).trans hlife,
    World.machine_makeCall _ hknown₁⟩

/-- While it is told what kind an object is of, a function of the host is called that may free the context. -/
theorem Play.exists_freedWhileTold : ∃ (ms : List (Position × Move)) (p : Position), Play {} ms p ∧ p.HostMoves ∧
    p.held = [⟨0⟩] ∧ Operation.TakesLent p.world (.freeContext ⟨0⟩) := by
  obtain ⟨w, hnew⟩ := exists_opened {} rfl
  obtain ⟨ms, hopened⟩ := hnew.reachable
  have hknown := hnew.known
  obtain ⟨hopen, -⟩ := World.contextObstacle_eq_none.mp hnew.free
  have hobjects := hnew.machine.objects
  have hmachine := World.machineFor_of_unlimited hnew.memoryLimit
  generalize (w.context ⟨0⟩).machine = m at hobjects hmachine
  obtain ⟨K, K', hrun, hregister, hcalls⟩ := Guest.Bridge.exists_kindWithGetter hobjects ⟨0, 0⟩ ⟨7⟩
  have henter : Step ⟨w, [⟨0⟩], []⟩ _ _ := .enter (c := ⟨0⟩) (Guest.Bridge.kindWithGetter ⟨7⟩) trivial hknown hnew.free
  rw [hmachine, hrun] at henter
  obtain ⟨w₁, hregistered, hlife₁, -, hcontext₁⟩ := Step.exists_registered (w := w.enter ⟨0⟩) (c := ⟨0⟩) (m := m) [⟨0⟩] [] ⟨7⟩
    K hknown hopen hnew.leases hnew.registry
  generalize m.withGetter ⟨0, 0⟩ = m₁ at hregister hcalls
  rw [hregister] at hregistered
  have hknown₁ : 0 < w₁.contexts.size := World.size_contexts_of_life hlife₁ ▸ hknown
  have hset := World.context_setMachine_self (c := ⟨0⟩) m₁ hknown₁
  have hopen₁ : ((w₁.setMachine ⟨0⟩ m₁).context ⟨0⟩).isReleased = false := by
    rw [hset, World.isReleased_of_life hlife₁]
    exact hopen
  have hanswered : Step ⟨w₁, [⟨0⟩], [.running ⟨0⟩ (.ask .isReleased m₁ K')]⟩
      (.answer ⟨0⟩ .isReleased ((w₁.setMachine ⟨0⟩ m₁).context ⟨0⟩).isReleased)
      ⟨w₁.setMachine ⟨0⟩ m₁, [⟨0⟩], [.running ⟨0⟩ (K' ((w₁.setMachine ⟨0⟩ m₁).context ⟨0⟩).isReleased)]⟩ := .answer
  rw [hopen₁] at hanswered
  obtain ⟨ns, w₂, resume, hcalled, hlife₂, hm₂⟩ := Play.exists_called [⟨0⟩] [] hcalls
    (w := w₁.setMachine ⟨0⟩ m₁) (by rwa [World.size_contexts_setMachine])
    (by rw [hset, hcontext₁]; exact Registry.get?_first _ ⟨7⟩)
  have hlends : w₂.Lends ⟨0⟩ := by
    rw [World.Lends, World.isReleased_of_life hlife₂, hm₂]
    exact ⟨hopen₁, .inl (Nat.succ_pos _)⟩
  exact ⟨_, _, (((hopened.append (.one henter)).append (.one hregistered)).append (.one hanswered)).append hcalled, trivial,
    rfl, ⟨0⟩, .inl ⟨rfl, hlends⟩⟩

/-- Guest code makes a function of the host, and then another, while it holds on to the first. -/
def Guest.Bridge.registerTwice (f g : HostFn) : Guest.Bridge Unit := do
  let o := (← ofGuest Act.machine).objects.size
  let _ ← registering f
  hold (.object o)
  let _ ← registering g

theorem Guest.Bridge.registerTwice_run (f g : HostFn) (e : Engine) (m : Machine) :
    ∃ (k : Except Error Handle → Run (Except Error Unit)) (k' : Handle → Except Error Handle → Run (Except Error Unit)),
      (registerTwice f g).caught.run e m = .ask (.register f) m k ∧
        ∀ h, k (.ok h) = .ask (.register g) (m.holdingNew h) (k' h) :=
  ⟨_, _, rfl, fun _ => rfl⟩

/-- Where one function is admitted the second is refused, and dropped. While it is, the host may unregister the first. -/
theorem Play.exists_unregisteredWhileDropped : ∃ (ms : List (Position × Move)) (p : Position), Play {} ms p ∧ p.HostMoves ∧
    p.held = [⟨0⟩] ∧ Operation.TakesLent p.world (.unregister ⟨0⟩ ⟨0, 0⟩) := by
  obtain ⟨w, hnew⟩ := exists_opened { maxCallbacks := 1 } rfl
  obtain ⟨ms, hopened⟩ := hnew.reachable
  have hknown := hnew.known
  obtain ⟨hopen, -⟩ := World.contextObstacle_eq_none.mp hnew.free
  have hmachine := World.machineFor_of_unlimited hnew.memoryLimit
  generalize (w.context ⟨0⟩).machine = m at hmachine
  obtain ⟨k, k', hrun, hregister⟩ := Guest.Bridge.registerTwice_run ⟨7⟩ ⟨8⟩ Guest.Engine.standard m
  have henter : Step ⟨w, [⟨0⟩], []⟩ _ _ := .enter (c := ⟨0⟩) (Guest.Bridge.registerTwice ⟨7⟩ ⟨8⟩) trivial hknown hnew.free
  rw [hmachine, hrun] at henter
  obtain ⟨w₁, hregistered, hlife₁, -, hcontext₁⟩ := Step.exists_registered (w := w.enter ⟨0⟩) (c := ⟨0⟩) (m := m) [⟨0⟩] [] ⟨7⟩
    k hknown hopen hnew.leases hnew.registry
  rw [hregister] at hregistered
  have hknown₁ : 0 < w₁.contexts.size := World.size_contexts_of_life hlife₁ ▸ hknown
  have hset := World.context_setMachine_self (c := ⟨0⟩) (m.holdingNew ⟨0, 0⟩) hknown₁
  have hfull : ((w₁.setMachine ⟨0⟩ (m.holdingNew ⟨0, 0⟩)).answer ⟨0⟩ (.register ⟨8⟩)).1 = .error (.registryFull 1) := by
    have hreap : (w₁.setMachine ⟨0⟩ (m.holdingNew ⟨0, 0⟩)).reap ⟨0⟩ = w₁.setMachine ⟨0⟩ (m.holdingNew ⟨0, 0⟩) := by
      refine World.reap_of_holdsNew (Guest.Machine.holdsNew_holdingNew m ⟨0, 0⟩) (h := ⟨0, 0⟩) ?_ hknown₁
      rw [hcontext₁]
    have hopen₁ : ((w.enter ⟨0⟩).context ⟨0⟩).isReleased = false := hopen
    have hinsert : ((Registry.ofLimit 1).occupy 0 ⟨7⟩).insert ⟨8⟩ = .error (.registryFull 1) := rfl
    simp only [World.answer, World.register, hreap, hset, hcontext₁, hopen₁, hinsert, Bool.false_eq_true, if_false]
  have hrefused : Step ⟨w₁, [⟨0⟩], [.running ⟨0⟩ (.ask (.register ⟨8⟩) (m.holdingNew ⟨0, 0⟩) (k' ⟨0, 0⟩))]⟩ _ _ :=
    .refuse (by rw [hfull]; rfl)
  exact ⟨_, _, ((hopened.append (.one henter)).append (.one hregistered)).append (.one hrefused), trivial, rfl, ⟨0⟩,
    .inr ⟨.inl ⟨_, rfl⟩, List.mem_cons_self⟩⟩

theorem Play.panics_of_takesLent {p : Position} {ms : List (Position × Move)} {op : Operation} (hplay : Play {} ms p)
    (hturn : p.HostMoves) (hallowed : op.allowed p.world p.held = true) (h : op.TakesLent p.world) :
    Play {} (ms ++ [(p, .operate op)]) (p.operate op) ∧ (p.operate op).world.panicked = true := by
  have hp : p.Reachable := ⟨ms, hplay⟩
  exact ⟨hplay.append (.one (.operate op hturn hallowed)),
    (op.panicsIf_apply fun _ hc => hp.lent.known hp.seated hc).panicked.mpr (.inr h)⟩

end Embedding
