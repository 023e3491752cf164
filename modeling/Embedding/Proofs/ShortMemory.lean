import Embedding.Proofs.Exclusive
import Embedding.Proofs.Making
import Embedding.Proofs.NoDangling
import Embedding.Proofs.WorkInside

namespace Embedding.Guest

/-- A map to which guest code has given a size of its own, and a function that makes an array to go through it. -/
def Object.arraying : Object where
  proto := some Intrinsic.mapPrototype
  properties := #[(Key.ofString "size", .plain (.ofNat 0)),
    (Key.ofString "forEach", .plain (.object Intrinsic.arrayConstructor))]
  payload := .map #[]

theorem Object.isOf_arraying : arraying.IsOf .map := ⟨rfl, rfl, rfl⟩

theorem Object.reads_arraying {name : String} {v : Value}
    (h : arraying.property? name = some (.plain v)) : arraying.Reads name (some (.plain v)) :=
  reads_of_isTable rfl h (by rintro _ ⟨⟩; nofun)

theorem Act.exists_run_raiseOutOfMemory {α : Type} (e : Engine) (m : Machine) :
    ∃ v m', (raiseOutOfMemory : Act α) e m = .threw v m' := ⟨_, _, rfl⟩

theorem Act.exists_run_charge {bytes : Nat} (e : Engine) {m : Machine} (h : ¬ m.HasRoom bytes) :
    ∃ v m', charge bytes e m = .threw v m' := by
  obtain ⟨v, m', hraise⟩ := exists_run_raiseOutOfMemory (α := Unit) e m
  refine ⟨v, m', ?_⟩
  unfold charge
  rw [run_bind_of_done run_machine]
  refine (run_congr (y := raiseOutOfMemory) ?_ e m).trans hraise
  split
  · next limit hlimit =>
    refine if_pos (Nat.lt_of_not_le fun hle => h fun limit' hlimit' => ?_)
    cases hlimit.symm.trans hlimit'
    exact hle
  · next hnone => exact absurd (fun limit hlimit => nomatch hnone.symm.trans hlimit) h

section

variable {e : Engine} {m : Machine} {this : Value} {f : ObjectId}

theorem Act.run_constructArray (h : m.HasRoom 16) :
    runBuiltin (.array .construct) this [.object f] .undefined e m =
      .done (.object m.objects.size) (m.made (.ofItems [.object f]) 16) := by
  show ((charge (16 * 1) >>= fun _ => newObject _ _ >>= fun o => pure (Value.object o)) : Act Value) e m = _
  rw [run_bind_of_done (run_charge h), run_bind_of_done (run_newObject rfl)]
  rfl

theorem Act.exists_run_constructArray (h : ¬ m.HasRoom 16) :
    ∃ v m', runBuiltin (.array .construct) this [.object f] .undefined e m = .threw v m' := by
  obtain ⟨v, m', hcharge⟩ := exists_run_charge e h
  refine ⟨v, m', ?_⟩
  show ((charge (16 * 1) >>= fun _ => newObject _ _ >>= fun o => pure (Value.object o)) : Act Value) e m = _
  rw [run_bind, hcharge]
  rfl

end

namespace Bridge

variable {e : Engine} {m m' : Machine} {log : List Exchange}

theorem gives_check {α : Type} {y : Act α} {a : α} (h : ((check y).run e m).Gives log (.ok a) m') :
    ∃ l m₁, (y e m).Gives l a m₁ := by
  rcases Run.gives_of_orElse (f := fun v m => (do return .error (.eval (← exceptionOf v)) : Act (Except Error α)) e m) h
    with h | ⟨v, m₁, l, h⟩
  · obtain ⟨l₁, _, b, m₁, -, hy, hreturn⟩ := Run.exists_of_gives_andThen h
    cases (Run.gives_done.mp hreturn).2.1
    exact ⟨l₁, m₁, hy⟩
  · obtain ⟨_, _, _, _, _, _, hreturn⟩ := Run.exists_of_gives_andThen h
    cases (Run.gives_done.mp hreturn).2.1

theorem gives_callMethod {o g : ObjectId} {name : String} {args : List Value} {y : Object} {v : Value}
    (hget : e.get o name (.object o) m = .done (.object g) m) (hy : m.objects[g]? = some y) (hcallable : y.isCallable = true)
    (h : ((callMethod o name args).run e m).Gives log (.ok v) m') :
    ∃ l m₁, (e.call (.object g) (.object o) args (m.rooted (.object g :: .object o :: args))).Gives l v m₁ := by
  rw [run_callMethod_eq hget hy hcallable] at h
  obtain ⟨l, m₁, hcall⟩ := gives_check h
  rw [Act.run_holding] at hcall
  obtain ⟨m₂, hcall, -⟩ := Run.gives_of_leaving hcall
  exact ⟨l, m₂, hcall⟩

end Bridge

theorem Machine.Unaltered.gives_kindOf {m m' : Machine} (h : m.Unaltered) {n : Nat} {o : ObjectId} {x : Object} {k k' : Kind}
    {log : List Exchange} (hdepth : m.depth < m.depthLimit) (hx : m.objects[o]? = some x) (hk : x.IsOf k) (hkind : k ≠ .array)
    (hgives : ((Bridge.kindOf o).run (Engine.ofLevel (n + 3)) m).Gives log (.ok k') m') : k' = k ∧ m' = m := by
  have hborrowed : m.borrowed.Unaltered := ⟨h.standing, h.functions⟩
  have harray := Bridge.run_isArray (m := m.borrowed) (n := n + 2) hx hk.isProxy
  rw [show x.isArray = false by simp [hk.isArray, hkind]] at harray
  have hchain := h.chain_of_isOf hx hk
  have htest := hborrowed.run_testKinds_of_climbs harray (fun _ _ _ => Act.climbs_of_chain hchain)
    (Nat.lt_of_lt_of_le (length_chainOf k) (Nat.le_add_left ..)) hdepth
  obtain ⟨_, _, _, m₁, -, hlive, hborrowing⟩ := Bridge.exists_of_gives_bind hgives
  obtain ⟨-, rfl⟩ := Bridge.gives_requireLive hlive
  obtain ⟨m₂, htested, rfl⟩ := Bridge.gives_borrowing hborrowing
  rw [htest] at htested
  rw [← Intrinsic.kindAmong_chainOf hkind, Intrinsic.kindAmong]
  split at htested
  · next k'' hfound =>
    cases htested with
    | ask htested =>
      obtain ⟨-, hk', rfl⟩ := Run.gives_done.mp htested
      rw [hfound]
      exact ⟨Except.ok.inj hk', rfl⟩
  · next hnone =>
    obtain ⟨-, hk', rfl⟩ := Run.gives_done.mp htested
    rw [hnone]
    exact ⟨Except.ok.inj hk', rfl⟩

structure Machine.HasArraying (m : Machine) (o : ObjectId) : Prop where
  unaltered : m.Unaltered
  object : m.objects[o]? = some .arraying
  depth : m.depth < m.depthLimit

namespace Machine.HasArraying

variable {m : Machine} {o : ObjectId} {n : Nat} (h : m.HasArraying o)
include h

theorem follows {m' : Machine} (hfollows : m.Follows (fun _ => True) m') : m'.HasArraying o :=
  ⟨h.unaltered.keep hfollows.keeps, hfollows.keeps o _ trivial h.object, hfollows.lt_depthLimit h.depth⟩

theorem exists_forEach (args : List Value) : ∃ y, m.objects[Intrinsic.arrayConstructor]? = some y ∧ y.isCallable = true ∧
    (Engine.ofLevel (n + 1)).get o "forEach" (.object o) m = .done (.object Intrinsic.arrayConstructor) m ∧
    (Engine.ofLevel (n + 1)).call (.object Intrinsic.arrayConstructor) (.object o) args (m.rooted (.object Intrinsic.arrayConstructor :: .object o :: args)) =
      (Act.runBuiltin (.array .construct) (.object o) args .undefined (Engine.ofLevel n)
        ((m.rooted (.object Intrinsic.arrayConstructor :: .object o :: args)).framed Intrinsic.arrayConstructor (.object o) args)).leaving
          (m.rooted (.object Intrinsic.arrayConstructor :: .object o :: args)).unframed := by
  have hpayload : (Realm.builtin Intrinsic.arrayConstructor).payload = .builtin (.array .construct) :=
    Realm.payload_builtin rfl
  have hsite : (Realm.siteAt? Intrinsic.arrayConstructor).isSome = true := by decide +kernel
  obtain ⟨y, hy, hpayload⟩ := h.unaltered.functions _ _ _ (Realm.getElem?_initial hsite) hpayload
  exact ⟨y, hy, by simp [Object.isCallable, hpayload], Act.get_own h.object (Object.reads_arraying (by decide +kernel)),
    Act.call_builtin (m := m.rooted _) hy hpayload h.depth rfl⟩

theorem run_size : (Bridge.countOf o "size").run (Engine.ofLevel (n + 1)) m = .done (.ok 0) m :=
  Bridge.run_countOf (Act.get_own h.object (Object.reads_arraying (by decide +kernel))) (by decide)

theorem exists_collector : ∃ m₁, (Bridge.ofGuest Bridge.newCollector).run (Engine.ofLevel (n + 1)) m =
      .done (.ok (m.objects.size, m.collections.size)) m₁ ∧
    m₁.HasArraying o ∧ m₁.collections[m.collections.size]? = some [] ∧ (m₁.HasRoom 16 ↔ m.HasRoom 16) := by
  obtain ⟨m₁, hnew, hfollows, -, hid⟩ := Act.exists_run_newCollector (e := Engine.ofLevel (n + 1)) (m := m)
  refine ⟨m₁, ?_, h.follows hfollows, hid, ?_⟩
  · rw [Bridge.run_ofGuest, hnew]
    rfl
  · obtain rfl : _ = m₁ := (Run.done.inj hnew).2
    exact Iff.rfl

theorem run_forEachCalls (hroom : m.HasRoom 16) :
    ∃ m', (Bridge.forEachCalls o).run (Engine.ofLevel (n + 1)) m = .done (.ok []) m' := by
  obtain ⟨m₁, hcollector, h₁, hid, hsame⟩ := h.exists_collector (n := n)
  obtain ⟨y, hy, hcallable, hget, hcall⟩ := h₁.exists_forEach (n := n) [.object m.objects.size]
  rw [Act.run_constructArray (m := (m₁.rooted _).framed _ _ _) (hsame.mpr hroom)] at hcall
  unfold Bridge.forEachCalls
  rw [Bridge.run_after hcollector, Bridge.run_after (Bridge.run_callMethod hget hy hcallable hcall), Bridge.run_ofGuest,
    Act.run_bind_of_done Act.run_machine]
  simp only [Machine.made, Machine.framed, Machine.unframed, Machine.rooted, hid]
  exact ⟨_, rfl⟩

theorem not_gives_forEachCalls (hroom : ¬ m.HasRoom 16) {log : List Exchange} {calls : List (List Value)} {m' : Machine} :
    ¬ ((Bridge.forEachCalls o).run (Engine.ofLevel (n + 1)) m).Gives log (.ok calls) m' := by
  intro hgives
  obtain ⟨m₁, hcollector, h₁, -, hsame⟩ := h.exists_collector (n := n)
  obtain ⟨y, hy, hcallable, hget, hcall⟩ := h₁.exists_forEach (n := n) [.object m.objects.size]
  have hnoRoom : ¬ ((m₁.rooted [.object Intrinsic.arrayConstructor, .object o, .object m.objects.size]).framed
      Intrinsic.arrayConstructor (.object o) [.object m.objects.size]).HasRoom 16 := mt hsame.mp hroom
  obtain ⟨v, m₂, hthrew⟩ := Act.exists_run_constructArray hnoRoom
  unfold Bridge.forEachCalls at hgives
  rw [Bridge.run_after hcollector] at hgives
  obtain ⟨_, _, v, m₃, -, hmethod, -⟩ := Bridge.exists_of_gives_bind hgives
  obtain ⟨l, m₄, hcalled⟩ := Bridge.gives_callMethod hget hy hcallable hmethod
  rw [hcall, hthrew] at hcalled
  exact Run.not_gives_threw hcalled

theorem rooted (vs : List Value) : (m.rooted vs).HasArraying o :=
  ⟨⟨h.unaltered.standing, h.unaltered.functions⟩, h.object, h.depth⟩

theorem kindOf_ends : (Bridge.kindOf o).Ends (Engine.ofLevel (n + 3)) m fun k m' => k = .map ∧ m' = m :=
  h.unaltered.kindOf_ends h.depth h.object Object.isOf_arraying

theorem toNative_ends (hroom : m.HasRoom 16) :
    (Bridge.toNative (.object o)).Ends (Engine.ofLevel (n + 3)) m fun v _ => v = .map [] := by
  have h' := h.rooted [.object o]
  obtain ⟨m', hcalls⟩ := (h'.rooted []).run_forEachCalls (n := n + 2) hroom
  apply Bridge.Ends.holding
  apply Bridge.Ends.andThen h'.kindOf_ends
  apply Bridge.Ends.bind (P := fun entries _ => entries = [])
  · unfold Bridge.mapEntries
    apply Bridge.Ends.after h'.run_size
    apply Bridge.Ends.holding
    apply Bridge.Ends.after hcalls
    exact .pure rfl
  · rintro _ _ rfl
    exact .pure rfl

theorem not_gives_toNative (hroom : ¬ m.HasRoom 16) {log : List Exchange} {v : Native} {m' : Machine} :
    ¬ ((Bridge.toNative (.object o)).run (Engine.ofLevel (n + 3)) m).Gives log (.ok v) m' := by
  intro hgives
  have h' := h.rooted [.object o]
  obtain ⟨m₁, htaken, -⟩ := Bridge.gives_holding hgives
  obtain ⟨l₁, _, k, m₂, -, hkind, htaken⟩ := Bridge.exists_of_gives_bind htaken
  obtain ⟨rfl, rfl⟩ := h'.unaltered.gives_kindOf h'.depth h'.object Object.isOf_arraying nofun hkind
  obtain ⟨_, _, _, _, -, hentries, -⟩ := Bridge.exists_of_gives_bind htaken
  unfold Bridge.mapEntries at hentries
  rw [Bridge.run_after h'.run_size] at hentries
  obtain ⟨_, hentries, -⟩ := Bridge.gives_holding hentries
  obtain ⟨_, _, _, _, -, hcalls, -⟩ := Bridge.exists_of_gives_bind hentries
  exact (h'.rooted []).not_gives_forEachCalls hroom hcalls

end Machine.HasArraying

end Embedding.Guest

namespace Embedding

def handMap : Guest.Bridge Nat := do
  let o ← Guest.Bridge.ofGuest (Guest.Act.alloc .arraying)
  Guest.Bridge.pin (.object o)

theorem handMap_run (e : Guest.Engine) (m : Guest.Machine) : handMap.caught.run e m =
    .ask (.pin (.object m.objects.size)) { m with objects := m.objects.push .arraying }
      fun n => .done (.ok n) { m with objects := m.objects.push .arraying } := rfl

theorem exists_handedMap {w : World} {held : List ContextId} {c : ContextId} {m : Guest.Machine}
    (hp : Position.Reachable ⟨w, held, []⟩) (hknown : c.index < w.contexts.size)
    (hfree : w.contextObstacle? c = none) (hleases : (w.context c).leases = []) (hpins : (w.context c).pins = {})
    (hbegun : (w.context c).begun = []) (hm : (w.context c).machine = m)
    (hrested : { m with objects := m.objects.push .arraying }.atRest = { m with objects := m.objects.push .arraying }) :
    ∃ w', Position.Reachable ⟨w', held, []⟩ ∧ w'.contexts.size = w.contexts.size ∧ w'.contextObstacle? c = none ∧
      (∀ c' ≠ c, w'.context c' = w.context c') ∧ w'.context c = { w.context c with
        machine := { m with objects := m.objects.push .arraying }
        pins := ⟨1, [(0, .object m.objects.size)]⟩ } := by
  obtain ⟨hopen, -⟩ := World.contextObstacle_eq_none.mp hfree
  obtain ⟨memory, hmemory⟩ := w.exists_machineFor c
  have henter := hp.step (.enter handMap trivial hknown hfree)
  dsimp only at henter
  rw [handMap_run, hmemory, hm] at henter
  generalize hmade : ({ m with memory, objects := m.objects.push .arraying } : Guest.Machine) = made at henter
  have hsize : made.objects.size = m.objects.size + 1 := hmade ▸ Array.size_push _
  have hrest : made.atRest = { m with objects := m.objects.push .arraying } := by rw [← hrested, ← hmade]; rfl
  obtain ⟨w', hleft, hsize', hfree', hothers, hcontext⟩ := exists_pinned henter hknown hopen hpins
    (hsize ▸ Nat.lt_succ_self _)
  rw [ContextState.reaped, ContextState.endLeases_eq_self (by rintro l hl; cases hleases ▸ hl), hrest] at hcontext
  refine ⟨w', hleft, hsize', hfree', hothers, ?_⟩
  rw [hcontext, ← hbegun]
  rfl

def ContextState.limited (limit : Nat) : ContextState where
  machine := { Guest.Realm.initial with
    depthLimit := callDepthLimit
    memoryLimit := some limit }
  registry := Registry.ofLimit ({} : Config).maxCallbacks

theorem Guest.Machine.storageInUse_limits (m : Machine) (depthLimit : Nat) (memoryLimit : Option Nat) (held : List Value) :
    Machine.storageInUse { m with depthLimit, memoryLimit } held = m.storageInUse held := by
  have hfreed := m.freedPlaces_limits m.memory depthLimit memoryLimit held
  show m.storageOf (List.range m.placeCount) - m.storageOf (Machine.freedPlaces { m with depthLimit, memoryLimit } held) = _
  rw [hfreed]
  rfl

theorem ContextState.runtime_limited (limit : Nat) : (limited limit).runtime = ⟨0⟩ := rfl

theorem ContextState.taken_limited (limit : Nat) :
    (limited limit).taken = contextFootprint + Guest.Realm.initial.storageInUse [] := by
  rw [taken, limited]
  exact congrArg (contextFootprint + ·) (Guest.Realm.initial.storageInUse_limits _ _ [])

/-- A host that has made two contexts in a runtime with so much memory, and nothing else. -/
structure Limited (limit : Nat) (w : World) : Prop where
  reachable : Position.Reachable ⟨w, [⟨1⟩, ⟨0⟩], []⟩
  size : w.contexts.size = 2
  free : w.contextObstacle? ⟨0⟩ = none
  context : w.context ⟨0⟩ = .limited limit
  context' : w.context ⟨1⟩ = .limited limit

theorem Position.Reachable.newContext {w : World} {held : List ContextId} {r : RuntimeId}
    (hp : Position.Reachable ⟨w, held, []⟩) (hr : r.index < w.runtimes.size) (hnone : w.newContextObstacle? r = none) :
    Position.Reachable ⟨(w.addContext r).2, ⟨w.contexts.size⟩ :: held, []⟩ := by
  have hmade := hp.step (.operate (.newContext r) trivial
    (by simp [Operation.allowed, Operation.runtime?, Operation.context?, hr]))
  simpa [Position.operate, Operation.apply, Operation.held, hnone, World.fst_addContext] using hmade

theorem World.context_addContext_limited {w : World} {r : RuntimeId} {c : ContextId} {limit n : Nat} (hc : c.index = w.contexts.size)
    (hr : r = ⟨0⟩) (hruntime : w.runtime r = { config := { memoryLimit := some limit }, openContexts := n }) :
    (w.addContext r).2.context c = .limited limit := by
  have hnew := World.context_addContext_new r hc
  rw [hruntime] at hnew
  unfold ContextState.limited
  generalize Guest.Realm.initial = m at hnew ⊢
  subst hr
  exact hnew

theorem exists_limited {limit : Nat}
    (h : contextFootprint + Guest.Realm.initial.storageInUse [] + contextFootprint ≤ limit) : ∃ w, Limited limit w := by
  have htaken := ContextState.taken_limited limit
  -- what it is must not be computed
  generalize Guest.Realm.initial.storageInUse [] = storage at h htaken
  have hobstacle {w : World} {n : Nat} (hruntime : w.runtime ⟨0⟩ = { config := { memoryLimit := some limit }, openContexts := n })
      (hmemory : w.memoryInUse ⟨0⟩ + contextFootprint ≤ limit) : w.newContextObstacle? ⟨0⟩ = none := by
    rw [World.newContextObstacle?, World.runtimeObstacle?, hruntime]
    exact if_neg (Nat.not_lt.mpr hmemory)
  obtain ⟨w₀, hw₀⟩ : ∃ w₀, w₀ = (({} : World).newRuntime { memoryLimit := some limit }).2 := ⟨_, rfl⟩
  have hstart : Position.Reachable {} := ⟨[], .nil⟩
  have hnew : Position.Reachable ⟨w₀, [], []⟩ :=
    hw₀ ▸ hstart.step (.operate (.newRuntime { memoryLimit := some limit }) trivial rfl)
  have hruntime₀ : w₀.runtime ⟨0⟩ = { config := { memoryLimit := some limit } } := by rw [hw₀]; rfl
  have hsize₀ : w₀.contexts.size = 0 := by rw [hw₀]; rfl
  have hknown₀ : (⟨0⟩ : RuntimeId).index < w₀.runtimes.size := by rw [hw₀]; exact Nat.one_pos
  have hone := hnew.newContext hknown₀ (hobstacle hruntime₀ (by
    rw [World.memoryInUse_eq, World.contextsOf, hsize₀]
    exact Nat.le_trans (by simp) h))
  rw [hsize₀] at hone
  have hcontext₁ : (w₀.addContext ⟨0⟩).2.context ⟨0⟩ = .limited limit := by
    exact World.context_addContext_limited hsize₀.symm rfl hruntime₀
  have hsize₁ : (w₀.addContext ⟨0⟩).2.contexts.size = 1 := by rw [World.size_contexts_addContext, hsize₀]
  have hruntime₁ : (w₀.addContext ⟨0⟩).2.runtime ⟨0⟩ = { config := { memoryLimit := some limit }, openContexts := 1 } := by
    rw [World.runtime_addContext, if_pos ⟨rfl, hknown₀⟩, hruntime₀]
  have hknown₁ : (⟨0⟩ : RuntimeId).index < (w₀.addContext ⟨0⟩).2.runtimes.size := by
    rwa [World.size_runtimes_addContext]
  generalize (w₀.addContext ⟨0⟩).2 = w₁ at *
  have htwo := hone.newContext hknown₁ (hobstacle hruntime₁ (by
    have hhome : (w₁.context ⟨0⟩).runtime = ⟨0⟩ := hcontext₁ ▸ ContextState.runtime_limited limit
    have hcontexts : w₁.contextsOf ⟨0⟩ = [⟨0⟩] := by simp [World.contextsOf, hsize₁, hhome]
    rwa [World.memoryInUse_eq, hcontexts, List.foldl_cons, List.foldl_nil, Nat.zero_add, hcontext₁, htaken]))
  rw [hsize₁] at htwo
  have hzero : (w₁.addContext ⟨0⟩).2.context ⟨0⟩ = .limited limit := by
    rw [World.context_addContext_of_ne _ (by rw [hsize₁]; exact Nat.zero_ne_one), hcontext₁]
  refine ⟨_, htwo, by rw [World.size_contexts_addContext, hsize₁], ?_, hzero, ?_⟩
  · refine World.contextObstacle_eq_none.mpr ⟨?_, ?_⟩
    · rw [hzero]
      rfl
    · rw [World.runtimeOf, hzero, ContextState.runtime_limited, World.runtime_addContext, if_pos ⟨rfl, hknown₁⟩, hruntime₁]
  · exact World.context_addContext_limited hsize₁.symm rfl hruntime₁

def ContextState.holdingMap (limit : Nat) : ContextState :=
  { limited limit with
    machine := { (limited limit).machine with objects := (limited limit).machine.objects.push .arraying }
    pins := ⟨1, [(0, .object (limited limit).machine.objects.size)]⟩ }

theorem ContextState.exists_taken_holdingMap : ∃ n, ∀ limit, (holdingMap limit).taken = contextFootprint + n := by
  rw [exists_congr fun n => forall_congr' fun limit => by rw [taken, holdingMap, limited]]
  generalize Guest.Realm.initial = m
  exact ⟨Guest.Machine.storageInUse { m with objects := m.objects.push .arraying } [.object m.objects.size], fun limit =>
    congrArg (contextFootprint + ·) (Guest.Machine.storageInUse_limits { m with objects := m.objects.push .arraying } _ _ _)⟩

theorem ContextState.atRest_holdingMap (limit : Nat) : (holdingMap limit).machine.atRest = (holdingMap limit).machine := by
  have htargets : Guest.Target.ofObject .arraying =
      [.object Guest.Intrinsic.arrayConstructor, .object Guest.Intrinsic.mapPrototype] := rfl
  have hproto : (Guest.Realm.siteAt? Guest.Intrinsic.mapPrototype).isSome = true := by decide +kernel
  have hctor : (Guest.Realm.siteAt? Guest.Intrinsic.arrayConstructor).isSome = true := by decide +kernel
  obtain ⟨hproto, -⟩ := Array.getElem?_eq_some_iff.mp (Guest.Realm.getElem?_initial hproto)
  obtain ⟨hctor, -⟩ := Array.getElem?_eq_some_iff.mp (Guest.Realm.getElem?_initial hctor)
  have hclosed := Guest.Realm.closed_initial.push (x := .arraying) fun t ht => by
    rw [htargets] at ht
    rcases List.mem_pair.mp ht with rfl | rfl
    · exact Guest.Target.known_object.mpr hctor
    · exact Guest.Target.known_object.mpr hproto
  have hnew := Guest.Machine.isNew_initial
  rw [holdingMap, limited]
  generalize Guest.Realm.initial = m at hclosed hnew
  have hlimited : Guest.Machine.Closed { m with
      objects := m.objects.push .arraying
      depthLimit := callDepthLimit
      memoryLimit := some limit } := { hclosed with }
  exact hlimited.atRest_eq hnew.roots hnew.frames hnew.depth hnew.memory

theorem ContextState.hasArraying_holdingMap (limit memory : Nat) (x : Guest.Value) :
    ({ (holdingMap limit).machine with memory } : Guest.Machine).heldOn x |>.HasArraying
      (limited limit).machine.objects.size where
  unaltered := Guest.Machine.unaltered_initial.keep (.push _)
  object := Array.getElem?_push_size
  depth := by show 0 < 300; decide

theorem World.toNative_holdingMap {w : World} {limit : Nat} (hfree : w.contextObstacle? ⟨0⟩ = none)
    (hcontext : w.context ⟨0⟩ = .holdingMap limit) {σ : Type} (handler : Handler σ) (s : σ) :
    (limit < w.memoryInUse ⟨0⟩ + 16 → ∀ n, (ValueRef.mk ⟨0⟩ 0).toNative.result handler w s ≠ .ok n) ∧
      (w.memoryInUse ⟨0⟩ + 16 ≤ limit → (ValueRef.mk ⟨0⟩ 0).toNative.result handler w s = .ok (.map [])) := by
  have hmachine : w.machineFor ⟨0⟩ = { (ContextState.holdingMap limit).machine with memory := w.memoryInUse ⟨0⟩ } := by
    simp only [World.machineFor, hcontext]
    rfl
  have hpin : (w.context ⟨0⟩).pins.find? 0 = some (.object (ContextState.limited limit).machine.objects.size) := by
    rw [hcontext]
    rfl
  have hmap := ContextState.hasArraying_holdingMap limit (w.memoryInUse ⟨0⟩)
    (.object (ContextState.limited limit).machine.objects.size)
  rw [← hmachine] at hmap
  constructor
  · intro hshort n hn
    obtain ⟨log, m', hgives⟩ := ValueRef.exists_gives_of_inside (v := ⟨⟨0⟩, 0⟩) hfree hpin hn
    refine hmap.not_gives_toNative (n := 999997) (fun hroom => ?_) hgives
    have hlimit := hroom limit (by rw [hmachine]; rfl)
    rw [hmachine] at hlimit
    exact Nat.not_le.mpr hshort hlimit
  · intro hroom
    have hends := hmap.toNative_ends (n := 999997) fun limit' hlimit' => ?_
    · obtain ⟨a, m, hresult, rfl, -⟩ := ValueRef.inside_of_ends (v := ⟨⟨0⟩, 0⟩) hfree hpin handler s hends
      exact hresult
    · rw [hmachine] at hlimit' ⊢
      cases hlimit'
      exact hroom

end Embedding
