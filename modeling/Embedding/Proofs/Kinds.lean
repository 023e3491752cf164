import Embedding.Proofs.Unaltered

namespace Embedding.Guest

/-- The prototypes of an object, the nearest first. -/
def Chain (objects : Array Object) : ObjectId → List ObjectId → Prop
  | o, [] => ∃ x, objects[o]? = some x ∧ x.isProxy = false ∧ x.proto = none
  | o, p :: ps => ∃ x, objects[o]? = some x ∧ x.isProxy = false ∧ x.proto = some p ∧ Chain objects p ps

namespace Act

/-- The engine tells these prototypes of an object one after another, the nearest first, and changes nothing. -/
inductive Climbs (e : Engine) (m : Machine) : ObjectId → List ObjectId → Prop
  | top {o : ObjectId} : e.prototype o m = .done none m → Climbs e m o []
  | up {o p : ObjectId} {ps : List ObjectId} : e.prototype o m = .done (some p) m → Climbs e m p ps →
      Climbs e m o (p :: ps)

variable {n : Nat} {m : Machine} {o c : ObjectId} {x : Object} {ps : List ObjectId}

theorem prototype_eq (hx : m.objects[o]? = some x) (hproxy : x.isProxy = false) :
    (Engine.ofLevel (n + 1)).prototype o m = .done x.proto m := by
  show prototypeRule o (Engine.ofLevel n) m = _
  rw [prototypeRule, run_unlessProxy hx hproxy]
  rfl

theorem climbs_of_chain (hchain : Chain m.objects o ps) : Climbs (Engine.ofLevel (n + 1)) m o ps := by
  induction ps generalizing o with
  | nil =>
    obtain ⟨x, hx, hproxy, hproto⟩ := hchain
    exact .top (hproto ▸ prototype_eq hx hproxy)
  | cons p ps ih =>
    obtain ⟨x, hx, hproxy, hproto, hrest⟩ := hchain
    exact .up (hproto ▸ prototype_eq hx hproxy) (ih hrest)

theorem run_climb_go {e : Engine} {proto : ObjectId} {rounds : Nat} (hclimbs : Climbs e m o ps)
    (hrounds : ps.length < rounds) :
    ordinaryInstance.climb.go proto rounds o e m = .done (decide (proto ∈ ps)) m := by
  induction hclimbs generalizing rounds with
  | top hnone =>
    obtain ⟨r, rfl⟩ : ∃ r, rounds = r + 1 := ⟨rounds - 1, by omega⟩
    rw [ordinaryInstance.climb.go, run_bind_of_done (show prototype _ e m = .done none m from hnone)]
    rfl
  | @up o p ps hsome _ ih =>
    obtain ⟨r, rfl⟩ : ∃ r, rounds = r + 1 := ⟨rounds - 1, by omega⟩
    rw [ordinaryInstance.climb.go, run_bind_of_done (show prototype _ e m = .done (some p) m from hsome)]
    by_cases hp : p = proto
    · simp [hp]
    · have hp' : (p == proto) = false := by simp [hp]
      simp only [hp', Bool.false_eq_true, if_false, List.mem_cons, Ne.symm hp, false_or]
      exact ih (by simp at hrounds; omega)

theorem run_ordinaryInstance {b : Builtin} {proto : ObjectId} (hx : m.objects[c]? = some x)
    (hb : x.payload = .builtin b) (hproto : x.Reads "prototype" (some (.constant (.object proto))))
    (hclimbs : Climbs (Engine.ofLevel (n + 1)) m o ps) (hshort : ps.length < m.objects.size + 1000) :
    ordinaryInstance (.object c) (.object o) (Engine.ofLevel (n + 1)) m = .done (decide (proto ∈ ps)) m := by
  have hcallable : x.isCallable = true := by simp [Object.isCallable, hb]
  have hget : get (.object c) "prototype" (Engine.ofLevel (n + 1)) m = .done (.object proto) m := get_own hx hproto
  simp only [ordinaryInstance]
  rw [run_bind_of_done (run_object hx)]
  simp only [hb, hcallable]
  show (get (.object c) "prototype" >>= _) _ m = _
  rw [run_bind_of_done hget]
  simp only [ordinaryInstance.climb]
  rw [run_bind_of_done run_machine]
  exact run_climb_go hclimbs hshort

end Act

/-- The prototype of the objects of a kind. -/
def Intrinsic.prototypeOf : Kind → ObjectId
  | .array => arrayPrototype
  | .buffer => bufferPrototype
  | .typed t => elementPrototype (.plain t)
  | .map => mapPrototype
  | .set => setPrototype
  | .date => datePrototype
  | .unknown => objectPrototype

structure ConstructorSite (k : Kind) (c : ObjectId) : Prop where
  crossing : c ∈ Intrinsic.crossing
  payload : ∃ b, (Realm.siteAt? c).map (·.payload) = some (.builtin b)
  prototype : ∃ key, Realm.member? c "prototype" = some (.data key (.constant (.object (Intrinsic.prototypeOf k))))
  hasInstance : Realm.member? c (.symbol Symbol.hasInstance) = none
  proto : (Realm.siteAt? c).map (·.proto) = some (some Intrinsic.functionPrototype) ∨
    (Realm.siteAt? c).map (·.proto) = some (some Intrinsic.typedArrayConstructor)

theorem constructorSite_of_kind {k : Kind} {c : ObjectId} (hk : Intrinsic.ofKind? k = some c) (hne : k ≠ .array) :
    ConstructorSite k c := by
  cases k with
  | array => exact absurd rfl hne
  | buffer | map | set | date =>
    cases hk
    exact ⟨by decide, ⟨_, rfl⟩, ⟨_, rfl⟩, rfl, .inl rfl⟩
  | typed t =>
    cases hk
    cases t <;> exact ⟨by decide, ⟨_, rfl⟩, ⟨_, rfl⟩, rfl, .inr rfl⟩
  | unknown => cases hk

namespace ConstructorSite

variable {k : Kind} {c : ObjectId} (h : ConstructorSite k c)
include h

theorem isSome_siteAt? : (Realm.siteAt? c).isSome = true := isSome_siteAt?_of_crossing c h.crossing

theorem exists_payload : ∃ b, (Realm.builtin c).payload = .builtin b := by
  obtain ⟨b, hb⟩ := h.payload
  exact ⟨b, Realm.payload_builtin hb⟩

theorem reads_prototype :
    (Realm.builtin c).Reads "prototype" (some (.constant (.object (Intrinsic.prototypeOf k)))) := by
  obtain ⟨b, hb⟩ := h.exists_payload
  obtain ⟨key, hkey⟩ := h.prototype
  exact Object.reads_of_isTable (hb ▸ rfl) (Realm.stands_builtin hkey) (by rintro _ ⟨⟩; nofun)

theorem reads_hasInstance : (Realm.builtin c).Reads (.symbol Symbol.hasInstance) none := by
  obtain ⟨b, hb⟩ := h.exists_payload
  exact Object.reads_of_isTable (hb ▸ rfl)
    (Realm.property?_builtin_of_absent h.isSome_siteAt? h.hasInstance) nofun

end ConstructorSite

namespace Machine.Unaltered

variable {m : Machine} (h : m.Unaltered) {n : Nat}
include h

theorem get_hasInstance_function (receiver : Value) : ∃ g y,
    (Engine.ofLevel (n + 1)).get Intrinsic.functionPrototype (.symbol Symbol.hasInstance) receiver m = .done (.object g) m ∧
      m.objects[g]? = some y ∧ y.payload = .builtin (.function .hasInstance) :=
  h.get_method receiver (by decide) rfl rfl

theorem get_hasInstance {k : Kind} {c : ObjectId} (hc : ConstructorSite k c) (receiver : Value) : ∃ g y,
    (Engine.ofLevel (n + 3)).get c (.symbol Symbol.hasInstance) receiver m = .done (.object g) m ∧
      m.objects[g]? = some y ∧ y.payload = .builtin (.function .hasInstance) := by
  rcases hc.proto with hproto | hproto
  · obtain ⟨g, y, hget, hy, hb⟩ := h.get_hasInstance_function (n := n + 1) receiver
    refine ⟨g, y, ?_, hy, hb⟩
    rw [Act.get_inherited (h.object hc.crossing) hc.reads_hasInstance (Realm.proto_builtin hproto)]
    exact hget
  · obtain ⟨g, y, hget, hy, hb⟩ := h.get_hasInstance_function (n := n) receiver
    refine ⟨g, y, ?_, hy, hb⟩
    rw [Act.get_inherited (h.object hc.crossing) hc.reads_hasInstance (Realm.proto_builtin hproto)]
    exact (h.get_absent (n := n + 1) receiver (by decide) rfl rfl rfl).trans hget

variable {o : ObjectId} {ps : List ObjectId} (hclimbs : ∀ (g : ObjectId) (this : Value) (args : List Value),
    Act.Climbs (Engine.ofLevel (n + 2)) (m.framed g this args) o ps) (hshort : ps.length < m.objects.size + 1000)
  (hdepth : m.depth < m.depthLimit)
include hclimbs hshort hdepth

theorem run_instanceOf {k : Kind} {c : ObjectId} (hc : ConstructorSite k c) :
    Act.instanceOf (.object o) (.object c) (Engine.ofLevel (n + 3)) m =
      .done (decide (Intrinsic.prototypeOf k ∈ ps)) m := by
  obtain ⟨g, y, hget, hy, hb⟩ := h.get_hasInstance (n := n) hc (.object c)
  obtain ⟨b, hpayload⟩ := hc.exists_payload
  have hrun : Act.runBuiltin (.function .hasInstance) (.object c) [.object o] .undefined (Engine.ofLevel (n + 2))
      (m.framed g (.object c) [.object o]) =
      .done (.bool (decide (Intrinsic.prototypeOf k ∈ ps))) (m.framed g (.object c) [.object o]) := by
    have hinstance := Act.run_ordinaryInstance (n := n + 1) (m := m.framed g (.object c) [.object o])
      (h.object hc.crossing) hpayload hc.reads_prototype (hclimbs g _ _) hshort
    show (Act.ordinaryInstance (.object c) (.object o) >>= _) _ _ = _
    rw [Act.run_bind_of_done hinstance]
    rfl
  have hcall := Act.call_builtin_of_done hy hb hdepth rfl hrun
  have hmethod : Act.get (.object c) (.symbol Symbol.hasInstance) (Engine.ofLevel (n + 3)) m =
    .done (.object g) m := hget
  unfold Act.instanceOf
  show (Act.get (.object c) (.symbol Symbol.hasInstance) >>= _) _ m = _
  rw [Act.run_bind_of_done hmethod]
  show (Act.call (.object g) (.object c) [.object o] >>= _) _ m = _
  rw [Act.run_bind_of_done (show Act.call (.object g) (.object c) [.object o] _ m = _ from hcall)]
  rfl

theorem run_isInstanceOf {k : Kind} {c : ObjectId} (hk : Intrinsic.ofKind? k = some c) (hne : k ≠ .array) :
    Bridge.isInstanceOf o k (Engine.ofLevel (n + 3)) m = .done (decide (Intrinsic.prototypeOf k ∈ ps)) m := by
  simp only [Bridge.isInstanceOf, hk, Bridge.passes]
  exact Act.run_tryCatch_of_done
    (h.run_instanceOf hclimbs hshort hdepth (constructorSite_of_kind hk hne)) _

theorem run_firstKind {ks : List Kind} (hks : ∀ k ∈ ks, (Intrinsic.ofKind? k).isSome = true ∧ k ≠ .array) :
    Bridge.firstKind o ks (Engine.ofLevel (n + 3)) m =
      .done (ks.find? fun k => Intrinsic.prototypeOf k ∈ ps) m := by
  induction ks with
  | nil => rfl
  | cons k ks ih =>
    obtain ⟨hsome, hne⟩ := hks k List.mem_cons_self
    obtain ⟨c, hc⟩ := Option.isSome_iff_exists.mp hsome
    rw [Bridge.firstKind, Act.run_bind_of_done (h.run_isInstanceOf hclimbs hshort hdepth hc hne), List.find?_cons]
    by_cases hmem : Intrinsic.prototypeOf k ∈ ps
    · simp only [hmem, decide_true, if_true]
      rfl
    · simp only [hmem, decide_false, Bool.false_eq_true, if_false]
      exact ih fun k' hk' => hks k' (List.mem_cons_of_mem k hk')

end Machine.Unaltered

/-- The prototypes of the objects of a kind. -/
def Intrinsic.chainOf : Kind → List ObjectId
  | .typed t => [elementPrototype (.plain t), typedArrayPrototype, objectPrototype]
  | .unknown => [functionPrototype, objectPrototype]
  | k => [prototypeOf k, objectPrototype]

/-- The kind that the prototypes of an object tell, unless it is an array. -/
def Intrinsic.kindAmong (ps : List ObjectId) : Kind :=
  (Kind.builtins.tail.find? fun k => prototypeOf k ∈ ps).getD .unknown

theorem find?_chainOf : ∀ k ∈ Kind.builtins.tail ++ [.unknown], Kind.builtins.tail.find? (fun k' =>
    decide (Intrinsic.prototypeOf k' ∈ Intrinsic.chainOf k)) = if k = .unknown then none else some k := by
  decide +kernel

theorem ofKind?_builtins : ∀ k ∈ Kind.builtins.tail, (Intrinsic.ofKind? k).isSome = true ∧ k ≠ .array := by
  decide +kernel

theorem mem_builtins {k : Kind} (h : k ≠ .array) : k ∈ Kind.builtins.tail ++ [.unknown] := by
  cases k with
  | typed t => cases t <;> decide
  | array => exact absurd rfl h
  | _ => decide

theorem length_chainOf (k : Kind) : (Intrinsic.chainOf k).length < 1000 := by
  cases k with
  | typed t => exact (by decide : 3 < 1000)
  | _ => exact (by decide : 2 < 1000)

theorem Intrinsic.kindAmong_chainOf {k : Kind} (h : k ≠ .array) : Intrinsic.kindAmong (Intrinsic.chainOf k) = k := by
  rw [Intrinsic.kindAmong, find?_chainOf k (mem_builtins h)]
  by_cases hunknown : k = .unknown
  · rw [if_pos hunknown, hunknown]
    rfl
  · rw [if_neg hunknown]
    rfl

/-- An object that the host can tell the kind of; one of no kind is a function. -/
structure Object.IsOf (x : Object) (k : Kind) : Prop where
  isProxy : x.isProxy = false
  isArray : x.isArray = (k == .array)
  proto : x.proto = (Intrinsic.chainOf k).head?

namespace Bridge

theorem kindOf_ends_of_isArray {e : Engine} {m : Machine} {o : ObjectId}
    (h : Act.isArray o e m.borrowed = .done true m.borrowed) :
    (kindOf o).Ends e m fun k m' => k = .array ∧ m' = m := by
  unfold kindOf
  apply Ends.andThen (.requireLive ⟨rfl, rfl⟩)
  apply Ends.borrowing
  apply Ends.andThen (.ofGuest (Act.run_tryCatch_of_done h _) ⟨rfl, rfl⟩)
  exact .pure ⟨rfl, rfl⟩

variable {m : Machine} {n : Nat} {o : ObjectId} {x : Object} (hx : m.objects[o]? = some x) (hproxy : x.isProxy = false)
include hx hproxy

theorem run_isArray : Act.isArray o (Engine.ofLevel (n + 1)) m = .done x.isArray m := by
  show Act.isArrayRule o (Engine.ofLevel n) m = _
  rw [Act.isArrayRule, Act.run_unlessProxy hx hproxy]
  rfl

theorem run_passes_isArray : passes (Act.isArray o) (Engine.ofLevel (n + 1)) m = .done x.isArray m :=
  Act.run_tryCatch_of_done (run_isArray hx hproxy) _

theorem kindOf_array_ends (harray : x.isArray = true) :
    (kindOf o).Ends (Engine.ofLevel (n + 1)) m fun k m' => k = .array ∧ m' = m :=
  kindOf_ends_of_isArray (harray ▸ run_isArray (m := m.borrowed) hx hproxy)

end Bridge

namespace Machine.Unaltered

variable {m : Machine} (h : m.Unaltered) {n : Nat} {o : ObjectId} {x : Object} {k : Kind}
include h

theorem chain_builtin {ps : List ObjectId} {p : ObjectId} (hp : p ∈ Intrinsic.crossing)
    (hsite : (Realm.siteAt? p).map (fun s => (s.proto, s.payload.isProxy)) = some (ps.head?, false))
    (hrest : ∀ q ∈ ps.head?, Chain m.objects q ps.tail) : Chain m.objects p ps := by
  obtain ⟨s, hs, hboth⟩ := Option.map_eq_some_iff.mp hsite
  obtain ⟨hproto, hnone⟩ := Prod.ext_iff.mp hboth
  have hproto' : (Realm.builtin p).proto = ps.head? := Realm.proto_builtin (by rw [hs]; exact congrArg some hproto)
  have hpayload : (Realm.builtin p).payload = s.payload := Realm.payload_builtin (by rw [hs]; rfl)
  have hproxy : (Realm.builtin p).isProxy = false := by rwa [Object.isProxy, hpayload]
  cases ps with
  | nil => exact ⟨_, h.object hp, hproxy, hproto'⟩
  | cons q ps => exact ⟨_, h.object hp, hproxy, hproto', hrest q rfl⟩

theorem chain_objectPrototype : Chain m.objects Intrinsic.objectPrototype [] :=
  h.chain_builtin (by decide) (by decide +kernel) nofun

theorem chain_typedArrayPrototype :
    Chain m.objects Intrinsic.typedArrayPrototype [Intrinsic.objectPrototype] := by
  refine h.chain_builtin (by decide) (by decide +kernel) ?_
  rintro _ ⟨⟩
  exact h.chain_objectPrototype

theorem chain_elementPrototype (t : ElementType) : Chain m.objects (Intrinsic.elementPrototype (.plain t))
    [Intrinsic.typedArrayPrototype, Intrinsic.objectPrototype] := by
  refine h.chain_builtin (by cases t <;> decide) (by cases t <;> decide +kernel) ?_
  rintro _ ⟨⟩
  exact h.chain_typedArrayPrototype

theorem chain_prototypeOf {p : ObjectId} (hp : p ∈ Intrinsic.crossing)
    (hsite : (Realm.siteAt? p).map (fun s => (s.proto, s.payload.isProxy)) =
      some (some Intrinsic.objectPrototype, false)) : Chain m.objects p [Intrinsic.objectPrototype] := by
  refine h.chain_builtin hp hsite ?_
  rintro _ ⟨⟩
  exact h.chain_objectPrototype

theorem chain_of_isOf (hx : m.objects[o]? = some x) (hk : x.IsOf k) : Chain m.objects o (Intrinsic.chainOf k) := by
  have hproto := hk.proto
  cases k with
  | typed t => exact ⟨x, hx, hk.isProxy, hproto, h.chain_elementPrototype t⟩
  | _ => exact ⟨x, hx, hk.isProxy, hproto, h.chain_prototypeOf (by decide) (by decide +kernel)⟩

theorem run_testKinds_of_climbs {ps : List ObjectId} (harray : Act.isArray o (Engine.ofLevel (n + 3)) m = .done false m)
    (hclimbs : ∀ (g : ObjectId) (this : Value) (args : List Value),
      Act.Climbs (Engine.ofLevel (n + 2)) (m.framed g this args) o ps)
    (hshort : ps.length < m.objects.size + 1000) (hdepth : m.depth < m.depthLimit) :
    (Bridge.testKinds o).run (Engine.ofLevel (n + 3)) m =
      match Kind.builtins.tail.find? fun k => decide (Intrinsic.prototypeOf k ∈ ps) with
      | some k => .ask (.report (.kindResolved k)) m fun _ => .done (.ok k) m
      | none => .done (.ok .unknown) m := by
  have htest : Bridge.passes (Act.isArray o) (Engine.ofLevel (n + 3)) m = .done false m :=
    Act.run_tryCatch_of_done harray _
  unfold Bridge.testKinds
  rw [Bridge.run_bind, Bridge.run_ofGuest, htest]
  simp only [Run.andThen, Bool.false_eq_true, if_false]
  rw [Bridge.run_bind, Bridge.run_ofGuest, h.run_firstKind (n := n) hclimbs hshort hdepth ofKind?_builtins]
  simp only [Run.andThen]
  cases Kind.builtins.tail.find? fun k => decide (Intrinsic.prototypeOf k ∈ ps) <;> rfl

theorem kindOf_ends_of_climbs {ps : List ObjectId}
    (harray : Act.isArray o (Engine.ofLevel (n + 3)) m.borrowed = .done false m.borrowed)
    (hclimbs : ∀ (g : ObjectId) (this : Value) (args : List Value),
      Act.Climbs (Engine.ofLevel (n + 2)) (m.borrowed.framed g this args) o ps)
    (hshort : ps.length < m.objects.size + 1000) (hdepth : m.depth < m.depthLimit) :
    (Bridge.kindOf o).Ends (Engine.ofLevel (n + 3)) m fun k m' => k = Intrinsic.kindAmong ps ∧ m' = m := by
  have hborrowed : m.borrowed.Unaltered := ⟨h.standing, h.functions⟩
  unfold Bridge.kindOf
  apply Bridge.Ends.andThen (.requireLive ⟨rfl, rfl⟩)
  apply Bridge.Ends.borrowing
  rw [Bridge.Ends, hborrowed.run_testKinds_of_climbs harray hclimbs hshort hdepth, Intrinsic.kindAmong]
  split
  · next k hk => exact ⟨fun _ hf => (by cases hf), fun _ _ => ⟨k, rfl, by rw [hk]; rfl, rfl⟩⟩
  · next hnone => exact ⟨_, rfl, by rw [hnone]; rfl, rfl⟩

theorem kindOf_ends (hdepth : m.depth < m.depthLimit) (hx : m.objects[o]? = some x) (hk : x.IsOf k) :
    (Bridge.kindOf o).Ends (Engine.ofLevel (n + 3)) m fun k' m' => k' = k ∧ m' = m := by
  by_cases hkind : k = .array
  · subst hkind
    exact Bridge.kindOf_array_ends hx hk.isProxy hk.isArray
  have harray := Bridge.run_isArray (m := m.borrowed) (n := n + 2) hx hk.isProxy
  have hfalse : x.isArray = false := by simp [hk.isArray, hkind]
  rw [hfalse] at harray
  have hchain := h.chain_of_isOf hx hk
  have hends := h.kindOf_ends_of_climbs (n := n) harray (fun _ _ _ => Act.climbs_of_chain hchain)
    (Nat.lt_of_lt_of_le (length_chainOf k) (Nat.le_add_left ..)) hdepth
  rwa [Intrinsic.kindAmong_chainOf hkind] at hends

end Machine.Unaltered

end Embedding.Guest
