import Embedding.Proofs.Lineage
import Embedding.Proofs.Making
import Mathlib.Logic.Relation

namespace Embedding.Guest

namespace Act

theorem slot_changedProperty (old : Option Property) (d : Descriptor) :
    (changedProperty old d).slot ≠ .lazyPrototype := by
  unfold changedProperty
  dsimp only
  repeat' split
  all_goals nofun

variable {o : ObjectId} {x : Object} {k : Key} {e : Engine} {m : Machine} (hx : m.objects[o]? = some x)
  (hpayload : x.payload = .ordinary)

include hx hpayload in
theorem run_modifyObject_of_ordinary {f : Object → Object} (hf : (f x).payload = x.payload) :
    modifyObject o f e m = .done () (m.filled o (f x)) := by
  have hhandle : x.handle? = none := by rw [Object.handle?, hpayload]
  refine run_modifyObject hx (Object.change_eq rfl hhandle ?_)
  rw [Object.handle?, hf, hpayload]

variable (hreads : x.Reads k (x.property? k))
include hx hpayload hreads

theorem run_plainDefine_of_ordinary (d : Descriptor) : (∃ r, plainDefine o k d e m = .done r m) ∨
    plainDefine o k d e m = .done none (m.filled o (x.putProperty k (changedProperty (x.property? k) d))) := by
  have hput (p : Property) : putProperty o k p e m = .done () (m.filled o (x.putProperty k p)) :=
    run_modifyObject_of_ordinary hx hpayload (Object.payload_putProperty ..)
  unfold plainDefine
  rw [run_bind_of_done (run_object hx)]
  simp only [hpayload]
  show (∃ r, (plainOwn o x k >>= _) e m = .done r m) ∨ (plainOwn o x k >>= _) e m = _
  rw [run_bind_of_done (hreads.own o e m)]
  cases x.property? k with
  | none =>
    cases x.extensible with
    | false => exact .inl ⟨some .notExtensible, rfl⟩
    | true =>
      right
      show (putProperty o k _ >>= _) e m = _
      rw [run_bind_of_done (hput _)]
      rfl
  | some p =>
    cases hallowed : changeAllowed p d with
    | false => exact .inl ⟨some .notConfigurable, by simp only [hallowed]; rfl⟩
    | true =>
      right
      simp only [hallowed]
      show (putProperty o k _ >>= _) e m = _
      rw [run_bind_of_done (hput _)]
      rfl

theorem run_plainDelete_of_ordinary : (∃ r, plainDelete o k e m = .done r m) ∨
    plainDelete o k e m = .done true (m.filled o (x.eraseProperty k)) := by
  have herase : modifyObject o (fun x => x.eraseProperty k) e m = .done () (m.filled o (x.eraseProperty k)) :=
    run_modifyObject_of_ordinary hx hpayload (Object.payload_eraseProperty k)
  unfold plainDelete
  rw [run_bind_of_done (run_object hx)]
  simp only [hpayload]
  rw [run_bind_of_done (hreads.own o e m)]
  cases x.property? k with
  | none => exact .inl ⟨true, rfl⟩
  | some p =>
    cases hconfigurable : p.configurable with
    | false => exact .inl ⟨false, by simp only [hconfigurable]; rfl⟩
    | true =>
      right
      simp only [hconfigurable]
      show (modifyObject o _ >>= _) e m = _
      rw [run_bind_of_done herase]
      rfl

theorem run_plainSet_of_ordinary {v old : Value} {writable enumerable configurable : Bool}
    (hk : x.property? k = some ⟨.data old writable, enumerable, configurable⟩) :
    plainSet o k v (.object o) e m = if writable
      then .done none (m.filled o (x.putProperty k ⟨.data v true, enumerable, configurable⟩))
      else .done (some .readOnly) m := by
  have hstore : storeOwn o k v e m =
      .done () (m.filled o (x.putProperty k ⟨.data v true, enumerable, configurable⟩)) := by
    unfold storeOwn
    rw [run_bind_of_done (run_object hx)]
    simp only [hpayload]
    refine (run_modifyObject_of_ordinary hx hpayload ?_).trans ?_
    · simp only [hk, Object.payload_putProperty]
    · simp only [hk]
  unfold plainSet
  rw [run_bind_of_done (run_object hx)]
  simp only [hpayload]
  rw [run_bind_of_done (hreads.own o e m), hk]
  cases writable with
  | false => rfl
  | true =>
    simp only [beq_self_eq_true, if_true, Bool.not_true, Bool.false_eq_true, if_false]
    show (storeOwn o k v >>= _) e m = _
    rw [run_bind_of_done hstore]
    rfl

end Act

/-- The global names of the constructors that the host makes values with and takes them apart. -/
def Intrinsic.names : List Key := (Kind.builtins.map fun k => Key.ofString k.constructorName) ++ [Key.ofString "BigInt"]

theorem not_mem_names_of_traps : ∀ k ∈ Key.traps, k ∉ Intrinsic.names := by decide +kernel

/-- The constructor that the host uses for a kind is the one that the global name of the kind had at first. -/
theorem property?_globalObject {k : Kind} (hk : k ∈ Kind.builtins) : ∃ c, Intrinsic.ofKind? k = some c ∧
    (Realm.builtin Intrinsic.globalObject).property? (Key.ofString k.constructorName) = some (.method (.object c)) := by
  have hmember : ∃ c, Intrinsic.ofKind? k = some c ∧ Realm.member? Intrinsic.globalObject (Key.ofString k.constructorName) =
      some (.link k.constructorName c) := by
    cases k with
    | typed t => cases t <;> exact ⟨_, rfl, rfl⟩
    | unknown => exact absurd hk (by decide)
    | _ => exact ⟨_, rfl, rfl⟩
  obtain ⟨c, hc, hlink⟩ := hmember
  exact ⟨c, hc, Realm.stands_builtin hlink⟩

theorem property?_globalObject_bigint : (Realm.builtin Intrinsic.globalObject).property? (Key.ofString "BigInt") =
    some (.method (.object Intrinsic.bigintConstructor)) :=
  Realm.stands_builtin (m := .link "BigInt" Intrinsic.bigintConstructor) rfl

structure Object.IsGlobal (x : Object) : Prop where
  payload : x.payload = .ordinary
  distinct : x.Distinct
  made : ∀ k ∈ Intrinsic.names, ∀ p, x.property? k = some p → p.slot ≠ .lazyPrototype

namespace Object.IsGlobal

variable {x : Object} {k : Key} (h : x.IsGlobal) (hk : k ∈ Intrinsic.names)
include h hk

theorem reads : x.Reads k (x.property? k) :=
  reads_of_isTable (by rw [h.payload]; rfl) rfl (h.made k hk)

theorem set_eq {m : Machine} (hx : m.objects[Intrinsic.globalObject]? = some x) {v old : Value}
    {writable enumerable configurable : Bool} (hold : x.property? k = some ⟨.data old writable, enumerable, configurable⟩)
    (n : Nat) : (Engine.ofLevel (n + 1)).set Intrinsic.globalObject k v (.object Intrinsic.globalObject) m = if writable
      then .done none (m.filled Intrinsic.globalObject (x.putProperty k ⟨.data v true, enumerable, configurable⟩))
      else .done (some .readOnly) m := by
  show Act.setRule Intrinsic.globalObject k v (.object Intrinsic.globalObject) (Engine.ofLevel n) m = _
  rw [Act.setRule, Act.run_unlessProxy hx (h.reads hk).notProxy]
  exact Act.run_plainSet_of_ordinary hx h.payload (h.reads hk) hold

theorem putProperty {p : Property} (hp : p.slot ≠ .lazyPrototype) :
    (x.putProperty k p).IsGlobal ∧ x.Retains (x.putProperty k p) := by
  refine ⟨⟨by rw [payload_putProperty, h.payload], h.distinct.putProperty k p, fun k' hk' q hq => ?_⟩,
    .of_payload (proto_putProperty ..) (payload_putProperty ..) fun k' hk' => ?_⟩
  · rw [property?_putProperty] at hq
    split at hq
    · cases hq
      exact hp
    · exact h.made k' hk' q hq
  · rw [property?_putProperty, if_neg (ne_of_mem_of_not_mem hk (not_mem_names_of_traps k' hk')).symm]

theorem eraseProperty : (x.eraseProperty k).IsGlobal ∧ x.Retains (x.eraseProperty k) := by
  refine ⟨⟨by rw [payload_eraseProperty, h.payload], h.distinct.eraseProperty k, fun k' hk' q hq => ?_⟩,
    .of_payload (proto_eraseProperty k) (payload_eraseProperty k) fun k' hk' => ?_⟩
  · rw [h.distinct.property?_eraseProperty] at hq
    split at hq
    · cases hq
    · exact h.made k' hk' q hq
  · rw [h.distinct.property?_eraseProperty, if_neg (ne_of_mem_of_not_mem hk (not_mem_names_of_traps k' hk')).symm]

end Object.IsGlobal

namespace Machine

/-- The builtin objects are what they were at first, and the global object is an ordinary one. -/
structure Regular (m : Machine) : Prop extends m.Unaltered where
  global : ∃ x, m.objects[Intrinsic.globalObject]? = some x ∧ x.IsGlobal

/-- What guest code does to the global names. Objects at or behind a place are its own. -/
inductive Rebinding (lo : ObjectId) (m : Machine) : Machine → Prop where
  | define {m' : Machine} {n : Nat} {k : Key} {d : Descriptor} {r : Option Refusal} (hk : k ∈ Intrinsic.names)
      (h : (Engine.ofLevel (n + 1)).define Intrinsic.globalObject k d m = .done r m') : Rebinding lo m m'
  /-- A name is given another value. When it has been deleted before, it is defined by that. -/
  | assign {m' : Machine} {n : Nat} {k : Key} {v old : Value} {r : Option Refusal} {x : Object}
      {writable enumerable configurable : Bool} (hk : k ∈ Intrinsic.names)
      (hx : m.objects[Intrinsic.globalObject]? = some x)
      (hold : x.property? k = some ⟨.data old writable, enumerable, configurable⟩)
      (h : (Engine.ofLevel (n + 1)).set Intrinsic.globalObject k v (.object Intrinsic.globalObject) m = .done r m') :
      Rebinding lo m m'
  | delete {m' : Machine} {n : Nat} {k : Key} {r : Bool} (hk : k ∈ Intrinsic.names)
      (h : (Engine.ofLevel (n + 1)).delete Intrinsic.globalObject k m = .done r m') : Rebinding lo m m'
  /-- Anything is done but to objects: a name is declared, which shadows the one of the global object, variables are made
  and assigned to, calls begin and end, programs are counted. -/
  | other {m' : Machine} (h : m'.objects = m.objects) : Rebinding lo m m'
  | make (x : Object) (bytes : Nat) : Rebinding lo m (m.made x bytes)
  | write {o : ObjectId} (ho : lo ≤ o) (x : Object) (bytes : Nat) : Rebinding lo m (m.filled o x bytes)

structure Rebound (m m' : Machine) : Prop where
  regular : m'.Regular
  retaining : Retaining m.objects m'.objects

namespace Rebound

variable {m₀ m : Machine} (h : m₀.Rebound m)
include h

theorem exists_getElem? {o : ObjectId} (ho : o < m₀.objects.size) : ∃ y, m.objects[o]? = some y := by
  obtain ⟨y, hy, -⟩ := h.retaining o _ (Array.getElem?_eq_getElem ho)
  exact ⟨y, hy⟩

theorem filled {x y : Object} (hx : m.objects[Intrinsic.globalObject]? = some x)
    (hy : y.IsGlobal ∧ x.Retains y) : m₀.Rebound (m.filled Intrinsic.globalObject y) := by
  have helsewhere {o : ObjectId} (ho : o ≠ Intrinsic.globalObject) :
      (m.filled Intrinsic.globalObject y).objects[o]? = m.objects[o]? := Array.getElem?_setIfInBounds_ne ho.symm
  refine ⟨⟨⟨fun o ho => ?_, fun g z f hz hf => ?_⟩, y, ?_, hy.1⟩, h.retaining.trans (.setIfInBounds hx hy.2)⟩
  · have hne : o ≠ Intrinsic.globalObject := by
      rintro rfl
      exact absurd ho (by decide)
    rw [helsewhere hne]
    exact h.regular.standing o ho
  · obtain ⟨w, hw, hpayload⟩ := h.regular.functions g z f hz hf
    refine ⟨w, ?_, hpayload⟩
    rw [helsewhere, hw]
    rintro rfl
    obtain ⟨z, hz, hz'⟩ := h.regular.global
    cases hz.symm.trans hw
    rw [hz'.payload] at hpayload
    cases hpayload
  · exact Array.getElem?_setIfInBounds_self_of_lt (Array.getElem?_eq_some_iff.mp hx).1

end Rebound

namespace Regular

variable {m₀ m m' : Machine} (hm₀ : m₀.Regular)
include hm₀

theorem rebound_refl : m₀.Rebound m₀ := ⟨hm₀, .of_keeps .refl⟩

variable (h : m₀.Rebound m)
include h

theorem rebound_of_same (hsame : ∀ o < m₀.objects.size, m'.objects[o]? = m.objects[o]?) : m₀.Rebound m' := by
  have hbefore {o : ObjectId} {x : Object} (hx : m₀.objects[o]? = some x) : m'.objects[o]? = m.objects[o]? :=
    hsame o (Array.getElem?_eq_some_iff.mp hx).1
  obtain ⟨x, hx, hglobal⟩ := h.regular.global
  obtain ⟨y, hy, -⟩ := hm₀.global
  refine ⟨⟨⟨fun o ho => ?_, fun g z f hz hf => ?_⟩, x, (hbefore hy).trans hx, hglobal⟩, fun o z hz => ?_⟩
  · rw [hbefore (hm₀.object ho)]
    exact h.regular.standing o ho
  · obtain ⟨w, hw, -⟩ := hm₀.functions g z f hz hf
    rw [hbefore hw]
    exact h.regular.functions g z f hz hf
  · rw [hbefore hz]
    exact h.retaining o z hz

theorem rebound_step (hstep : m.Rebinding m₀.objects.size m') : m₀.Rebound m' := by
  obtain ⟨x, hx, hglobal⟩ := h.regular.global
  have hproxy : x.isProxy = false := by rw [Object.isProxy, hglobal.payload]; rfl
  cases hstep with
  | @define _ n k d r hk hrun =>
    have hplain : Act.plainDefine Intrinsic.globalObject k d (Engine.ofLevel n) m = .done r m' := by
      rw [← Act.run_unlessProxy hx hproxy (fun t h r => Act.proxyDefine t h r k d)
        fun _ => Act.plainDefine Intrinsic.globalObject k d]
      exact hrun
    rcases Act.run_plainDefine_of_ordinary hx hglobal.payload (hglobal.reads hk) d with ⟨r, hsame⟩ | hput
    · cases hplain.symm.trans hsame
      exact h
    · cases hplain.symm.trans hput
      exact h.filled hx (hglobal.putProperty hk (Act.slot_changedProperty _ _))
  | @assign _ n k v old r y writable enumerable configurable hk hy hold hrun =>
    cases hx.symm.trans hy
    rw [hglobal.set_eq hk hx hold] at hrun
    cases writable with
    | false =>
      cases hrun
      exact h
    | true =>
      cases hrun
      exact h.filled hx (hglobal.putProperty hk fun hlazy => by cases hlazy)
  | @delete _ n k r hk hrun =>
    have hplain : Act.plainDelete Intrinsic.globalObject k (Engine.ofLevel n) m = .done r m' := by
      rw [← Act.run_unlessProxy hx hproxy (fun t h r => Act.proxyDelete t h r k)
        fun _ => Act.plainDelete Intrinsic.globalObject k]
      exact hrun
    rcases Act.run_plainDelete_of_ordinary hx hglobal.payload (hglobal.reads hk) with ⟨r, hsame⟩ | herase
    · cases hplain.symm.trans hsame
      exact h
    · cases hplain.symm.trans herase
      exact h.filled hx (hglobal.eraseProperty hk)
  | other hobjects => exact hm₀.rebound_of_same h fun _ _ => by rw [hobjects]
  | make y bytes =>
    refine hm₀.rebound_of_same h fun o ho => ?_
    obtain ⟨z, hz⟩ := h.exists_getElem? ho
    rw [hz]
    exact Keeps.push (p := fun _ => True) y o z trivial hz
  | @write o ho y bytes =>
    refine hm₀.rebound_of_same h fun i hi => ?_
    exact Array.getElem?_setIfInBounds_ne (Nat.ne_of_gt (Nat.lt_of_lt_of_le hi ho))

omit h

theorem rebound (hrun : Relation.ReflTransGen (Rebinding m₀.objects.size) m₀ m) : m₀.Rebound m := by
  induction hrun with
  | refl => exact hm₀.rebound_refl
  | tail _ hstep ih => exact hm₀.rebound_step ih hstep

theorem made (x : Object) (bytes : Nat) : (m₀.made x bytes).Regular :=
  (hm₀.rebound_step hm₀.rebound_refl (.make x bytes)).regular

theorem exists_made (xs : List Object) : ∃ m : Machine, m.Regular ∧ m.depth = m₀.depth ∧ m.depthLimit = m₀.depthLimit ∧
    m.lexicals = m₀.lexicals ∧ Keeps (fun _ => True) m₀.objects m.objects ∧
    ∀ i x, xs[i]? = some x → m.objects[m₀.objects.size + i]? = some x := by
  induction xs generalizing m₀ with
  | nil => exact ⟨m₀, hm₀, rfl, rfl, rfl, .refl, fun i x hx => by cases hx⟩
  | cons x xs ih =>
    obtain ⟨m, hm, hdepth, hlimit, hlexicals, hkeeps, hmade⟩ := ih (hm₀.made x 0)
    refine ⟨m, hm, hdepth, hlimit, hlexicals, .trans (.push x) hkeeps, fun i y hy => ?_⟩
    cases i with
    | zero =>
      cases hy
      exact hkeeps _ _ trivial (m₀.getElem?_made x 0)
    | succ i =>
      have hsize : (m₀.made x 0).objects.size = m₀.objects.size + 1 := Array.size_push _
      have hy' := hmade i y hy
      rwa [hsize, Nat.add_right_comm] at hy'

end Regular

theorem regular_initial : Realm.initial.Regular := by
  have hsite : (Realm.siteAt? Intrinsic.globalObject).isSome = true := rfl
  refine ⟨unaltered_initial, _, Realm.getElem?_initial hsite, Realm.payload_builtin rfl, Realm.distinct_builtin hsite, ?_⟩
  intro k hk p hp
  rcases List.mem_append.mp hk with hk | hk
  · obtain ⟨kind, hkind, rfl⟩ := List.mem_map.mp hk
    obtain ⟨c, -, hc⟩ := property?_globalObject hkind
    cases hc.symm.trans hp
    nofun
  · obtain rfl := List.mem_singleton.mp hk
    cases property?_globalObject_bigint.symm.trans hp
    nofun

end Machine

end Embedding.Guest
