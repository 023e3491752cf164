import Embedding.Proofs.Kinds
import Mathlib.Data.List.Perm.Subperm

namespace Embedding.Guest

/-- Looking up a property comes to a value within so many levels of the engine, and calls nothing. -/
inductive LooksUp (objects : Array Object) : Nat → ObjectId → Key → Value → Prop where
  | own {n : Nat} {o : ObjectId} {k : Key} {x : Object} {v : Value} {writable enumerable configurable : Bool}
      (hx : objects[o]? = some x) (hreads : x.Reads k (some ⟨.data v writable, enumerable, configurable⟩)) :
      LooksUp objects (n + 1) o k v
  | absent {n : Nat} {o : ObjectId} {k : Key} {x : Object} (hx : objects[o]? = some x) (hreads : x.Reads k none)
      (hproto : x.proto = none) : LooksUp objects (n + 1) o k .undefined
  | inherited {n : Nat} {o p : ObjectId} {k : Key} {x : Object} {v : Value} (hx : objects[o]? = some x)
      (hreads : x.Reads k none) (hproto : x.proto = some p) (hp : LooksUp objects n p k v) : LooksUp objects (n + 1) o k v
  | proxy {n : Nat} {o t h : ObjectId} {k : Key} {x : Object} {v trap : Value} {callable constructs : Bool}
      (hx : objects[o]? = some x) (hpayload : x.payload = .proxy (.object t) (.object h) callable constructs false)
      (htrap : LooksUp objects n h "get" trap) (hnone : trap.isNullish = true) (ht : LooksUp objects n t k v) :
      LooksUp objects (n + 1) o k v

/-- The prototype of an object, as the engine tells it within so many levels without a call. -/
inductive HasPrototype (objects : Array Object) : Nat → ObjectId → Option ObjectId → Prop where
  | plain {n : Nat} {o : ObjectId} {x : Object} (hx : objects[o]? = some x) (hproxy : x.isProxy = false) :
      HasPrototype objects (n + 1) o x.proto
  | proxy {n : Nat} {o t h : ObjectId} {x : Object} {trap : Value} {p? : Option ObjectId} {callable constructs : Bool}
      (hx : objects[o]? = some x) (hpayload : x.payload = .proxy (.object t) (.object h) callable constructs false)
      (htrap : LooksUp objects n h "getPrototypeOf" trap) (hnone : trap.isNullish = true)
      (ht : HasPrototype objects n t p?) : HasPrototype objects (n + 1) o p?

/-- Whether the engine takes an object for an array. A proxy is one if its target is, whatever its handler has. -/
inductive TellsArray (objects : Array Object) : Nat → ObjectId → Bool → Prop where
  | plain {n : Nat} {o : ObjectId} {x : Object} (hx : objects[o]? = some x) (hproxy : x.isProxy = false) :
      TellsArray objects (n + 1) o x.isArray
  | proxy {n : Nat} {o t : ObjectId} {x : Object} {handler : Value} {b callable constructs : Bool}
      (hx : objects[o]? = some x) (hpayload : x.payload = .proxy (.object t) handler callable constructs false)
      (ht : TellsArray objects n t b) : TellsArray objects (n + 1) o b

/-- All prototypes of an object, the nearest first. -/
inductive Lineage (objects : Array Object) (n : Nat) : ObjectId → List ObjectId → Prop where
  | top {o : ObjectId} (hnone : HasPrototype objects n o none) : Lineage objects n o []
  | up {o p : ObjectId} {ps : List ObjectId} (hsome : HasPrototype objects n o (some p)) (hp : Lineage objects n p ps) :
      Lineage objects n o (p :: ps)

/-- The kind of an object, as the engine tells it without a call. -/
inductive Classed (objects : Array Object) (n : Nat) (o : ObjectId) : Kind → Prop where
  | array (harray : TellsArray objects n o true) : Classed objects n o .array
  | other {ps : List ObjectId} (harray : TellsArray objects n o false) (hps : Lineage objects n o ps) :
      Classed objects n o (Intrinsic.kindAmong ps)

theorem Act.run_ofProxy {α : Type} {e : Engine} {m : Machine} {o : ObjectId} {x : Object} {t h : Value}
    {callable constructs revoked : Bool} (hx : m.objects[o]? = some x)
    (hpayload : x.payload = .proxy t h callable constructs revoked)
    (proxyRule : (target handler : Value) → (revoked : Bool) → Act α) (plainRule : Object → Act α) :
    unlessProxy o proxyRule plainRule e m = proxyRule t h revoked e m := by
  unfold unlessProxy
  rw [run_bind_of_done (run_object hx), hpayload]

section Run

variable {m : Machine} {n l : Nat} {o : ObjectId} {k : Key} {v : Value} {b : Bool} {p? : Option ObjectId}
  {ps : List ObjectId}

theorem Act.run_proxyTrap_of_get {t h : ObjectId} {name : String} {trap : Value}
    (hget : (Engine.ofLevel l).get h name (.object h) m = .done trap m) (hnone : trap.isNullish = true) :
    proxyTrap (.object t) (.object h) false name (Engine.ofLevel l) m = .done ⟨t, .object h, none⟩ m := by
  show (get (.object h) name >>= _) _ m = _
  rw [run_bind_of_done (show get (.object h) name (Engine.ofLevel l) m = .done trap m from hget), hnone]
  rfl

theorem LooksUp.get_eq (hlooks : LooksUp m.objects n o k v) (hn : n ≤ l) (receiver : Value) :
    (Engine.ofLevel l).get o k receiver m = .done v m := by
  induction hlooks generalizing l receiver with
  | own hx hreads =>
    obtain ⟨l, rfl⟩ : ∃ i, l = i + 1 := ⟨l - 1, by omega⟩
    exact Act.get_own hx hreads
  | absent hx hreads hproto =>
    obtain ⟨l, rfl⟩ : ∃ i, l = i + 1 := ⟨l - 1, by omega⟩
    rw [Act.get_eq hx hreads, hproto]
  | inherited hx hreads hproto _ ih =>
    obtain ⟨l, rfl⟩ : ∃ i, l = i + 1 := ⟨l - 1, by omega⟩
    rw [Act.get_inherited hx hreads hproto]
    exact ih (by omega) receiver
  | proxy hx hpayload _ hnone _ ihtrap iht =>
    obtain ⟨l, rfl⟩ : ∃ i, l = i + 1 := ⟨l - 1, by omega⟩
    show Act.getRule _ _ _ _ m = _
    rw [Act.getRule, Act.run_ofProxy hx hpayload]
    unfold Act.proxyGet
    rw [Act.run_bind_of_done (Act.run_proxyTrap_of_get (ihtrap (by omega) _) hnone)]
    exact iht (by omega) receiver

theorem HasPrototype.prototype_eq (hproto : HasPrototype m.objects n o p?) (hn : n ≤ l) :
    (Engine.ofLevel l).prototype o m = .done p? m := by
  induction hproto generalizing l with
  | plain hx hproxy =>
    obtain ⟨l, rfl⟩ : ∃ i, l = i + 1 := ⟨l - 1, by omega⟩
    exact Act.prototype_eq hx hproxy
  | proxy hx hpayload htrap hnone _ ih =>
    obtain ⟨l, rfl⟩ : ∃ i, l = i + 1 := ⟨l - 1, by omega⟩
    show Act.prototypeRule _ _ m = _
    rw [Act.prototypeRule, Act.run_ofProxy hx hpayload]
    unfold Act.proxyPrototype
    rw [Act.run_bind_of_done (Act.run_proxyTrap_of_get (htrap.get_eq (by omega) _) hnone)]
    exact ih (by omega)

theorem TellsArray.isArray_eq (harray : TellsArray m.objects n o b) (hn : n ≤ l) :
    Act.isArray o (Engine.ofLevel l) m = .done b m := by
  induction harray generalizing l with
  | plain hx hproxy =>
    obtain ⟨l, rfl⟩ : ∃ i, l = i + 1 := ⟨l - 1, by omega⟩
    exact Bridge.run_isArray hx hproxy
  | proxy hx hpayload _ ih =>
    obtain ⟨l, rfl⟩ : ∃ i, l = i + 1 := ⟨l - 1, by omega⟩
    show Act.isArrayRule _ _ m = _
    rw [Act.isArrayRule, Act.run_ofProxy hx hpayload]
    exact ih (by omega)

theorem Lineage.climbs (hps : Lineage m.objects n o ps) (hn : n ≤ l) : Act.Climbs (Engine.ofLevel l) m o ps := by
  induction hps with
  | top hnone => exact .top (hnone.prototype_eq hn)
  | up hsome _ ih => exact .up (hsome.prototype_eq hn) ih

end Run

theorem Lineage.of_chain {objects : Array Object} {n : Nat} {o : ObjectId} {ps : List ObjectId} (h : Chain objects o ps) :
    Lineage objects (n + 1) o ps := by
  induction ps generalizing o with
  | nil =>
    obtain ⟨x, hx, hproxy, hproto⟩ := h
    exact .top (hproto ▸ .plain hx hproxy)
  | cons p ps ih =>
    obtain ⟨x, hx, hproxy, hproto, hrest⟩ := h
    exact .up (hproto ▸ .plain hx hproxy) (ih hrest)

section Unique

variable {objects : Array Object} {n n' : Nat} {o p : ObjectId} {p? q? : Option ObjectId} {ps qs : List ObjectId}

theorem HasPrototype.lt_size (h : HasPrototype objects n o p?) : o < objects.size := by
  cases h with
  | plain hx _ | proxy hx _ _ _ _ => exact (Array.getElem?_eq_some_iff.mp hx).1

theorem HasPrototype.unique (h : HasPrototype objects n o p?) (h' : HasPrototype objects n' o q?) : p? = q? := by
  induction h generalizing n' with
  | plain hx hproxy =>
    cases h' with
    | plain hy _ => cases hx.symm.trans hy; rfl
    | proxy hy hpayload _ _ _ =>
      cases hx.symm.trans hy
      rw [Object.isProxy, hpayload] at hproxy
      cases hproxy
  | proxy hx hpayload _ _ _ ih =>
    cases h' with
    | plain hy hproxy =>
      cases hx.symm.trans hy
      rw [Object.isProxy, hpayload] at hproxy
      cases hproxy
    | proxy hy hpayload' _ _ ht =>
      cases hx.symm.trans hy
      cases hpayload.symm.trans hpayload'
      exact ih ht

namespace Lineage

theorem unique (h : Lineage objects n o ps) (h' : Lineage objects n o qs) : ps = qs := by
  induction h generalizing qs with
  | top hnone =>
    cases h' with
    | top _ => rfl
    | up hsome _ => cases hnone.unique hsome
  | up hsome _ ih =>
    cases h' with
    | top hnone => cases hnone.unique hsome
    | up hsome' hrest =>
      cases hsome.unique hsome'
      rw [ih hrest]

theorem lt_size (h : Lineage objects n o ps) : o < objects.size := by
  cases h with
  | top hnone => exact hnone.lt_size
  | up hsome _ => exact hsome.lt_size

theorem of_append {qs rest : List ObjectId} (h : Lineage objects n o (qs ++ p :: rest)) : Lineage objects n p rest := by
  induction qs generalizing o with
  | nil =>
    cases h with
    | up _ hp => exact hp
  | cons q qs ih =>
    cases h with
    | up _ hq => exact ih hq

theorem not_mem (h : Lineage objects n o ps) : o ∉ ps := by
  intro hmem
  obtain ⟨qs, rest, rfl⟩ := List.append_of_mem hmem
  have hlength := congrArg List.length (h.unique h.of_append)
  simp at hlength
  omega

theorem nodup (h : Lineage objects n o ps) : ps.Nodup := by
  induction h with
  | top _ => exact List.nodup_nil
  | up _ hp ih => exact List.nodup_cons.mpr ⟨hp.not_mem, ih⟩

theorem length_le (h : Lineage objects n o ps) : ps.length ≤ objects.size := by
  have hsubset : ps ⊆ List.range objects.size := by
    intro p hp
    obtain ⟨qs, rest, rfl⟩ := List.append_of_mem hp
    exact List.mem_range.mpr h.of_append.lt_size
  have hperm := (h.nodup.subperm hsubset).length_le
  rwa [List.length_range] at hperm

end Lineage

end Unique

/-- Where the builtin objects have not been altered, the host finds the kind that the engine tells, and looking for it
changes nothing. -/
theorem Machine.Unaltered.kindOf_ends_of_classed {m : Machine} (h : m.Unaltered) (hdepth : m.depth < m.depthLimit) {n : Nat}
    {o : ObjectId} {k : Kind} (hk : Classed m.objects (n + 2) o k) :
    (Bridge.kindOf o).Ends (Engine.ofLevel (n + 3)) m fun k' m' => k' = k ∧ m' = m := by
  cases hk with
  | array harray => exact Bridge.kindOf_ends_of_isArray (harray.isArray_eq (m := m.borrowed) (Nat.le_succ _))
  | other harray hps =>
    exact h.kindOf_ends_of_climbs (harray.isArray_eq (m := m.borrowed) (Nat.le_succ _))
      (fun g this args => hps.climbs (m := m.borrowed.framed g this args) (Nat.le_refl _))
      (Nat.lt_of_le_of_lt hps.length_le (Nat.lt_add_of_pos_right (by decide))) hdepth

/-- The properties in which a proxy's handler is asked for a prototype, and what its functions are found by. -/
def Key.traps : List Key := [Key.ofString "get", Key.ofString "getPrototypeOf"]

/-- An object that tells of its prototypes and of being an array what another does, whatever else they differ in. -/
structure Object.Retains (x y : Object) : Prop where
  proto : y.proto = x.proto
  isArray : y.isArray = x.isArray
  isProxy : y.isProxy = x.isProxy
  payload : x.isProxy = true → y.payload = x.payload
  reads : ∀ k ∈ Key.traps, ∀ p?, x.Reads k p? → y.Reads k p?

/-- Rows of objects that tell the same; the second may be longer. -/
def Retaining (a b : Array Object) : Prop :=
  ∀ (o : ObjectId) (x : Object), a[o]? = some x → ∃ y, b[o]? = some y ∧ x.Retains y

namespace Object

variable {x y z : Object}

theorem Reads.of_same {k : Key} {p? : Option Property} (hreads : x.Reads k p?) (hpayload : y.payload = x.payload)
    (hproperty : y.property? k = x.property? k) : y.Reads k p? := by
  have hown (o : ObjectId) : Act.plainOwn o y k = Act.plainOwn o x k := by
    unfold Act.plainOwn Act.tableOwn Act.makePrototype
    rw [hpayload, hproperty]
  refine ⟨fun o e m => ?_, ?_, fun t buffer offset length hy => ?_⟩
  · rw [hown]
    exact hreads.own o e m
  · rw [isProxy, hpayload]
    exact hreads.notProxy
  · exact hreads.notElement t buffer offset length (hpayload ▸ hy)

namespace Retains

theorem refl : x.Retains x := ⟨rfl, rfl, rfl, fun _ => rfl, fun _ _ _ => id⟩

theorem trans (h : x.Retains y) (h' : y.Retains z) : x.Retains z where
  proto := h'.proto.trans h.proto
  isArray := h'.isArray.trans h.isArray
  isProxy := h'.isProxy.trans h.isProxy
  payload hx := (h'.payload (h.isProxy.trans hx)).trans (h.payload hx)
  reads k hk p? hreads := h'.reads k hk p? (h.reads k hk p? hreads)

theorem of_payload (hproto : y.proto = x.proto) (hpayload : y.payload = x.payload)
    (hproperty : ∀ k ∈ Key.traps, y.property? k = x.property? k) : x.Retains y where
  proto := hproto
  isArray := by rw [Object.isArray, hpayload, Object.isArray]
  isProxy := by rw [Object.isProxy, hpayload, Object.isProxy]
  payload _ := hpayload
  reads k hk _ hreads := hreads.of_same hpayload (hproperty k hk)

end Retains

theorem isProxy_of_payload {t h : Value} {callable constructs revoked : Bool}
    (hpayload : x.payload = .proxy t h callable constructs revoked) : x.isProxy = true := by
  rw [isProxy, hpayload]
  rfl

end Object

section Retaining

variable {a b c : Array Object} {n : Nat} {o : ObjectId}

theorem Retaining.of_keeps (h : Keeps (fun _ => True) a b) : Retaining a b := fun o x hx => ⟨x, h o x trivial hx, .refl⟩

theorem Retaining.trans (h : Retaining a b) (h' : Retaining b c) : Retaining a c := by
  intro o x hx
  obtain ⟨y, hy, hxy⟩ := h o x hx
  obtain ⟨z, hz, hyz⟩ := h' o y hy
  exact ⟨z, hz, hxy.trans hyz⟩

theorem Retaining.setIfInBounds {x y : Object} (hx : a[o]? = some x) (hxy : x.Retains y) :
    Retaining a (a.setIfInBounds o y) := by
  intro i z hz
  by_cases hi : o = i
  · subst hi
    cases hx.symm.trans hz
    exact ⟨y, Array.getElem?_setIfInBounds_self_of_lt (Array.getElem?_eq_some_iff.mp hx).1, hxy⟩
  · exact ⟨z, by rw [Array.getElem?_setIfInBounds_ne hi, hz], .refl⟩

variable (hab : Retaining a b)
include hab

theorem TellsArray.retaining {isArray : Bool} (h : TellsArray a n o isArray) : TellsArray b n o isArray := by
  induction h with
  | plain hx hproxy =>
    obtain ⟨y, hy, hxy⟩ := hab _ _ hx
    rw [← hxy.isArray]
    exact .plain hy (hxy.isProxy.trans hproxy)
  | proxy hx hpayload _ ih =>
    obtain ⟨y, hy, hxy⟩ := hab _ _ hx
    exact .proxy hy ((hxy.payload (Object.isProxy_of_payload hpayload)).trans hpayload) ih

theorem LooksUp.retaining {k : Key} {v : Value} (h : LooksUp a n o k v) (hk : k ∈ Key.traps) : LooksUp b n o k v := by
  induction h with
  | own hx hreads =>
    obtain ⟨y, hy, hxy⟩ := hab _ _ hx
    exact .own hy (hxy.reads _ hk _ hreads)
  | absent hx hreads hproto =>
    obtain ⟨y, hy, hxy⟩ := hab _ _ hx
    exact .absent hy (hxy.reads _ hk _ hreads) (hxy.proto.trans hproto)
  | inherited hx hreads hproto _ ih =>
    obtain ⟨y, hy, hxy⟩ := hab _ _ hx
    exact .inherited hy (hxy.reads _ hk _ hreads) (hxy.proto.trans hproto) (ih hk)
  | proxy hx hpayload _ hnone _ ihtrap iht =>
    obtain ⟨y, hy, hxy⟩ := hab _ _ hx
    exact .proxy hy ((hxy.payload (Object.isProxy_of_payload hpayload)).trans hpayload) (ihtrap List.mem_cons_self) hnone
      (iht hk)

theorem HasPrototype.retaining {p? : Option ObjectId} (h : HasPrototype a n o p?) : HasPrototype b n o p? := by
  induction h with
  | plain hx hproxy =>
    obtain ⟨y, hy, hxy⟩ := hab _ _ hx
    rw [← hxy.proto]
    exact .plain hy (hxy.isProxy.trans hproxy)
  | proxy hx hpayload htrap hnone _ ih =>
    obtain ⟨y, hy, hxy⟩ := hab _ _ hx
    exact .proxy hy ((hxy.payload (Object.isProxy_of_payload hpayload)).trans hpayload)
      (htrap.retaining hab (List.mem_cons_of_mem _ List.mem_cons_self)) hnone ih

theorem Lineage.retaining {ps : List ObjectId} (h : Lineage a n o ps) : Lineage b n o ps := by
  induction h with
  | top hnone => exact .top (hnone.retaining hab)
  | up hsome _ ih => exact .up (hsome.retaining hab) ih

theorem Classed.retaining {k : Kind} (h : Classed a n o k) : Classed b n o k := by
  cases h with
  | array harray => exact .array (harray.retaining hab)
  | other harray hps => exact .other (harray.retaining hab) (hps.retaining hab)

end Retaining

end Embedding.Guest
