import Embedding.Guest.Engine
import Embedding.Proofs.Heap
import Embedding.Proofs.Runs

namespace Embedding.Guest

def Payload.isTable : Payload → Bool
  | .array .. | .typedArray .. | .primitive _ | .proxy .. => false
  | _ => true

def Payload.isProxy : Payload → Bool
  | .proxy .. => true
  | _ => false

namespace Object

def isProxy (x : Object) : Bool := x.payload.isProxy

/-- What the object has under a key of its own, when looking it up changes nothing. -/
structure Reads (x : Object) (k : Key) (p? : Option Property) : Prop where
  own : ∀ (o : ObjectId) (e : Engine) (m : Machine), Act.plainOwn o x k e m = .done p? m
  notProxy : x.isProxy = false
  notElement : ∀ t buffer offset length, x.payload = .typedArray t buffer offset length → k.index? = none

theorem not_lazy_of_none : ∀ p, (none : Option Property) = some p → p.slot ≠ .lazyPrototype := nofun

variable {x : Object} {k : Key} {p? : Option Property}

theorem Reads.match_element {β : Type} (h : x.Reads k p?) (f : ArrayElement → ObjectId → Nat → Nat → Nat → β) (g : β) :
    (match x.payload, k.index? with
      | .typedArray t buffer offset length, some i => f t buffer offset length i
      | _, _ => g) = g := by
  split
  · next hpayload hindex =>
    rw [h.notElement _ _ _ _ hpayload] at hindex
    cases hindex
  · rfl

theorem run_tableOwn (hk : x.property? k = p?) (hlazy : ∀ p, p? = some p → p.slot ≠ .lazyPrototype)
    (o : ObjectId) (e : Engine) (m : Machine) : Act.tableOwn o x k e m = .done p? m := by
  unfold Act.tableOwn
  rw [hk]
  match p?, hlazy with
  | none, _ => rfl
  | some ⟨.data v w, _, _⟩, _ => rfl
  | some ⟨.accessor g s, _, _⟩, _ => rfl
  | some ⟨.lazyPrototype, _, _⟩, hlazy => exact absurd rfl (hlazy _ rfl)

theorem isProxy_of_isTable (hx : x.payload.isTable = true) : x.isProxy = false := by
  unfold Payload.isTable at hx
  unfold isProxy Payload.isProxy
  split at hx <;> simp_all

theorem reads_of_isTable (hx : x.payload.isTable = true) (hk : x.property? k = p?)
    (hlazy : ∀ p, p? = some p → p.slot ≠ .lazyPrototype) : x.Reads k p? := by
  refine ⟨?_, ?_, ?_⟩
  · intro o e m
    have htable := run_tableOwn hk hlazy o e m
    unfold Payload.isTable at hx
    unfold Act.plainOwn
    split at hx <;> simp_all
  · exact isProxy_of_isTable hx
  · intro t buffer offset length h
    simp [Payload.isTable, h] at hx

theorem reads_of_typedArray {t : ArrayElement} {buffer : ObjectId} {offset length : Nat}
    (hx : x.payload = .typedArray t buffer offset length) (hindex : k.index? = none) (hk : x.property? k = p?)
    (hlazy : ∀ p, p? = some p → p.slot ≠ .lazyPrototype) : x.Reads k p? := by
  refine ⟨?_, ?_, fun _ _ _ _ _ => hindex⟩
  · intro o e m
    simp only [Act.plainOwn, hx, hindex]
    exact run_tableOwn hk hlazy o e m
  · simp only [isProxy, hx, Payload.isProxy]

section Elements

variable {elements : Array (Option Value)} {length : Nat} {fixed : Bool} (hx : x.payload = .array elements length fixed)
include hx

theorem reads_element {i : Nat} {v : Value} (hindex : k.index? = some i) (hv : elements.getD i none = some v) :
    x.Reads k (some (.plain v)) := by
  refine ⟨?_, ?_, ?_⟩
  · intro o e m
    simp only [Act.plainOwn, hx, hindex, hv]
    rfl
  · simp only [isProxy, hx, Payload.isProxy]
  · intro t buffer offset length h
    rw [hx] at h
    cases h

theorem reads_listed {i : Nat} (hindex : k.index? = some i) (hv : elements.getD i none = none)
    (hk : x.property? k = p?) (hlazy : ∀ p, p? = some p → p.slot ≠ .lazyPrototype) : x.Reads k p? := by
  refine ⟨?_, ?_, ?_⟩
  · intro o e m
    simp only [Act.plainOwn, hx, hindex, hv]
    exact run_tableOwn hk hlazy o e m
  · simp only [isProxy, hx, Payload.isProxy]
  · intro t buffer offset length h
    rw [hx] at h
    cases h

theorem reads_length : x.Reads "length" (some ⟨.data (.ofNat length) (!fixed), false, false⟩) := by
  have hindex : Key.index? "length" = none := by decide +kernel
  refine ⟨?_, ?_, fun _ _ _ _ _ => hindex⟩
  · intro o e m
    simp only [Act.plainOwn, hx, hindex, beq_self_eq_true, if_true]
    rfl
  · simp only [isProxy, hx, Payload.isProxy]

end Elements

end Object

namespace Machine

def framed (m : Machine) (g : ObjectId) (this : Value) (args : List Value) : Machine :=
  { m with
    roots := (this :: args).map Root.value ++ m.roots
    frames := ⟨some g, true, 0⟩ :: m.frames
    depth := m.depth + 1 }

def unframed (m m' : Machine) : Machine := { m' with roots := m.roots, frames := m.frames, depth := m.depth }

end Machine

namespace Act

variable {n : Nat} {m : Machine} {o g : ObjectId} {x y : Object} {k : Key} {receiver : Value}

theorem run_unlessProxy {α : Type} {e : Engine} (hx : m.objects[o]? = some x)
    (hproxy : x.isProxy = false)
    (proxyRule : (target handler : Value) → (revoked : Bool) → Act α) (plainRule : Object → Act α) :
    unlessProxy o proxyRule plainRule e m = plainRule x e m := by
  unfold unlessProxy
  rw [run_bind_of_done (run_object hx)]
  refine run_congr ?_ e m
  split
  · next h => simp [Object.isProxy, h, Payload.isProxy] at hproxy
  · rfl

theorem run_plainGet {p? : Option Property} {e : Engine} (hx : m.objects[o]? = some x) (hreads : x.Reads k p?) :
    plainGet o k receiver e m =
      match p? with
      | some p => valueOfProperty p receiver e m
      | none => match x.proto with
        | some p => e.get p k receiver m
        | none => .done .undefined m := by
  unfold plainGet
  rw [run_bind_of_done (run_object hx), run_bind_of_done (hreads.own o e m)]
  cases p? with
  | some p => rfl
  | none =>
    cases hproto : x.proto with
    | some p =>
      refine run_congr (y := getFrom p k receiver) ?_ e m
      simp only
      split
      · next hpayload hindex =>
        rw [hreads.notElement _ _ _ _ hpayload] at hindex
        cases hindex
      · rfl
    | none =>
      refine run_congr (y := (pure .undefined : Act Value)) ?_ e m
      simp only
      split <;> rfl

theorem get_eq {p? : Option Property} (hx : m.objects[o]? = some x) (hreads : x.Reads k p?) :
    (Engine.ofLevel (n + 1)).get o k receiver m =
      match p? with
      | some p => valueOfProperty p receiver (Engine.ofLevel n) m
      | none => match x.proto with
        | some p => (Engine.ofLevel n).get p k receiver m
        | none => .done .undefined m := by
  show getRule o k receiver (Engine.ofLevel n) m = _
  rw [getRule, run_unlessProxy hx hreads.notProxy, run_plainGet hx hreads]

theorem get_own {v : Value} {writable enumerable configurable : Bool} (hx : m.objects[o]? = some x)
    (hreads : x.Reads k (some ⟨.data v writable, enumerable, configurable⟩)) :
    (Engine.ofLevel (n + 1)).get o k receiver m = .done v m := get_eq hx hreads

theorem get_inherited {p : ObjectId} (hx : m.objects[o]? = some x) (hreads : x.Reads k none) (hproto : x.proto = some p) :
    (Engine.ofLevel (n + 1)).get o k receiver m = (Engine.ofLevel n).get p k receiver m := by
  rw [get_eq hx hreads, hproto]

theorem leaving_leaving {α : Type} (x : Run α) (f g : Machine → Machine) :
    (x.leaving f).leaving g = x.leaving fun m => g (f m) := by
  induction x with
  | done a m => rfl
  | threw v m => rfl
  | stopped why m => rfl
  | ask q m resume ih => exact congrArg (Run.ask q m) (funext ih)
  | call begun args m resume ih => exact congrArg (Run.call begun args m) (funext ih)

theorem run_inNativeFrame {e : Engine} {this : Value} {args : List Value} {body : Act Value}
    (hdepth : m.depth < m.depthLimit) :
    inNativeFrame g this args body e m = (body e (m.framed g this args)).leaving m.unframed := by
  unfold inNativeFrame
  rw [run_bind_of_done run_machine, if_neg (Nat.not_le_of_lt hdepth)]
  show (holding _ (inFrame _ _)) e m = _
  rw [run_holding, run_inFrame, leaving_leaving]
  rfl

section Call

variable {b : Builtin} {this : Value} {args : List Value} (hy : m.objects[g]? = some y) (hb : y.payload = .builtin b)
  (hdepth : m.depth < m.depthLimit)
include hy hb hdepth

theorem call_builtin (hnew : b.requiresNew = false) : (Engine.ofLevel (n + 1)).call (.object g) this args m =
    (runBuiltin b this args .undefined (Engine.ofLevel n) (m.framed g this args)).leaving m.unframed := by
  show callValue (.object g) this args (Engine.ofLevel n) m = _
  simp only [callValue]
  rw [run_bind_of_done (run_object hy)]
  simp only [hb]
  rw [callBuiltin, run_inNativeFrame hdepth, hnew]
  rfl

theorem construct_builtin {newTarget : Value} (hconstructor : b.isConstructor = true) :
    (Engine.ofLevel (n + 1)).construct (.object g) args newTarget m =
      (runBuiltin b .undefined args newTarget (Engine.ofLevel n) (m.framed g newTarget args)).leaving m.unframed := by
  show constructValue (.object g) args newTarget (Engine.ofLevel n) m = _
  simp only [constructValue]
  have hy' : y.isConstructor = true := by simp [Object.isConstructor, hb, hconstructor]
  rw [run_bind_of_done (run_object hy)]
  simp only [hy', hb]
  exact run_inNativeFrame hdepth

theorem call_builtin_of_done {v : Value} (hnew : b.requiresNew = false)
    (hrun : runBuiltin b this args .undefined (Engine.ofLevel n) (m.framed g this args) =
      .done v (m.framed g this args)) :
    (Engine.ofLevel (n + 1)).call (.object g) this args m = .done v m := by
  rw [call_builtin hy hb hdepth hnew, hrun]
  rfl

end Call

end Act

/-- A property that is found at an object or, some steps further, at one of its prototypes. -/
inductive Finds (objects : Array Object) (k : Key) (p : Property) : Nat → ObjectId → Prop where
  | own {o : ObjectId} {x : Object} (hx : objects[o]? = some x) (hreads : x.Reads k (some p)) : Finds objects k p 0 o
  | inherited {o q : ObjectId} {x : Object} {steps : Nat} (hx : objects[o]? = some x) (hreads : x.Reads k none)
      (hproto : x.proto = some q) (hq : Finds objects k p steps q) : Finds objects k p (steps + 1) o

namespace Finds

variable {k : Key} {p : Property} {steps : Nat} {o : ObjectId}

theorem keep {a b : Array Object} (h : Finds a k p steps o) (hkeeps : Keeps (fun _ => True) a b) :
    Finds b k p steps o := by
  induction h with
  | own hx hreads => exact .own (hkeeps _ _ trivial hx) hreads
  | inherited hx hreads hproto _ ih => exact .inherited (hkeeps _ _ trivial hx) hreads hproto ih

theorem get_eq {m : Machine} (h : Finds m.objects k p steps o) (n : Nat) (receiver : Value) :
    (Engine.ofLevel (n + steps + 1)).get o k receiver m = Act.valueOfProperty p receiver (Engine.ofLevel n) m := by
  induction h with
  | own hx hreads => exact Act.get_eq hx hreads
  | inherited hx hreads hproto _ ih => exact (Act.get_inherited hx hreads hproto).trans ih

end Finds

def Property.IsMethod (p : Property) (g : ObjectId) : Prop := ∃ writable, p.slot = .data (.object g) writable

/-- A property that is read by a function. -/
def Property.IsGetter (p : Property) (g : ObjectId) : Prop := ∃ set, p.slot = .accessor (.object g) set

/-- An object has a builtin function under a key, of its own or from a prototype that is not too far away. -/
def Machine.HasBuiltin (m : Machine) (far : Nat) (o : ObjectId) (k : Key) (has : Property → ObjectId → Prop)
    (f : Builtin) : Prop :=
  ∃ steps p g y, steps ≤ far ∧ Finds m.objects k p steps o ∧ has p g ∧ m.objects[g]? = some y ∧ y.payload = .builtin f

namespace Machine.HasBuiltin

variable {m m' : Machine} {far n : Nat} {o q : ObjectId} {x : Object} {k : Key} {f : Builtin}
  {has : Property → ObjectId → Prop}

/-- What a prototype has, the objects have that it is the prototype of, unless they have something else under the key. -/
theorem inherit (h : m.HasBuiltin far q k has f) (hx : m.objects[o]? = some x) (hreads : x.Reads k none)
    (hproto : x.proto = some q) : m.HasBuiltin (far + 1) o k has f := by
  obtain ⟨steps, p, g, y, hfar, hfinds, hp, hy, hg⟩ := h
  exact ⟨steps + 1, p, g, y, Nat.succ_le_succ hfar, .inherited hx hreads hproto hfinds, hp, hy, hg⟩

theorem keep (h : m.HasBuiltin far o k has f) (hkeeps : Keeps (fun _ => True) m.objects m'.objects) :
    m'.HasBuiltin far o k has f := by
  obtain ⟨steps, p, g, y, hfar, hfinds, hp, hy, hg⟩ := h
  exact ⟨steps, p, g, y, hfar, hfinds.keep hkeeps, hp, hkeeps g y trivial hy, hg⟩

theorem exists_get (h : m.HasBuiltin far o k Property.IsMethod f) (receiver : Value) : ∃ g y,
    (Engine.ofLevel (far + n + 1)).get o k receiver m = .done (.object g) m ∧ m.objects[g]? = some y ∧
      y.payload = .builtin f := by
  obtain ⟨steps, p, g, y, hfar, hfinds, ⟨writable, hslot⟩, hy, hg⟩ := h
  obtain ⟨rest, rfl⟩ := Nat.exists_eq_add_of_le hfar
  refine ⟨g, y, ?_, hy, hg⟩
  rw [show steps + rest + n + 1 = rest + n + steps + 1 by omega, hfinds.get_eq, Act.valueOfProperty, hslot]
  rfl

theorem get_eq (h : m.HasBuiltin far o k Property.IsGetter f) {receiver v : Value} (hdepth : m.depth < m.depthLimit)
    (hnew : f.requiresNew = false)
    (hrun : ∀ e g, Act.runBuiltin f receiver [] .undefined e (m.framed g receiver []) =
      .done v (m.framed g receiver [])) :
    (Engine.ofLevel (far + n + 2)).get o k receiver m = .done v m := by
  obtain ⟨steps, p, g, y, hfar, hfinds, ⟨set, hslot⟩, hy, hg⟩ := h
  obtain ⟨rest, rfl⟩ := Nat.exists_eq_add_of_le hfar
  rw [show steps + rest + n + 2 = rest + n + 1 + steps + 1 by omega, hfinds.get_eq, Act.valueOfProperty, hslot]
  exact Act.call_builtin_of_done hy hg hdepth hnew (hrun _ g)

end Machine.HasBuiltin

end Embedding.Guest
