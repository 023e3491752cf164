import Embedding.Proofs.Making

namespace Embedding.Guest

/-- Nothing at an object, or some steps further at one of its prototypes, stands in the way when an object that inherits
from it is assigned to. -/
inductive Unhindered (objects : Array Object) (k : Key) : Nat → ObjectId → Prop where
  | writable {o : ObjectId} {x : Object} {v : Value} {enumerable configurable : Bool} (hx : objects[o]? = some x)
      (hreads : x.Reads k (some ⟨.data v true, enumerable, configurable⟩)) : Unhindered objects k 0 o
  | absent {o : ObjectId} {x : Object} (hx : objects[o]? = some x) (hreads : x.Reads k none) (hproto : x.proto = none) :
      Unhindered objects k 0 o
  | inherited {o q : ObjectId} {x : Object} {steps : Nat} (hx : objects[o]? = some x) (hreads : x.Reads k none)
      (hproto : x.proto = some q) (hq : Unhindered objects k steps q) : Unhindered objects k (steps + 1) o

/-- The error that the host makes with a text. -/
def Object.saying (message : String) : Object where
  proto := some (Intrinsic.errorPrototype .error)
  properties := #[(Key.ofString "message", .plain (.ofString message))]
  payload := .error

/-- The text that an error has of its own. -/
def Object.said? (x : Object) : Option Value :=
  match x.property? "message" with
  | some ⟨.data v _, _, _⟩ => some v
  | _ => none

/-- Whether errors take the texts that the host assigns to them. -/
def Machine.TakesMessages (m : Machine) (far : Nat) : Prop :=
  ∃ steps ≤ far, Unhindered m.objects "message" steps (Intrinsic.errorPrototype .error)

theorem Object.Reads.unique {x : Object} {k : Key} {p? q? : Option Property} (h : x.Reads k p?) (h' : x.Reads k q?) :
    p? = q? := by
  have hsame := (h.own 0 (Engine.ofLevel 0) default).symm.trans (h'.own 0 (Engine.ofLevel 0) default)
  cases hsame
  rfl

theorem Act.set_of_data {m : Machine} {o : ObjectId} {x : Object} {k : Key} {v w receiver : Value}
    {writable enumerable configurable : Bool} {n : Nat} (hx : m.objects[o]? = some x)
    (hreads : x.Reads k (some ⟨.data w writable, enumerable, configurable⟩)) (hne : (receiver == Value.object o) = false) :
    (Engine.ofLevel (n + 1)).set o k v receiver m =
      if writable then assignReceiver k v receiver (Engine.ofLevel n) m else .done (some .readOnly) m := by
  show setRule o k v receiver (Engine.ofLevel n) m = _
  rw [setRule, run_unlessProxy hx hreads.notProxy]
  unfold plainSet
  rw [run_bind_of_done (run_object hx)]
  refine (run_congr (hreads.match_element _ _) _ m).trans ?_
  rw [run_bind_of_done (hreads.own o _ m)]
  cases writable with
  | true => simp only [Bool.not_true, Bool.false_eq_true, if_false, hne, if_true]
  | false => rfl

namespace Unhindered

variable {k : Key} {steps : Nat} {o r : ObjectId}

theorem keep {a b : Array Object} (h : Unhindered a k steps o) (hkeeps : Keeps (fun _ => True) a b) :
    Unhindered b k steps o := by
  induction h with
  | writable hx hreads => exact .writable (hkeeps _ _ trivial hx) hreads
  | absent hx hreads hproto => exact .absent (hkeeps _ _ trivial hx) hreads hproto
  | inherited hx hreads hproto _ ih => exact .inherited (hkeeps _ _ trivial hx) hreads hproto ih

theorem set_eq {m : Machine} {y : Object} {v : Value} (h : Unhindered m.objects k steps o) (hr : m.objects[r]? = some y)
    (hy : y.Reads k none) (n : Nat) : (Engine.ofLevel (n + steps + 1)).set o k v (.object r) m =
      Act.assignReceiver k v (.object r) (Engine.ofLevel n) m := by
  induction h with
  | @writable o x _ _ _ hx hreads =>
    have hne : (Value.object r == Value.object o) = false := by
      rw [beq_eq_false_iff_ne]
      rintro ⟨⟩
      rw [hr] at hx
      cases hx
      cases hy.unique hreads
    exact Act.set_of_data hx hreads hne
  | absent hx hreads hproto => exact Act.set_absent hx hreads hproto
  | inherited hx hreads hproto _ ih => exact (Act.set_inherited hx hreads hproto).trans ih

end Unhindered

namespace Machine

variable {m : Machine}

theorem TakesMessages.keep {m' : Machine} {far : Nat} (h : m.TakesMessages far)
    (hkeeps : Keeps (fun _ => True) m.objects m'.objects) : m'.TakesMessages far := by
  obtain ⟨steps, hfar, hway⟩ := h
  exact ⟨steps, hfar, hway.keep hkeeps⟩

theorem takesMessages_initial : Realm.initial.TakesMessages 0 := by
  refine ⟨0, Nat.le_refl 0, ?_⟩
  have hsite : (Realm.siteAt? (Intrinsic.errorPrototype .error)).isSome = true := by decide +kernel
  have hmember : Realm.member? (Intrinsic.errorPrototype .error) "message" =
      some (.data "message" (.method (.ofString ""))) := rfl
  exact .writable (Realm.getElem?_initial hsite) (Object.reads_of_isTable (Realm.isTable_builtin (by decide +kernel))
    (Realm.stands_builtin hmember) (by rintro _ ⟨⟩; nofun))

end Machine

namespace Bridge

variable {m : Machine} {far : Nat} {message : String}

def untold : Object where
  proto := some (Intrinsic.errorPrototype .error)
  payload := .error

theorem run_raiseMessage {α : Type} (h : m.TakesMessages far) (n : Nat) :
    (raiseMessage message : Act α) (Engine.ofLevel (n + far + 3)) m =
      .threw (.object m.objects.size) (m.made (.saying message)) := by
  obtain ⟨steps, hfar, hway⟩ := h
  obtain ⟨k, rfl⟩ := Nat.exists_eq_add_of_le hfar
  have hnew : Act.newObject (Intrinsic.errorPrototype .error) .error (Engine.ofLevel (n + (steps + k) + 3)) m =
      .done m.objects.size (m.made untold) := Act.run_newObject rfl
  have hx : (m.made untold).objects[m.objects.size]? = some untold := m.getElem?_made untold 0
  have hreads : untold.Reads "message" none := Object.reads_of_isTable rfl rfl Object.not_lazy_of_none
  have hdefine : (Engine.ofLevel (n + k + 1)).define m.objects.size "message" (Act.plainDescriptor (.ofString message))
      (m.made untold) = .done none (m.made (.saying message)) := by
    show Act.defineRule _ _ _ (Engine.ofLevel (n + k)) _ = _
    rw [Act.defineRule, Act.run_unlessProxy hx rfl]
    have hsaying : untold.putProperty "message" (.plain (.ofString message)) = .saying message := by
      simp [Object.putProperty, Object.findIndex?, untold, Object.saying]
    have hput : Act.putProperty m.objects.size "message" (.plain (.ofString message)) (Engine.ofLevel (n + k))
        (m.made untold) = .done () (m.made (.saying message)) :=
      (Act.run_modifyObject hx (Object.change_eq hsaying rfl rfl)).trans (congrArg (Run.done ()) (Machine.filled_made _ _))
    unfold Act.plainDefine
    rw [Act.run_bind_of_done (Act.run_object hx)]
    show (Act.plainOwn m.objects.size untold "message" >>= _) _ _ = _
    rw [Act.run_bind_of_done (hreads.own _ _ _)]
    show (Act.putProperty m.objects.size "message" (.plain (.ofString message)) >>= _) _ _ = _
    rw [Act.run_bind_of_done hput]
    rfl
  have hassign : Act.assignReceiver "message" (.ofString message) (.object m.objects.size) (Engine.ofLevel (n + k + 1))
      (m.made untold) = .done none (m.made (.saying message)) := by
    have hown : Act.getOwn m.objects.size "message" (Engine.ofLevel (n + k + 1)) (m.made untold) = .done none (m.made untold) :=
      Act.getOwn_eq hx hreads
    show (Act.getOwn m.objects.size "message" >>= _) _ _ = _
    rw [Act.run_bind_of_done hown]
    exact hdefine
  have hset : Act.setOn m.objects.size "message" (.ofString message) (.object m.objects.size)
      (Engine.ofLevel (n + (steps + k) + 3)) (m.made untold) = .done none (m.made (.saying message)) := by
    have hlevel : n + (steps + k) + 3 = n + k + 1 + steps + 1 + 1 := by omega
    rw [hlevel]
    show (Engine.ofLevel (n + k + 1 + steps + 1 + 1)).set _ _ _ _ _ = _
    rw [Act.set_inherited hx hreads rfl, (hway.keep (.push untold)).set_eq hx hreads, hassign]
  unfold raiseMessage
  rw [Act.run_bind_of_done hnew]
  have hput : Act.put (.object m.objects.size) "message" (.ofString message) true (Engine.ofLevel (n + (steps + k) + 3))
      (m.made untold) = .done () (m.made (.saying message)) := by
    show (Act.setOn m.objects.size "message" (.ofString message) (.object m.objects.size) >>= _) _ _ = _
    rw [Act.run_bind_of_done hset]
    rfl
  rw [Act.run_bind_of_done hput]
  rfl

def thrown (kind : ErrorKind) (message : String) : Object where
  proto := some (Intrinsic.errorPrototype kind)
  properties := #[(Key.ofString "message", .method (.ofString message))]
  payload := .error

theorem run_newError {kind : ErrorKind} {e : Engine} (hshort : Act.cutMessage message = message) :
    Act.newError kind message e m = .done m.objects.size (m.made (thrown kind message)) := by
  have hnew : Act.newObject (Intrinsic.errorPrototype kind) .error e m = .done m.objects.size
      (m.made { proto := some (Intrinsic.errorPrototype kind), payload := .error }) := Act.run_newObject rfl
  have hthrown : ({ proto := some (Intrinsic.errorPrototype kind), payload := .error } : Object).putProperty "message"
      (.method (.ofString message)) = thrown kind message := by
    simp [Object.putProperty, Object.findIndex?, thrown]
  have hput : Act.putProperty m.objects.size "message" (.method (.ofString message)) e
      (m.made { proto := some (Intrinsic.errorPrototype kind), payload := .error }) =
        .done () (m.made (thrown kind message)) :=
    (Act.run_modifyObject (m.getElem?_made _ 0) (Object.change_eq hthrown rfl rfl)).trans
      (congrArg (Run.done ()) (Machine.filled_made _ _))
  unfold Act.newError
  rw [Act.run_bind_of_done hnew, hshort, Act.run_bind_of_done hput]
  rfl

/-- The machine that has made an error, and another when that did not take its text. -/
def refusing (m : Machine) : Machine := (m.made untold).made (thrown .type "'message' is read-only")

/-- Where guest code has made the text of errors read-only, it gets an error of the engine in place of the host's. -/
theorem run_raiseMessage_readOnly {α : Type} {x : Object} {v : Value} {enumerable configurable : Bool} {f : Frame}
    {frames : List Frame} (hx : m.objects[Intrinsic.errorPrototype .error]? = some x)
    (hreads : x.Reads "message" (some ⟨.data v false, enumerable, configurable⟩)) (hframes : m.frames = f :: frames)
    (hguest : f.isNative = false) (n : Nat) : (raiseMessage message : Act α) (Engine.ofLevel (n + 2)) m =
      .threw (.object (m.objects.size + 1)) (refusing m) := by
  have hnew : Act.newObject (Intrinsic.errorPrototype .error) .error (Engine.ofLevel (n + 2)) m =
      .done m.objects.size (m.made untold) := Act.run_newObject rfl
  have hy : (m.made untold).objects[m.objects.size]? = some untold := m.getElem?_made untold 0
  have hx' : (m.made untold).objects[Intrinsic.errorPrototype .error]? = some x :=
    Keeps.push (p := fun _ => True) untold _ _ trivial hx
  have hne : (Value.object m.objects.size == Value.object (Intrinsic.errorPrototype .error)) = false := by
    rw [beq_eq_false_iff_ne]
    intro heq
    have hsize := (Array.getElem?_eq_some_iff.mp hx).1
    rw [← Value.object.inj heq] at hsize
    exact Nat.lt_irrefl _ hsize
  have hset : Act.setOn m.objects.size "message" (.ofString message) (.object m.objects.size) (Engine.ofLevel (n + 2))
      (m.made untold) = .done (some .readOnly) (m.made untold) :=
    (Act.set_inherited hy (Object.reads_of_isTable rfl rfl Object.not_lazy_of_none) rfl).trans (Act.set_of_data hx' hreads hne)
  have herror : Act.newError .type "'message' is read-only" (Engine.ofLevel (n + 2)) (m.made untold) =
      .done (m.objects.size + 1) (refusing m) := by
    rw [run_newError rfl]
    simp [refusing, Machine.made]
  have hput : Act.put (.object m.objects.size) "message" (.ofString message) true (Engine.ofLevel (n + 2))
      (m.made untold) = .threw (.object (m.objects.size + 1))
        (refusing m) := by
    show (Act.setOn m.objects.size "message" (.ofString message) (.object m.objects.size) >>= _) _ _ = _
    rw [Act.run_bind_of_done hset]
    show (Act.newError .type "'message' is read-only" >>= _) _ _ = _
    rw [Act.run_bind_of_done herror]
    have hcode : Act.inGuestCode (Engine.ofLevel (n + 2)) (refusing m) =
        .done true (refusing m) := by
      have hsame : (refusing m).frames = f :: frames := hframes
      unfold Act.inGuestCode
      rw [Act.run_bind_of_done Act.run_machine]
      simp only [hsame, hguest, Bool.not_false, Act.run_pure]
    rw [Act.run_bind_of_done hcode]
    rfl
  unfold raiseMessage
  rw [Act.run_bind_of_done hnew, Act.run_bind, hput]
  rfl

end Bridge

end Embedding.Guest
