import Embedding.Callback
import Embedding.Guest.Builtin.Names
import Embedding.Guest.Value

namespace Embedding.Guest

inductive Slot where
  | data (value : Value) (writable : Bool)
  | accessor (get set : Value)
  /-- The prototype of a function, which is made when it is first looked at. -/
  | lazyPrototype
deriving DecidableEq, Inhabited

structure Property where
  slot : Slot
  enumerable : Bool
  configurable : Bool
deriving DecidableEq, Inhabited

namespace Property

def plain (v : Value) : Property := ⟨.data v true, true, true⟩

def method (v : Value) : Property := ⟨.data v true, false, true⟩

def constant (v : Value) : Property := ⟨.data v false, false, false⟩

def fixed (v : Value) : Property := ⟨.data v false, false, true⟩

def isAccessor (p : Property) : Bool :=
  match p.slot with
  | .accessor _ _ => true
  | _ => false

end Property

inductive CellMode
  | mutable
  | constant
  /-- The name by which a function expression refers to itself; assignments to it have no effect in
  sloppy code. -/
  | selfName
deriving DecidableEq, Inhabited

/-- What a name, or part of a function's surroundings, stands for. -/
inductive ScopeEntry where
  | cell (name : String) (id : CellId) (mode : CellMode)
  | withObject (o : ObjectId)
  | hidden (name : String) (s : Symbol)
  | home (o : Value)
  | function (f : ObjectId)
deriving DecidableEq, Inhabited

abbrev Scope := List ScopeEntry

/-- What the constructor of a class puts into a new object. -/
inductive InstancePart where
  | field (key : Key) (initial : Value)
  | hiddenMember (s : Symbol) (p : Property)
deriving Inhabited

structure Closure where
  node : FunctionNode
  program : Nat
  scope : Scope
  home : Value
  parts : List InstancePart
deriving Inhabited

inductive IterationKind
  | keys
  | values
  | entries
deriving DecidableEq, Inhabited

/-- What waits for a promise: the two functions that go on with it, and those that settle the promise of what they give. -/
structure Reaction where
  onFulfilled : Value
  onRejected : Value
  settlers : List Value := []
deriving DecidableEq, Inhabited

inductive PromiseState where
  /-- A promise that is resolved follows another, and can no more be settled by itself. -/
  | pending (reactions : List Reaction) (resolved : Bool)
  | fulfilled (v : Value)
  | rejected (v : Value)
deriving DecidableEq, Inhabited

inductive GeneratorState where
  | fresh (f : ObjectId) (this : Value) (args : List Value)
  /-- The values still to be handed out, and what comes after them. -/
  | collected (yields : List Value) (result : Value) (failed finished : Bool)
  | done
deriving DecidableEq, Inhabited

inductive Payload where
  | ordinary
  | array (elements : Array (Option Value)) (length : Nat) (fixed : Bool)
  | function (c : Closure)
  | builtin (f : Builtin)
  | bound (target this : Value) (args : List Value) (constructs : Bool)
  | host (h : Handle)
  /-- A function that keeps the arguments of each call for the host. -/
  | collector (id : Nat)
  | arguments
  | error
  | primitive (v : Value)
  | date (time : Double)
  | regexp (source flags : Text)
  | map (entries : Array (Option (Value × Value)))
  | set (entries : Array (Option Value))
  | weakMap (entries : List (ObjectId × Value))
  | weakSet (entries : List ObjectId)
  | arrayIterator (target : Value) (kind : IterationKind) (next : Nat)
  | mapIterator (target : Option ObjectId) (kind : IterationKind) (next : Nat)
  | setIterator (target : Option ObjectId) (kind : IterationKind) (next : Nat)
  | textIterator (target : Text) (next : Nat)
  | matchIterator (regexp : Value) (subject : Text) (isGlobal unicode : Bool) (done : Bool)
  | buffer (bytes : Array UInt8) (shared : Bool)
  | typedArray (element : ArrayElement) (buffer : ObjectId) (offset length : Nat)
  | dataView (buffer : ObjectId) (offset length : Nat)
  | proxy (target handler : Value) (callable constructs revoked : Bool)
  | generator (state : GeneratorState)
  | promise (state : PromiseState)
  | activation (scopes : List Scope) (values : List Value)
deriving Inhabited

structure Object where
  proto : Option ObjectId
  extensible : Bool := true
  properties : Array (Key × Property) := #[]
  payload : Payload := .ordinary
deriving Inhabited

namespace FunctionInfo

def isPlainConstructor (info : FunctionInfo) : Bool :=
  info.kind == .normal && !info.isAsync && !info.isGenerator

def isClassConstructor (info : FunctionInfo) : Bool :=
  info.kind == .baseConstructor || info.kind == .derivedConstructor

end FunctionInfo

namespace Object

variable (o : Object)

def findIndex? (k : Key) : Option Nat := o.properties.findIdx? fun p => p.1 = k

def property? (k : Key) : Option Property :=
  match o.properties.find? fun p => p.1 = k with
  | some (_, p) => some p
  | none => none

def putProperty (k : Key) (p : Property) : Object :=
  match o.findIndex? k with
  | some i => { o with properties := o.properties.modify i fun _ => (k, p) }
  | none => { o with properties := o.properties.push (k, p) }

def eraseProperty (k : Key) : Object :=
  match o.findIndex? k with
  | some i => { o with properties := o.properties.eraseIdxIfInBounds i }
  | none => o

def isArray : Bool :=
  match o.payload with
  | .array .. => true
  | _ => false

def isError : Bool :=
  match o.payload with
  | .error => true
  | _ => false

def isCallable : Bool :=
  match o.payload with
  | .function _ | .builtin _ | .bound .. | .host .. | .collector _ => true
  | .proxy _ _ callable _ _ => callable
  | _ => false

def isConstructor : Bool :=
  match o.payload with
  | .function c => c.node.info.isPlainConstructor || c.node.info.isClassConstructor
  | .builtin f => f.isConstructor
  | .bound _ _ _ constructs => constructs
  | .proxy _ _ _ constructs _ => constructs
  | _ => false

def handle? : Option Handle :=
  match o.payload with
  | .host h => some h
  | _ => none

def disowned : Object :=
  match o.payload with
  | .host _ => { o with payload := .ordinary }
  | _ => o

def emptied : Object :=
  match o.payload with
  | .host h => { proto := none, payload := .host h }
  | _ => { proto := none }

def change (f : Object → Object) : Object :=
  match o.payload with
  | .host h => { f o with payload := .host h }
  | _ => (f o).disowned

theorem disowned_of_handle? (h : o.handle? = none) : o.disowned = o := by
  unfold handle? at h
  unfold disowned
  split <;> simp_all

@[simp] theorem handle?_disowned : o.disowned.handle? = none := by
  unfold disowned
  split <;> simp_all [handle?]

theorem handle?_emptied : o.emptied.handle? = o.handle? := by
  unfold emptied
  split
  · next h => simp only [handle?, h]
  · next hnone =>
    have hlacks : o.handle? = none := by
      unfold handle?
      split
      · next h => exact absurd h (hnone _)
      · rfl
    exact hlacks.symm

@[simp] theorem handle?_change (f : Object → Object) : (o.change f).handle? = o.handle? := by
  unfold change
  split
  · next h => simp only [handle?, h]
  · next hnone =>
    rw [handle?_disowned, handle?]
    split
    · next h => exact absurd h (hnone _)
    · rfl

theorem change_of_handle? (f : Object → Object) (h : o.handle? = none) (hf : (f o).handle? = none) :
    o.change f = f o := by
  unfold change
  split
  · simp_all [handle?]
  · exact disowned_of_handle? _ hf

end Object

end Embedding.Guest
