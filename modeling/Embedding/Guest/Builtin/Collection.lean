import Embedding.Guest.Builtin.Object

namespace Embedding.Guest

abbrev MapEntries := Array (Option (Value × Value))

abbrev SetEntries := Array (Option Value)

def entryKey : Value → Value
  | .number d => .number (if d.isZero then Double.zero else d)
  | v => v

namespace MapEntries

variable (entries : MapEntries)

def place? (k : Value) : Option Nat := entries.findIdx? fun e =>
  match e with
  | some (key, _) => Act.sameValueZero key k
  | none => false

def find? (k : Value) : Option Value :=
  (place? entries k).bind fun i => (entries.getD i none).map (·.2)

def insert (k v : Value) : MapEntries :=
  match place? entries k with
  | some i => entries.modify i fun _ => some (entryKey k, v)
  | none => entries.push (some (entryKey k, v))

def erase (k : Value) : MapEntries :=
  match place? entries k with
  | some i => entries.modify i fun _ => none
  | none => entries

def count : Nat := (entries.filter Option.isSome).size

end MapEntries

namespace SetEntries

variable (entries : SetEntries)

def place? (v : Value) : Option Nat := entries.findIdx? fun e =>
  match e with
  | some x => Act.sameValueZero x v
  | none => false

def insert (v : Value) : SetEntries :=
  if (place? entries v).isSome then entries else entries.push (some (entryKey v))

def erase (v : Value) : SetEntries :=
  match place? entries v with
  | some i => entries.modify i fun _ => none
  | none => entries

def count : Nat := (entries.filter Option.isSome).size

end SetEntries

def entryFrom (entries : Array (Option α)) (start : Nat) : Option (α × Nat) :=
  (List.range' start (entries.size - start)).findSome? fun i =>
    (entries.getD i none).map fun e => (e, i + 1)

namespace Act

def thisMap (this : Value) : Act (ObjectId × MapEntries) := do
  match this with
  | .object o =>
    match (← object o).payload with
    | .map entries => return (o, entries)
    | _ => raiseType "Map object expected"
  | _ => raiseType "Map object expected"

def thisSet (this : Value) : Act (ObjectId × SetEntries) := do
  match this with
  | .object o =>
    match (← object o).payload with
    | .set entries => return (o, entries)
    | _ => raiseType "Set object expected"
  | _ => raiseType "Set object expected"

def thisWeakMap (this : Value) : Act (ObjectId × List (ObjectId × Value)) := do
  match this with
  | .object o =>
    match (← object o).payload with
    | .weakMap entries => return (o, entries)
    | _ => raiseType "WeakMap object expected"
  | _ => raiseType "WeakMap object expected"

def thisWeakSet (this : Value) : Act (ObjectId × List ObjectId) := do
  match this with
  | .object o =>
    match (← object o).payload with
    | .weakSet entries => return (o, entries)
    | _ => raiseType "WeakSet object expected"
  | _ => raiseType "WeakSet object expected"

def filledContainer (proto : ObjectId) (payload : Payload) (items : Value) (adder : String) (pairs : Bool)
    (newTarget : Value) : Act Value := do
  let p ← match ← get newTarget "prototype" with
    | .object p => pure p
    | _ => pure proto
  let o ← newObject p payload
  if items.isNullish then return .object o
  holding [.object o] do
    let add ← getFrom o adder (.object o)
    if !(← isCallable add) then raiseType "set/add is not a function"
    forEachValue items fun item => do
      if pairs then
        if !item.isObject then raiseType "not an object"
        let k ← get item "0"
        let v ← get item "1"
        let _ ← call add (.object o) [k, v]
      else
        let _ ← call add (.object o) [item]
    return .object o

def visitEntries (this f thisArg : Value) (entryAt : Nat → Act (Option ((Value × Value) × Nat))) : Act Value := do
  if !(← isCallable f) then raiseType "not a function"
  repeating (fun (i : Nat) => do
    match ← entryAt i with
    | none => return .inr .undefined
    | some ((k, v), next) =>
      let _ ← holding [k, v] (call f thisArg [v, k, this])
      return .inl next) 0

def mapEntryAt (o : ObjectId) (i : Nat) : Act (Option ((Value × Value) × Nat)) := do
  match (← object o).payload with
  | .map entries => return entryFrom entries i
  | _ => return none

def setEntryAt (o : ObjectId) (i : Nat) : Act (Option ((Value × Value) × Nat)) := do
  match (← object o).payload with
  | .set entries => return (entryFrom entries i).map fun (v, next) => ((v, v), next)
  | _ => return none

def weakKey (v : Value) : Act ObjectId := do
  match v with
  | .object o => return o
  | _ => raiseType "not an object"

def newMapIterator (this : Value) (kind : IterationKind) : Act Value := do
  let (o, _) ← thisMap this
  return .object (← newObject Intrinsic.mapIteratorPrototype (.mapIterator (some o) kind 0))

def newSetIterator (this : Value) (kind : IterationKind) : Act Value := do
  let (o, _) ← thisSet this
  return .object (← newObject Intrinsic.setIteratorPrototype (.setIterator (some o) kind 0))

def collectionFn (f : CollectionFn) (this : Value) (args : List Value) (newTarget : Value) : Act Value := do
  let (a, b) := (arg args 0, arg args 1)
  match f with
  | .constructMap => filledContainer Intrinsic.mapPrototype (.map #[]) a "set" true newTarget
  | .constructSet => filledContainer Intrinsic.setPrototype (.set #[]) a "add" false newTarget
  | .constructWeakMap => filledContainer Intrinsic.weakMapPrototype (.weakMap []) a "set" true newTarget
  | .constructWeakSet => filledContainer Intrinsic.weakSetPrototype (.weakSet []) a "add" false newTarget
  | .groupBy =>
    let groups ← groupValues a b fun v => return entryKey v
    let entries ← groups.mapM fun (k, vs) => do return some (k, Value.object (← newArray vs))
    return .object (← newObject Intrinsic.mapPrototype (.map entries.toArray))
  | .mapSet =>
    let (o, entries) ← thisMap this
    charge 32
    setPayload o (.map (MapEntries.insert entries a b))
    return this
  | .mapGet => do return ((MapEntries.find? (← thisMap this).2 a).getD .undefined)
  | .mapHas => do return .bool (MapEntries.place? (← thisMap this).2 a).isSome
  | .mapDelete =>
    let (o, entries) ← thisMap this
    setPayload o (.map (MapEntries.erase entries a))
    return .bool (MapEntries.place? entries a).isSome
  | .mapClear =>
    let (o, entries) ← thisMap this
    setPayload o (.map (entries.map fun _ => none))
    return .undefined
  | .mapSize => do return .ofNat (MapEntries.count (← thisMap this).2)
  | .mapForEach =>
    let (o, _) ← thisMap this
    visitEntries this a b (mapEntryAt o)
  | .mapValues => newMapIterator this .values
  | .mapKeys => newMapIterator this .keys
  | .mapEntries => newMapIterator this .entries
  | .setAdd =>
    let (o, entries) ← thisSet this
    charge 32
    setPayload o (.set (SetEntries.insert entries a))
    return this
  | .setHas => do return .bool (SetEntries.place? (← thisSet this).2 a).isSome
  | .setDelete =>
    let (o, entries) ← thisSet this
    setPayload o (.set (SetEntries.erase entries a))
    return .bool (SetEntries.place? entries a).isSome
  | .setClear =>
    let (o, entries) ← thisSet this
    setPayload o (.set (entries.map fun _ => none))
    return .undefined
  | .setSize => do return .ofNat (SetEntries.count (← thisSet this).2)
  | .setForEach =>
    let (o, _) ← thisSet this
    visitEntries this a b (setEntryAt o)
  | .setValues => newSetIterator this .values
  | .setEntries => newSetIterator this .entries
  | .weakMapSet =>
    let (o, entries) ← thisWeakMap this
    let k ← weakKey a
    setPayload o (.weakMap ((k, b) :: entries.filter fun e => e.1 != k))
    return this
  | .weakMapGet =>
    let (_, entries) ← thisWeakMap this
    return ((a.objectId?.bind fun k => entries.lookup k).getD .undefined)
  | .weakMapHas =>
    let (_, entries) ← thisWeakMap this
    return .bool (a.objectId?.bind fun k => entries.lookup k).isSome
  | .weakMapDelete =>
    let (o, entries) ← thisWeakMap this
    setPayload o (.weakMap (entries.filter fun e => some e.1 != a.objectId?))
    return .bool (a.objectId?.bind fun k => entries.lookup k).isSome
  | .weakSetAdd =>
    let (o, entries) ← thisWeakSet this
    let k ← weakKey a
    setPayload o (.weakSet (k :: entries.filter (· != k)))
    return this
  | .weakSetHas => do
    let (_, entries) ← thisWeakSet this
    return .bool (entries.any fun k => some k == a.objectId?)
  | .weakSetDelete =>
    let (o, entries) ← thisWeakSet this
    setPayload o (.weakSet (entries.filter fun k => some k != a.objectId?))
    return .bool (entries.any fun k => some k == a.objectId?)

def entryValue (kind : IterationKind) (k v : Value) : Act Value := do
  match kind with
  | .keys => return k
  | .values => return v
  | .entries => return .object (← newArray [k, v])

def mapIteratorNext (this : Value) : Act Value := do
  match this with
  | .object o =>
    match (← object o).payload with
    | .mapIterator none _ _ => iterResult .undefined true
    | .mapIterator (some m) kind i =>
      match ← mapEntryAt m i with
      | none =>
        setPayload o (.mapIterator none kind 0)
        iterResult .undefined true
      | some ((k, v), next) =>
        setPayload o (.mapIterator (some m) kind next)
        iterResult (← entryValue kind k v) false
    | _ => raiseType "Map Iterator object expected"
  | _ => raiseType "Map Iterator object expected"

def setIteratorNext (this : Value) : Act Value := do
  match this with
  | .object o =>
    match (← object o).payload with
    | .setIterator none _ _ => iterResult .undefined true
    | .setIterator (some m) kind i =>
      match ← setEntryAt m i with
      | none =>
        setPayload o (.setIterator none kind 0)
        iterResult .undefined true
      | some ((k, v), next) =>
        setPayload o (.setIterator (some m) kind next)
        iterResult (← entryValue kind k v) false
    | _ => raiseType "Set Iterator object expected"
  | _ => raiseType "Set Iterator object expected"

end Act

end Embedding.Guest
