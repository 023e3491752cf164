import Embedding.Guest.Element

namespace Embedding.Guest

def gapLimit : Nat := 100000

namespace Act

def sameValue (a b : Value) : Bool :=
  match a, b with
  | .number x, .number y => x == y || (x.isNaN && y.isNaN)
  | _, _ => a == b

def makePrototype (o : ObjectId) (x : Object) : Act Property := do
  let isGenerator := match x.payload with
    | .function c => c.node.info.isGenerator
    | _ => false
  let parent := if isGenerator then Intrinsic.generatorPrototype else Intrinsic.objectPrototype
  let p ← newObject parent
  if !isGenerator then putProperty p "constructor" (.method (.object o))
  let property : Property := ⟨.data (.object p) true, false, false⟩
  putProperty o "prototype" property
  return property

def tableOwn (o : ObjectId) (x : Object) (k : Key) : Act (Option Property) := do
  match x.property? k with
  | some ⟨.lazyPrototype, _, _⟩ => return some (← makePrototype o x)
  | p => return p

def plainOwn (o : ObjectId) (x : Object) (k : Key) : Act (Option Property) := do
  match x.payload with
  | .array elements length fixed =>
    match k.index? with
    | some i =>
      match elements.getD i none with
      | some v => return some (.plain v)
      | none => tableOwn o x k
    | none =>
      if k == "length" then return some ⟨.data (.ofNat length) (!fixed), false, false⟩ else tableOwn o x k
  | .typedArray t buffer offset length =>
    match k.index? with
    | some i =>
      if i < length then return some ⟨.data (← readElement t buffer offset i) true, true, true⟩
      else return none
    | none => tableOwn o x k
  | .primitive (.text t) =>
    match k.index? with
    | some i =>
      match t.unit? i with
      | some u => return some ⟨.data (.text ⟨#[u]⟩) false, true, false⟩
      | none => tableOwn o x k
    | none =>
      if k == "length" then return some ⟨.data (.ofNat t.length) false, false, false⟩ else tableOwn o x k
  | _ => tableOwn o x k

def changedProperty (old : Option Property) (d : Descriptor) : Property :=
  let oldEnumerable := (old.map (·.enumerable)).getD false
  let oldConfigurable := (old.map (·.configurable)).getD false
  let slot : Slot :=
    if d.get.isSome || d.set.isSome then
      match old with
      | some ⟨.accessor g s, _, _⟩ => .accessor (d.get.getD g) (d.set.getD s)
      | _ => .accessor (d.get.getD .undefined) (d.set.getD .undefined)
    else
      match old with
      | some ⟨.accessor g s, _, _⟩ =>
        if d.value.isSome || d.writable.isSome then .data (d.value.getD .undefined) (d.writable.getD false)
        else .accessor g s
      | some ⟨.data v w, _, _⟩ => .data (d.value.getD v) (d.writable.getD w)
      | _ => .data (d.value.getD .undefined) (d.writable.getD false)
  ⟨slot, d.enumerable.getD oldEnumerable, d.configurable.getD oldConfigurable⟩

def changeAllowed (old : Property) (d : Descriptor) : Bool :=
  if old.configurable then true
  else if d.configurable == some true then false
  else if d.enumerable.isSome && d.enumerable != some old.enumerable then false
  else
    match old.slot with
    | .accessor g s =>
      d.value.isNone && d.writable.isNone && (d.get.isNone || d.get == some g) &&
        (d.set.isNone || d.set == some s)
    | .data v writable =>
      if d.get.isSome || d.set.isSome then false
      else
        writable ||
          (d.writable != some true &&
            (match d.value with
              | some w => sameValue v w
              | none => true))
    | .lazyPrototype => true

/-- Keeps an element of an array: in the row of plain elements where it fits. -/
def putElement (x : Object) (elements : Array (Option Value)) (length : Nat) (fixed : Bool) (i : Nat)
    (p : Property) : Object :=
  let length := if length ≤ i then i + 1 else length
  let k := Key.ofNat i
  match p with
  | ⟨.data v true, true, true⟩ =>
    if i < elements.size then
      let x := if (elements.getD i none).isSome then x else x.eraseProperty k
      { x with payload := .array (elements.modify i fun _ => some v) length fixed }
    else if i - elements.size ≤ gapLimit then
      let x := if x.properties.isEmpty then x else x.eraseProperty k
      let padded := elements ++ Array.replicate (i - elements.size) none
      { x with payload := .array (padded.push (some v)) length fixed }
    else
      let x := x.putProperty k p
      { x with payload := .array elements length fixed }
  | _ =>
    let x := x.putProperty k p
    { x with payload := .array (elements.modify i fun _ => none) length fixed }

def stuckIndex? (x : Object) (n : Nat) : Option Nat :=
  x.properties.foldl (fun acc (k, p) =>
    match k.index? with
    | some i =>
      if n ≤ i && !p.configurable then some (match acc with
        | some j => max i j
        | none => i) else acc
    | none => acc) none

def cutArray (x : Object) (elements : Array (Option Value)) (n : Nat) (fixed : Bool) : Object × Bool :=
  let stuck := stuckIndex? x n
  let n' := match stuck with
    | some i => i + 1
    | none => n
  let properties := x.properties.filter fun (k, _) =>
    match k.index? with
    | some i => i < n'
    | none => true
  ({ x with properties, payload := .array (elements.extract 0 n') n' fixed }, stuck.isNone)

def arrayLengthOf (v : Value) : Act Nat := do
  let d ← toDouble v
  match d.toInt? with
  | some n =>
    if 0 ≤ n && n < 2 ^ 32 then return n.toNat else raiseRange "invalid array length"
  | none => raiseRange "invalid array length"

def defineLength (o : ObjectId) (elements : Array (Option Value)) (length : Nat) (fixed : Bool)
    (d : Descriptor) : Act (Option Refusal) := do
  let n ← match d.value with
    | some v => arrayLengthOf v
    | none => pure length
  let old : Property := ⟨.data (.ofNat length) (!fixed), false, false⟩
  if !changeAllowed old { d with value := d.value.map fun _ => .ofNat n } then
    return some (if fixed && n != length then .readOnly else .notConfigurable)
  let nowFixed := fixed || d.writable == some false
  if length ≤ n then
    modifyObject o fun x => { x with payload := .array elements n nowFixed }
    return none
  else
    let x ← object o
    let (x, whole) := cutArray x elements n nowFixed
    modifyObject o fun _ => x
    return if whole then none else some .notConfigurable

def plainDefine (o : ObjectId) (k : Key) (d : Descriptor) : Act (Option Refusal) := do
  let x ← object o
  match x.payload, k.index? with
  | .typedArray t buffer offset length, some i =>
    if length ≤ i then return some .outOfBounds
    else if d.get.isSome || d.set.isSome || d.configurable == some false || d.enumerable == some false ||
        d.writable == some false then return some .notConfigurable
    else
      match d.value with
      | some v =>
        let bits ← bitsOfElement t v
        writeElement t buffer offset i bits
        return none
      | none => return none
  | payload, index =>
    match payload with
    | .array elements length fixed =>
      if k == "length" then return ← defineLength o elements length fixed d
    | _ => pure ()
    let old ← plainOwn o x k
    match old with
    | none => if !x.extensible then return some .notExtensible
    | some p => if !changeAllowed p d then return some .notConfigurable
    let p := changedProperty old d
    match payload, index with
    | .array elements length fixed, some i =>
      if fixed && length ≤ i then return some .readOnly
      if elements.size ≤ i then charge 16
      modifyObject o fun x =>
        match x.payload with
        | .array elements length fixed => putElement x elements length fixed i p
        | _ => x
    | _, _ => putProperty o k p
    return none

def valueOfProperty (p : Property) (receiver : Value) : Act Value := do
  match p.slot with
  | .data v _ => return v
  | .accessor g _ => if g.isUndefined then return .undefined else call g receiver []
  | .lazyPrototype => return .undefined

def plainGet (o : ObjectId) (k : Key) (receiver : Value) : Act Value := do
  let x ← object o
  match ← plainOwn o x k with
  | some p => valueOfProperty p receiver
  | none =>
    match x.payload, k.index? with
    | .typedArray .., some _ => return .undefined
    | _, _ =>
      match x.proto with
      | some p => getFrom p k receiver
      | none => return .undefined

def plainHas (o : ObjectId) (k : Key) : Act Bool := do
  let x ← object o
  match ← plainOwn o x k with
  | some _ => return true
  | none =>
    match x.payload, k.index? with
    | .typedArray .., some _ => return false
    | _, _ =>
      match x.proto with
      | some p => has p k
      | none => return false

/-- Stores a value in an element or property that the object has already. -/
def storeOwn (o : ObjectId) (k : Key) (v : Value) : Act Unit := do
  let x ← object o
  match x.payload, k.index? with
  | .array _ _ _, some i =>
    modifyObject o fun x =>
      match x.payload with
      | .array elements length fixed =>
        if i < elements.size && (elements.getD i none).isSome then
          { x with payload := .array (elements.modify i fun _ => some v) length fixed }
        else
          match x.property? k with
          | some p => x.putProperty k { p with slot := .data v true }
          | none => x
      | _ => x
  | _, _ =>
    modifyObject o fun x =>
      match x.property? k with
      | some p => x.putProperty k { p with slot := .data v true }
      | none => x

/-- Puts a value under a key of the object that an assignment started at. -/
def assignReceiver (k : Key) (v receiver : Value) : Act (Option Refusal) := do
  match receiver with
  | .object r =>
    match ← getOwn r k with
    | some ⟨.accessor _ _, _, _⟩ => return some .noSetter
    | some ⟨.data _ false, _, _⟩ => return some .readOnly
    | some _ => define r k { value := some v }
    | none => define r k (plainDescriptor v)
  | _ => return some .notObject

def plainSet (o : ObjectId) (k : Key) (v receiver : Value) : Act (Option Refusal) := do
  let x ← object o
  match x.payload, k.index? with
  | .typedArray t buffer offset length, some i =>
    let bits ← bitsOfElement t v
    if i < length then writeElement t buffer offset i bits
    return none
  | _, _ =>
    match ← plainOwn o x k with
    | some ⟨.data _ writable, _, _⟩ =>
      if !writable then return some .readOnly
      else if receiver == .object o then
        match x.payload with
        | .array elements length fixed =>
          if k == "length" then defineLength o elements length fixed { value := some v }
          else
            storeOwn o k v
            return none
        | _ =>
          storeOwn o k v
          return none
      else assignReceiver k v receiver
    | some ⟨.accessor _ s, _, _⟩ =>
      if s.isUndefined then return some .noSetter
      else
        let _ ← call s receiver [v]
        return none
    | some ⟨.lazyPrototype, _, _⟩ => return none
    | none =>
      match x.proto with
      | some p => setOn p k v receiver
      | none => assignReceiver k v receiver

def plainDelete (o : ObjectId) (k : Key) : Act Bool := do
  let x ← object o
  match ← plainOwn o x k with
  | none => return true
  | some p =>
    match x.payload, k.index? with
    | .typedArray .., some _ => return false
    | _, _ =>
      if !p.configurable then return false
      match x.payload, k.index? with
      | .array elements length fixed, some i =>
        if i < elements.size && (elements.getD i none).isSome then
          setPayload o (.array (elements.modify i fun _ => none) length fixed)
        else modifyObject o fun x => x.eraseProperty k
      | _, _ => modifyObject o fun x => x.eraseProperty k
      return true

/-- The keys in the order in which programs see them: indices by size, names, symbols. -/
def orderedKeys (extra : List Nat) (inner : List Key) (table : List Key) : List Key :=
  let indices := extra ++ table.filterMap (·.index?)
  let isName (k : Key) : Bool := match k with
    | .text _ => k.index?.isNone
    | .symbol _ => false
  let isShown (k : Key) : Bool := match k with
    | .symbol s => !s.hidden
    | .text _ => false
  let sorted := if table.any (·.index?.isSome) then indices.mergeSort (· ≤ ·) else indices
  sorted.map Key.ofNat ++ inner ++ table.filter isName ++ table.filter isShown

def plainKeys (x : Object) : List Key :=
  let table := x.properties.toList.map (·.1)
  match x.payload with
  | .array elements _ _ =>
    let present := (elements.toList.zipIdx).filterMap fun (v, i) => v.map fun _ => i
    orderedKeys present ["length"] table
  | .typedArray _ _ _ length => orderedKeys (List.range length) [] table
  | .primitive (.text t) => orderedKeys (List.range t.length) ["length"] table
  | _ => orderedKeys [] [] table

def plainSetPrototype (o : ObjectId) (p : Option ObjectId) : Act (Option Refusal) := do
  let x ← object o
  if x.proto == p then return none
  if !x.extensible then return some .frozenPrototype
  if o == Intrinsic.objectPrototype then return some .frozenPrototype
  let m ← machine
  if reaches m m.objects.size p then return some .circular
  modifyObject o fun x => { x with proto := p }
  return none
where
  reaches (m : Machine) : Nat → Option ObjectId → Bool
    | 0, _ => false
    | _, none => false
    | n + 1, some q =>
      let y := m.objects.getD q default
      match y.payload with
      | .proxy .. => q == o
      | _ => q == o || reaches m n y.proto

structure Trap where
  target : ObjectId
  handler : Value
  method : Option Value

def proxyTrap (target handler : Value) (revoked : Bool) (name : String) : Act Trap := do
  if revoked then raiseType "revoked proxy"
  let f ← get handler name
  return ⟨target.objectId?.getD 0, handler, if f.isNullish then none else some f⟩

def describe (p : Property) : Act Value := do
  let o ← newObject Intrinsic.objectPrototype
  match p.slot with
  | .data v w =>
    putProperty o "value" (.plain v)
    putProperty o "writable" (.plain (.bool w))
  | .accessor g s =>
    putProperty o "get" (.plain g)
    putProperty o "set" (.plain s)
  | .lazyPrototype => pure ()
  putProperty o "enumerable" (.plain (.bool p.enumerable))
  putProperty o "configurable" (.plain (.bool p.configurable))
  return .object o

def descriptorOf (v : Value) : Act Descriptor := do
  match v with
  | .object o =>
    let flag (name : String) : Act (Option Bool) := do
      if ← has o name then return some (← get v name).isTruthy else return none
    let value (name : String) : Act (Option Value) := do
      if ← has o name then return some (← get v name) else return none
    let accessor (name message : String) : Act (Option Value) := do
      match ← value name with
      | none => return none
      | some f => if f.isUndefined || (← isCallable f) then return some f else raiseType message
    let enumerable ← flag "enumerable"
    let configurable ← flag "configurable"
    let val ← value "value"
    let writable ← flag "writable"
    let getter ← accessor "get" "invalid getter"
    let setter ← accessor "set" "invalid setter"
    if (getter.isSome || setter.isSome) && (val.isSome || writable.isSome) then
      raiseType "cannot have setter/getter and value or writable"
    return { value := val, get := getter, set := setter, writable, enumerable, configurable }
  | _ => raiseType "not an object"

def describeChange (d : Descriptor) : Act Value := do
  let o ← newObject Intrinsic.objectPrototype
  let put (name : String) (v : Option Value) : Act Unit :=
    match v with
    | some v => putProperty o name (.plain v)
    | none => pure ()
  put "get" d.get
  put "set" d.set
  put "value" d.value
  put "writable" (d.writable.map .bool)
  put "enumerable" (d.enumerable.map .bool)
  put "configurable" (d.configurable.map .bool)
  return .object o

variable (target handler : Value) (revoked : Bool)

def proxyGetOwn (k : Key) : Act (Option Property) := do
  let trap ← proxyTrap target handler revoked "getOwnPropertyDescriptor"
  match trap.method with
  | none => getOwn trap.target k
  | some f =>
    let r ← call f handler [target, k.toValue]
    let old ← getOwn trap.target k
    let inconsistent : Act (Option Property) := raiseType "proxy: inconsistent getOwnPropertyDescriptor"
    match r with
    | .undefined =>
      match old with
      | some p => if !p.configurable || !(← isExtensible trap.target) then inconsistent else return none
      | none => return none
    | .object _ =>
      let d ← descriptorOf r
      let p := changedProperty none d
      match old with
      | some q =>
        if !changeAllowed q (if q.configurable then d else { d with configurable := some p.configurable }) then
          inconsistent
        else if !p.configurable && q.configurable then inconsistent
        else return some p
      | none =>
        if !(← isExtensible trap.target) || !p.configurable then inconsistent else return some p
    | _ => inconsistent

def proxyDefine (k : Key) (d : Descriptor) : Act (Option Refusal) := do
  let trap ← proxyTrap target handler revoked "defineProperty"
  match trap.method with
  | none => define trap.target k d
  | some f =>
    let r ← call f handler [target, k.toValue, ← describeChange d]
    if !r.isTruthy then return some (.trap "defineProperty exception")
    let inconsistent : Act (Option Refusal) := raiseType "proxy: inconsistent defineProperty"
    match ← getOwn trap.target k with
    | none =>
      if !(← isExtensible trap.target) || d.configurable == some false then inconsistent else return none
    | some q =>
      if !changeAllowed q d || (d.configurable == some false && q.configurable) then inconsistent
      else return none

def proxyHas (k : Key) : Act Bool := do
  let trap ← proxyTrap target handler revoked "has"
  match trap.method with
  | none => has trap.target k
  | some f =>
    let r := (← call f handler [target, k.toValue]).isTruthy
    if !r then
      match ← getOwn trap.target k with
      | some p =>
        if !p.configurable || !(← isExtensible trap.target) then raiseType "proxy: inconsistent has"
      | none => pure ()
    return r

def proxyGet (k : Key) (receiver : Value) : Act Value := do
  let trap ← proxyTrap target handler revoked "get"
  match trap.method with
  | none => getFrom trap.target k receiver
  | some f =>
    let r ← call f handler [target, k.toValue, receiver]
    match ← getOwn trap.target k with
    | some ⟨.data v false, _, false⟩ => if !sameValue v r then raiseType "proxy: inconsistent get"
    | some ⟨.accessor .undefined _, _, false⟩ => if !r.isUndefined then raiseType "proxy: inconsistent get"
    | _ => pure ()
    return r

def proxySet (k : Key) (v receiver : Value) : Act (Option Refusal) := do
  let trap ← proxyTrap target handler revoked "set"
  match trap.method with
  | none => setOn trap.target k v receiver
  | some f =>
    let r ← call f handler [target, k.toValue, v, receiver]
    if !r.isTruthy then return some (.trap "cannot set property")
    match ← getOwn trap.target k with
    | some ⟨.data w false, _, false⟩ => if !sameValue v w then raiseType "proxy: inconsistent set"
    | some ⟨.accessor _ .undefined, _, false⟩ => raiseType "proxy: inconsistent set"
    | _ => pure ()
    return none

def proxyDelete (k : Key) : Act Bool := do
  let trap ← proxyTrap target handler revoked "deleteProperty"
  match trap.method with
  | none => delete trap.target k
  | some f =>
    let r := (← call f handler [target, k.toValue]).isTruthy
    if r then
      match ← getOwn trap.target k with
      | some p => if !p.configurable then raiseType "proxy: inconsistent deleteProperty"
      | none => pure ()
    return r

def listItems (o : ObjectId) : Act (List Value) := do
  let n ← lengthOf o
  (List.range n).mapM fun i => getFrom o (.ofNat i) (.object o)

def proxyKeys : Act (List Key) := do
  let trap ← proxyTrap target handler revoked "ownKeys"
  match trap.method with
  | none => ownKeys trap.target
  | some f =>
    let r ← call f handler [target]
    match r with
    | .object o =>
      let items ← listItems o
      let keys ← items.mapM fun v =>
        match v with
        | .text t => pure (Key.text t)
        | .symbol s => pure (Key.symbol s)
        | _ => raiseType "proxy: properties must be strings or symbols"
      if keys.eraseDups.length != keys.length then raiseType "proxy: duplicate property"
      let extensible ← isExtensible trap.target
      for k in ← ownKeys trap.target do
        match ← getOwn trap.target k with
        | some p =>
          if (!extensible || !p.configurable) && !keys.contains k then
            raiseType "proxy: target property must be present in proxy ownKeys"
        | none => pure ()
      if !extensible then
        let own ← ownKeys trap.target
        if keys.any fun k => !own.contains k then
          raiseType "proxy: property not present in target were returned by non extensible proxy"
      return keys
    | _ => raiseType "not an object"

def proxyPrototype : Act (Option ObjectId) := do
  let trap ← proxyTrap target handler revoked "getPrototypeOf"
  match trap.method with
  | none => prototype trap.target
  | some f =>
    let r ← call f handler [target]
    let p ← match r with
      | .object p => pure (some p)
      | .null => pure none
      | _ => raiseType "proxy: inconsistent prototype"
    if !(← isExtensible trap.target) then
      if (← prototype trap.target) != p then raiseType "proxy: inconsistent prototype"
    return p

def proxySetPrototype (p : Option ObjectId) : Act (Option Refusal) := do
  let trap ← proxyTrap target handler revoked "setPrototypeOf"
  match trap.method with
  | none => setPrototype trap.target p
  | some f =>
    let r ← call f handler [target, match p with
      | some p => .object p
      | none => .null]
    if !r.isTruthy then return some (.trap "bad prototype")
    if !(← isExtensible trap.target) then
      if (← prototype trap.target) != p then raiseType "proxy: inconsistent prototype"
    return none

def proxyIsExtensible : Act Bool := do
  let trap ← proxyTrap target handler revoked "isExtensible"
  match trap.method with
  | none => isExtensible trap.target
  | some f =>
    let r := (← call f handler [target]).isTruthy
    if r != (← isExtensible trap.target) then raiseType "proxy: inconsistent isExtensible"
    return r

def proxyPreventExtensions : Act Bool := do
  let trap ← proxyTrap target handler revoked "preventExtensions"
  match trap.method with
  | none => preventExtensions trap.target
  | some f =>
    let r := (← call f handler [target]).isTruthy
    if r then
      if ← isExtensible trap.target then raiseType "proxy: inconsistent preventExtensions"
    return r

end Act

end Embedding.Guest
