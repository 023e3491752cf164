import Embedding.Guest.Operator

namespace Embedding.Guest.Act

def arg (args : List Value) (i : Nat) : Value := args.getD i .undefined

def keysValue (ks : List Key) : Act Value := do return .object (← newArray (ks.map Key.toValue))

def textKeys (ks : List Key) : List Key := ks.filter fun k =>
  match k with
  | .text _ => true
  | .symbol _ => false

def ownEnumerable (o : ObjectId) (kind : IterationKind) : Act (List Value) := do
  let mut out : List Value := []
  for k in textKeys (← ownKeys o) do
    match ← getOwn o k with
    | some p =>
      if p.enumerable then
        let v ← match kind with
          | .keys => pure k.toValue
          | .values => getFrom o k (.object o)
          | .entries => do
            let v ← getFrom o k (.object o)
            pure (.object (← newArray [k.toValue, v]))
        hold v
        out := v :: out
    | none => pure ()
  return out.reverse

def definePropertyOn (o : ObjectId) (k : Key) (v : Value) : Act Unit := do
  insist k (define o k (← descriptorOf v))

def definePropertiesOn (o : ObjectId) (v : Value) : Act Unit := do
  let props ← toObject v
  for k in ← ownKeys props do
    match ← getOwn props k with
    | some p => if p.enumerable then definePropertyOn o k (← getFrom props k (.object props))
    | none => pure ()

def sealObject (o : ObjectId) (freeze : Bool) : Act Unit := do
  if !(← preventExtensions o) then raiseType "proxy preventExtensions handler returned false"
  for k in ← ownKeys o do
    match ← getOwn o k with
    | some p =>
      let d : Descriptor := { configurable := some false }
      let d := if freeze && !p.isAccessor then { d with writable := some false } else d
      insist k (define o k d)
    | none => pure ()

def isSealedObject (o : ObjectId) (frozen : Bool) : Act Bool := do
  for k in ← ownKeys o do
    match ← getOwn o k with
    | some p =>
      if p.configurable then return false
      match p.slot with
      | .data _ true => if frozen then return false
      | _ => pure ()
    | none => pure ()
  return !(← isExtensible o)

def protoArgument (v : Value) : Act (Option ObjectId) := do
  match v with
  | .object p => return some p
  | .null => return none
  | _ => raiseType "not an object"

def className (x : Object) (isArrayLike : Bool) : String :=
  if isArrayLike then "Array"
  else if x.isCallable then "Function"
  else
    match x.payload with
    | .error => "Error"
    | .primitive (.bool _) => "Boolean"
    | .primitive (.number _) => "Number"
    | .primitive (.text _) => "String"
    | .arguments => "Arguments"
    | .date _ => "Date"
    | .regexp .. => "RegExp"
    | _ => "Object"

def objectToString (this : Value) : Act Value := do
  match this with
  | .undefined => return .ofString "[object Undefined]"
  | .null => return .ofString "[object Null]"
  | _ =>
    let o ← toObject this
    let name := className (← object o) (← isArray o)
    let tag ← getFrom o Symbol.toStringTag (.object o)
    match tag with
    | .text t => return .text (Text.ofString "[object " ++ t ++ Text.ofString "]")
    | _ => return .ofString ("[object " ++ name ++ "]")

def groupValues (items f : Value) (key : Value → Act Value) : Act (List (Value × List Value)) := do
  if !(← isCallable f) then raiseType "not a function"
  let values ← iterableToList items
  let mut groups : List (Value × List Value) := []
  for (v, i) in values.zipIdx do
    let k ← key (← call f .undefined [v, .ofNat i])
    groups :=
      if groups.any fun g => sameValueZero g.1 k then
        groups.map fun g => if sameValueZero g.1 k then (g.1, g.2 ++ [v]) else g
      else groups ++ [(k, [v])]
  return groups

def objectFn (f : ObjectFn) (this : Value) (args : List Value) (newTarget : Value) : Act Value := do
  let a := arg args 0
  let own (v : Value) : Act ObjectId := toObject v
  match f with
  | .construct =>
    match newTarget with
    | .object n =>
      if n != Intrinsic.objectConstructor then
        let p ← match ← get newTarget "prototype" with
          | .object p => pure p
          | _ => pure Intrinsic.objectPrototype
        return .object (← newObject p)
      else if a.isNullish then return .object (← newObject Intrinsic.objectPrototype)
      else return .object (← own a)
    | _ => if a.isNullish then return .object (← newObject Intrinsic.objectPrototype) else return .object (← own a)
  | .create =>
    let p ← protoArgument a
    let o ← alloc { proto := p }
    if !(arg args 1).isUndefined then holding [.object o] (definePropertiesOn o (arg args 1))
    return .object o
  | .getPrototypeOf =>
    match ← prototype (← own a) with
    | some p => return .object p
    | none => return .null
  | .setPrototypeOf =>
    if a.isNullish then raiseType "not an object"
    let p ← protoArgument (arg args 1)
    match a with
    | .object o => insist "" (setPrototype o p)
    | _ => pure ()
    return a
  | .defineProperty =>
    match a with
    | .object o =>
      let k ← toKey (arg args 1)
      definePropertyOn o k (arg args 2)
      return a
    | _ => raiseType "not an object"
  | .defineProperties =>
    match a with
    | .object o =>
      definePropertiesOn o (arg args 1)
      return a
    | _ => raiseType "not an object"
  | .getOwnPropertyNames => do keysValue (textKeys (← ownKeys (← own a)))
  | .getOwnPropertySymbols => do
    keysValue ((← ownKeys (← own a)).filter fun k =>
      match k with
      | .symbol _ => true
      | .text _ => false)
  | .groupBy =>
    let groups ← groupValues a (arg args 1) fun v => do return (← toKey v).toValue
    let o ← alloc { proto := none }
    for (k, vs) in groups do
      createProperty o (← toKey k) (.object (← newArray vs))
    return .object o
  | .keys => return .object (← newArray (← ownEnumerable (← own a) .keys))
  | .values => return .object (← newArray (← ownEnumerable (← own a) .values))
  | .entries => return .object (← newArray (← ownEnumerable (← own a) .entries))
  | .isExtensible =>
    match a with
    | .object o => return .bool (← isExtensible o)
    | _ => return .bool false
  | .preventExtensions =>
    match a with
    | .object o =>
      if !(← preventExtensions o) then raiseType "proxy preventExtensions handler returned false"
      return a
    | _ => return a
  | .getOwnPropertyDescriptor =>
    let o ← own a
    match ← getOwn o (← toKey (arg args 1)) with
    | some p => describe p
    | none => return .undefined
  | .getOwnPropertyDescriptors =>
    let o ← own a
    let r ← newObject Intrinsic.objectPrototype
    for k in ← ownKeys o do
      match ← getOwn o k with
      | some p => createProperty r k (← describe p)
      | none => pure ()
    return .object r
  | .is => return .bool (sameValue a (arg args 1))
  | .assign =>
    let o ← own a
    for s in args.tail do
      if !s.isNullish then
        let source ← own s
        for k in ← ownKeys source do
          match ← getOwn source k with
          | some p => if p.enumerable then put (.object o) k (← getFrom source k (.object source))
          | none => pure ()
    return .object o
  | .seal =>
    match a with
    | .object o =>
      sealObject o false
      return a
    | _ => return a
  | .freeze =>
    match a with
    | .object o =>
      sealObject o true
      return a
    | _ => return a
  | .isSealed =>
    match a with
    | .object o => return .bool (← isSealedObject o false)
    | _ => return .bool true
  | .isFrozen =>
    match a with
    | .object o => return .bool (← isSealedObject o true)
    | _ => return .bool true
  | .fromEntries =>
    let r ← newObject Intrinsic.objectPrototype
    holding [.object r] <| forEachValue a fun entry => do
      if !entry.isObject then raiseType "not an object"
      let k ← get entry "0"
      let v ← get entry "1"
      createProperty r (← toKey k) v
    return .object r
  | .hasOwn =>
    let o ← own a
    return .bool (← getOwn o (← toKey (arg args 1))).isSome
  | .toString => objectToString this
  | .toLocaleString => invoke this "toString" []
  | .valueOf => return .object (← own this)
  | .hasOwnProperty =>
    let k ← toKey a
    return .bool (← getOwn (← own this) k).isSome
  | .isPrototypeOf =>
    match a with
    | .object o =>
      let target ← own this
      let m ← machine
      let rec climb : Nat → ObjectId → Act Bool
        | 0, _ => return false
        | n + 1, o => do
          match ← prototype o with
          | none => return false
          | some p => if p == target then return true else climb n p
      return .bool (← climb (m.objects.size + 1000) o)
    | _ => return .bool false
  | .propertyIsEnumerable =>
    let k ← toKey a
    match ← getOwn (← own this) k with
    | some p => return .bool p.enumerable
    | none => return .bool false
  | .getProto =>
    match ← prototype (← own this) with
    | some p => return .object p
    | none => return .null
  | .setProto =>
    if this.isNullish then raiseType "not an object"
    match this, a with
    | .object o, .object p => insist "" (setPrototype o (some p))
    | .object o, .null => insist "" (setPrototype o none)
    | _, _ => pure ()
    return .undefined
  | .defineGetter =>
    let o ← own this
    if !(← isCallable (arg args 1)) then raiseType "not a function"
    let k ← toKey a
    insist k (define o k { get := some (arg args 1), enumerable := some true, configurable := some true })
    return .undefined
  | .defineSetter =>
    let o ← own this
    if !(← isCallable (arg args 1)) then raiseType "not a function"
    let k ← toKey a
    insist k (define o k { set := some (arg args 1), enumerable := some true, configurable := some true })
    return .undefined
  | .lookupGetter => lookupAccessor (← own this) (← toKey a) true
  | .lookupSetter => lookupAccessor (← own this) (← toKey a) false
where
  lookupAccessor (o : ObjectId) (k : Key) (getter : Bool) : Act Value := do
    let m ← machine
    let rec climb : Nat → ObjectId → Act Value
      | 0, _ => return .undefined
      | n + 1, o => do
        match ← getOwn o k with
        | some ⟨.accessor g s, _, _⟩ => return if getter then g else s
        | some _ => return .undefined
        | none =>
          match ← prototype o with
          | some p => climb n p
          | none => return .undefined
    climb (m.objects.size + 1000) o

/-- The words that a function's text begins with when its source is not known. -/
def functionOpening (info : FunctionInfo) : String :=
  (if info.isAsync then "async " else "") ++ (if info.isGenerator then "function *" else "function ")

/-- The text of a function. The context may have forgotten how it was written. -/
def functionText (x : Object) (name : String) : Act String := do
  match x.payload with
  | .function c =>
    let source := c.node.info.source
    let known ← if source.isEmpty then pure false else ask (.remembersTexts c.program)
    return if known then source else native (functionOpening c.node.info)
  | _ => return native "function "
where
  native (opening : String) : String := opening ++ name ++ "() \x7b\n    [native code]\n\x7d"

def argumentList (v : Value) : Act (List Value) := do
  match v with
  | .object o =>
    let n ← lengthOf o
    if 65534 < n then raiseRange "too many arguments in function call (only 65534 allowed)"
    (List.range n).mapM fun i => getFrom o (.ofNat i) v
  | _ => raiseType "not a object"

def functionFromTexts (opening : String) (args : List Value) : Act Value := do
  let texts ← args.mapM toText
  let params := Text.join "," texts.dropLast
  let body := texts.getLast?.getD Text.empty
  let source := Text.ofString ("(" ++ opening ++ " anonymous(") ++ params ++ Text.ofString "\n) \x7b\n" ++ body ++
    Text.ofString "\n\x7d)"
  runProgram source none

def functionFn (f : FunctionFn) (this : Value) (args : List Value) (_newTarget : Value) : Act Value := do
  match f with
  | .construct => functionFromTexts "function" args
  | .constructGenerator => functionFromTexts "function *" args
  | .constructAsync => functionFromTexts "async function" args
  | .prototype => return .undefined
  | .call => call this (arg args 0) args.tail
  | .apply =>
    if !(← isCallable this) then raiseType "not a function"
    let list := arg args 1
    if list.isNullish then call this (arg args 0) []
    else
      let items ← argumentList list
      holding items (call this (arg args 0) items)
  | .bind =>
    if !(← isCallable this) then raiseType "not a function"
    let constructs ← isConstructor this
    let target := this.objectId?.getD 0
    let proto ← prototype target
    let o ← alloc { proto, payload := .bound this (arg args 0) args.tail constructs }
    let length ← match ← getOwn target "length" with
      | some _ =>
        match ← get this "length" with
        | .number d =>
          if d.isInfinite then pure (Value.number (if d.isNegative then Double.zero else d))
          else pure (.ofInt (max 0 (integerOfDouble d - args.tail.length)))
        | _ => pure (.ofNat 0)
      | none => pure (.ofNat 0)
    putProperty o "length" (.fixed length)
    let name ← match ← get this "name" with
      | .text t => pure t
      | _ => pure Text.empty
    putProperty o "name" (.fixed (.text (Text.ofString "bound " ++ name)))
    return .object o
  | .toString =>
    match this with
    | .object o =>
      let x ← object o
      if !x.isCallable then raiseType "not a function"
      let name ← match ← get this "name" with
        | .text t => pure t.toStringLossy
        | _ => pure ""
      return .ofString (← functionText x name)
    | _ => raiseType "not a function"
  | .hasInstance => return .bool (← ordinaryInstance this (arg args 0))
  | .throwTypeError => raiseType "invalid property access"

def errorFn (f : ErrorFn) (this : Value) (args : List Value) (newTarget : Value) : Act Value := do
  match f with
  | .construct kind =>
    let p ← match newTarget with
      | .object _ =>
        match ← get newTarget "prototype" with
        | .object p => pure p
        | _ => pure (Intrinsic.errorPrototype kind)
      | _ => pure (Intrinsic.errorPrototype kind)
    let o ← newObject p .error
    let (message, options) := if kind == .aggregate then (arg args 1, arg args 2) else (arg args 0, arg args 1)
    holding [.object o] do
      if !message.isUndefined then putProperty o "message" (.method (.text (← toText message)))
      match options with
      | .object c => if ← has c "cause" then putProperty o "cause" (.method (← get options "cause"))
      | _ => pure ()
      if kind == .aggregate then
        let errors ← iterableToList (arg args 0)
        putProperty o "errors" (.method (.object (← newArray errors)))
    traceError o true
    return .object o
  | .toString =>
    if !this.isObject then raiseType "not an object"
    let name ← get this "name"
    let name ← if name.isUndefined then pure (Text.ofString "Error") else toText name
    let message ← get this "message"
    let message ← if message.isUndefined then pure Text.empty else toText message
    if name.isEmpty then return .text message
    else if message.isEmpty then return .text name
    else return .text (name ++ Text.ofString ": " ++ message)

def newProxy (target handler : Value) : Act ObjectId := do
  match target, handler with
  | .object t, .object _ =>
    let x ← object t
    alloc { proto := none, payload := .proxy target handler x.isCallable x.isConstructor false }
  | _, _ => raiseType "not an object"

def proxyFn (f : ProxyFn) (_this : Value) (args : List Value) (_newTarget : Value) : Act Value := do
  match f with
  | .construct =>
    return .object (← newProxy (arg args 0) (arg args 1))
  | .revocable =>
    let p ← newProxy (arg args 0) (arg args 1)
    let revoke ← newBuiltinFunction (.proxy (.revoke p)) "" 0
    let o ← newObject Intrinsic.objectPrototype
    putProperty o "proxy" (.plain (.object p))
    putProperty o "revoke" (.plain (.object revoke))
    return .object o
  | .revoke p =>
    modifyObject p fun x =>
      match x.payload with
      | .proxy _ _ callable constructs _ => { x with payload := .proxy .null .null callable constructs true }
      | _ => x
    return .undefined

def reflectFn (f : ReflectFn) (_this : Value) (args : List Value) (_newTarget : Value) : Act Value := do
  let a := arg args 0
  let target : Act ObjectId :=
    match a with
    | .object o => return o
    | _ => raiseType "not an object"
  let accepted (r : Option Refusal) : Value := .bool r.isNone
  match f with
  | .apply =>
    if !(← isCallable a) then raiseType "not a function"
    let items ← argumentList (arg args 2)
    holding items (call a (arg args 1) items)
  | .construct =>
    if !(← isConstructor a) then raiseType "not a constructor"
    let newTarget ←
      if 2 < args.length then
        if !(← isConstructor (arg args 2)) then raiseType "not a constructor"
        pure (arg args 2)
      else pure a
    let items ← argumentList (arg args 1)
    holding items (construct a items newTarget)
  | .defineProperty =>
    let o ← target
    let k ← toKey (arg args 1)
    return accepted (← define o k (← descriptorOf (arg args 2)))
  | .deleteProperty => return .bool (← delete (← target) (← toKey (arg args 1)))
  | .get =>
    let o ← target
    let k ← toKey (arg args 1)
    getFrom o k (if 2 < args.length then arg args 2 else a)
  | .getOwnPropertyDescriptor =>
    let o ← target
    match ← getOwn o (← toKey (arg args 1)) with
    | some p => describe p
    | none => return .undefined
  | .getPrototypeOf =>
    match ← prototype (← target) with
    | some p => return .object p
    | none => return .null
  | .has => return .bool (← has (← target) (← toKey (arg args 1)))
  | .isExtensible => return .bool (← isExtensible (← target))
  | .ownKeys => do keysValue (← ownKeys (← target))
  | .preventExtensions => return .bool (← preventExtensions (← target))
  | .set =>
    let o ← target
    let k ← toKey (arg args 1)
    return accepted (← setOn o k (arg args 2) (if 3 < args.length then arg args 3 else a))
  | .setPrototypeOf => return accepted (← setPrototype (← target) (← protoArgument (arg args 1)))

end Embedding.Guest.Act
