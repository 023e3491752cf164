import Embedding.Guest.Evaluate.Class
import Embedding.Guest.Regex.Pattern

namespace Embedding.Guest.Act

def evalItems (env : Env) : List Expr → Act (List Value)
  | [] => return []
  | .spread e :: rest => do
    let v ← eval env e
    let vs ← holding [v] (iterableToList v)
    holding vs do return vs ++ (← evalItems env rest)
  | e :: rest => do
    let v ← eval env e
    holding [v] do return v :: (← evalItems env rest)

def evalArray (env : Env) (items : List Expr) : Act Value := do
  let rec go : List Expr → Array (Option Value) → Act (Array (Option Value))
    | [], acc => return acc
    | .hole :: rest, acc => go rest (acc.push none)
    | .spread e :: rest, acc => do
      let v ← eval env e
      let vs ← holding [v] (iterableToList v)
      holding vs (go rest (acc ++ (vs.map some).toArray))
    | e :: rest, acc => do
      let v ← eval env e
      holding [v] (go rest (acc.push (some v)))
  let elements ← go items #[]
  charge (16 * elements.size)
  return .object (← newObject Intrinsic.arrayPrototype (.array elements elements.size false))

def nameComputed (value : Expr) (v : Value) (k : Key) : Act Unit := do
  match value, v with
  | .function info _ _ _, .object o => if info.name.isEmpty then nameFunction o k
  | .classOf info _ _ _, .object o => if info.label.isEmpty then nameFunction o k
  | _, _ => pure ()

def objectMember (env : Env) (o : ObjectId) (e : Expr) : Act Unit := do
  match e with
  | .spread e =>
    let v ← eval env e
    holding [v] (copyProperties o v [])
  | .member _ kind key value =>
    match kind with
    | .proto =>
      match ← eval env value with
      | .object p => modifyObject o fun x => { x with proto := some p }
      | .null => modifyObject o fun x => { x with proto := none }
      | _ => pure ()
    | .field =>
      let k ← toKey (← eval env key)
      let v ← eval env value
      match key with
      | .literal _ => pure ()
      | _ => nameComputed value v k
      createProperty o k v
    | _ =>
      let k ← toKey (← eval env key)
      let f ← makeMethod env value o k (accessorWord kind)
      defineMethod o k kind (.object f) true
  | _ => pure ()

def evalObject (env : Env) (members : List Expr) : Act Value := do
  let o ← newObject Intrinsic.objectPrototype
  holding [.object o] (members.forM (objectMember env o))
  return .object o

/-- The object that a template tag gets: the cooked texts, and the raw ones beside them. -/
def templateObject (cooked : List (Option Text)) (raw : List Text) : Act Value := do
  let r ← newArray (raw.map .text)
  let t ← newArray (cooked.map fun c =>
    match c with
    | some t => .text t
    | none => .undefined)
  putProperty t "raw" (.constant (.object r))
  return .object t

def evalDelete (env : Env) (e : Expr) (line : Nat) : Act Value := do
  match e with
  | .name id _ => return .bool (← deleteName env id)
  | .property o k _ => remove (← eval env o) (.text k)
  | .index o k _ =>
    let o ← eval env o
    let k ← holding [o] (eval env k)
    remove o k
  | .superProperty _ _ => raise .reference "unsupported reference to 'super'"
  | .chain body =>
    match body with
    | .property o k _ =>
      match ← link env o with
      | none => return .bool true
      | some (b, _) => remove b (.text k)
    | .index o k _ =>
      match ← link env o with
      | none => return .bool true
      | some (b, _) =>
        let k ← holding [b] (eval env k)
        remove b k
    | e =>
      let _ ← link env e
      return .bool true
  | e =>
    let _ ← eval env e
    return .bool true
where
  remove (o k : Value) : Act Value := do
    atLine line
    let id ← toObject o
    let k ← toKey k
    let ok ← delete id k
    if !ok && env.isStrict then raiseType "could not delete property"
    return .bool ok

def evalUpdate (env : Env) (increment before : Bool) (target : Expr) (line : Nat) : Act Value := do
  let r ← reference env target
  holding r.values do
    let old ← toNumeric (← readReference env r)
    atLine line
    let new : Value := match old with
      | .bigint n => .bigint (if increment then n + 1 else n - 1)
      | .number d => .number (if increment then d.add (Double.ofInt 1) else d.sub (Double.ofInt 1))
      | v => v
    writeReference env r new
    return if before then new else old

/-- A property reference whose key is converted once, for reading and writing. -/
def fixedReference (env : Env) (target : Expr) : Act Reference := do
  let r ← reference env target
  match r with
  | .property o k line =>
    match k with
    | .object _ =>
      atLine line
      let k ← holding [o] (toKey k)
      return .property o k.toValue line
    | _ => return r
  | _ => return r

def evalCompound (env : Env) (op : BinaryOp) (target value : Expr) (line : Nat) : Act Value := do
  let r ← fixedReference env target
  holding r.values do
    let old ← readReference env r
    let v ← holding [old] (eval env value)
    atLine line
    let new ← binaryOperation op old v
    writeReference env r new
    return new

def evalLogicalAssign (env : Env) (op : LogicalOp) (target value : Expr) : Act Value := do
  let r ← fixedReference env target
  holding r.values do
    let old ← readReference env r
    let keep := match op with
      | .and => !old.isTruthy
      | .or => old.isTruthy
      | .coalesce => !old.isNullish
    if keep then return old
    let v ← eval env value
    writeReference env r v
    return v

def evalAssign (env : Env) (target value : Expr) (line : Nat) : Act Value := do
  match target with
  | .name id l =>
    let p ← place id env.scope
    match p with
    | .global =>
      if env.isStrict && (← globalLexical? id).isNone && !(← has Intrinsic.globalObject id) then
        let _ ← eval env value
        atLine l
        raiseNotDefined id
    | _ => pure ()
    let v ← eval env value
    atLine line
    holding [v] (writePlace env.isStrict id v p)
    return v
  | _ =>
    let r ← reference env target
    let v ← holding r.values (eval env value)
    let r := match r with
      | .property o k _ => Reference.property o k line
      | .hidden o n _ => .hidden o n line
      | .super h t k _ => .super h t k line
      | r => r
    writeReference env r v
    return v

def evalTypeOf (env : Env) (e : Expr) : Act Value := do
  match e with
  | .name id _ =>
    let v ← readPlace id false (← place id env.scope)
    return .ofString (← typeName v)
  | e => return .ofString (← typeName (← eval env e))

def evalSuperCall (env : Env) (args : List Expr) (line : Nat) : Act Value := do
  match runningFunction? env.scope, declaredCell? "this" env.scope with
  | some f, some cellId =>
    let parent ← prototype f
    let parent : Value := match parent with
      | some p => .object p
      | none => .null
    let args ← evalItems env args
    atLine line
    let newTarget ← newTargetValue env
    if !(← isConstructor parent) then raiseType "not a constructor"
    let r ← holding args (construct parent args newTarget)
    if (← cell cellId).isSome then raise .reference "'this' can be initialized only once"
    setCell cellId (some r)
    match r, (← object f).payload with
    | .object o, .function c => addParts o c.parts
    | _, _ => pure ()
    return r
  | _, _ => raise .syntaxError "super() is only valid in a derived class constructor"

def directEval (env : Env) (args : List Value) : Act Value := do
  match args.headD .undefined with
  | .text t => runProgram t (some env)
  | v => return v

def isEvalFunction (v : Value) : Act Bool := do
  match v with
  | .object o =>
    match (← object o).payload with
    | .builtin (.globals .eval) => return true
    | _ => return false
  | _ => return false

/-- A link of a chain of properties and calls: its value and the object it came from. -/
def evalLink (env : Env) (e : Expr) : Act (Option (Value × Value)) := do
  match e with
  | .property o k line =>
    match ← link env o with
    | none => return none
    | some (b, _) =>
      atLine line
      let v ← holding [b] (get b (.text k))
      return some (v, b)
  | .index o k line =>
    match ← link env o with
    | none => return none
    | some (b, _) =>
      let k ← holding [b] (eval env k)
      atLine line
      if b.isNullish then
        let key ← toKey k
        let v ← get b key
        return some (v, b)
      else
        let key ← holding [b] (toKey k)
        let v ← holding [b] (get b key)
        return some (v, b)
  | .hiddenProperty o n line =>
    match ← link env o with
    | none => return none
    | some (b, _) =>
      atLine line
      let v ← holding [b] (readHidden env b n)
      return some (v, b)
  | .superProperty k line =>
    let this ← thisValue env
    let home ← superHome env
    let k ← holding [this, home] (eval env k)
    let v ← readReference env (.super home this k line)
    return some (v, this)
  | .optional o =>
    match ← link env o with
    | none => return none
    | some (v, this) => if v.isNullish then return none else return some (v, this)
  | .chain body =>
    match ← link env body with
    | none => return some (.undefined, .undefined)
    | r => return r
  | .call callee args line =>
    match ← link env callee with
    | none => return none
    | some (f, this) =>
      holding [f, this] do
        let args ← evalItems env args
        atLine line
        let direct ← match callee with
          | .name "eval" _ => isEvalFunction f
          | _ => pure false
        let v ← if direct then directEval env args else call f this args
        return some (v, .undefined)
  | .tagged tag cooked raw args line =>
    match ← link env tag with
    | none => return none
    | some (f, this) =>
      holding [f, this] do
        let t ← templateObject cooked raw
        let args ← holding [t] (evalItems env args)
        atLine line
        let v ← call f this (t :: args)
        return some (v, .undefined)
  | .name id line =>
    atLine line
    match ← place id env.scope with
    | .withObject o => return some (← getFrom o id (.object o), .object o)
    | p => return some (← readPlace id true p, .undefined)
  | e => return some (← eval env e, .undefined)

def evalNew (env : Env) (callee : Expr) (args : List Expr) (line : Nat) : Act Value := do
  let f ← eval env callee
  holding [f] do
    let args ← evalItems env args
    atLine line
    if !(← isConstructor f) then raiseType "not a constructor"
    construct f args f

def evalHiddenIn (env : Env) (name : String) (e : Expr) (line : Nat) : Act Value := do
  let v ← eval env e
  atLine line
  match v, hiddenSymbol? name env.scope with
  | .object o, some s => return .bool ((← object o).property? (.symbol s)).isSome
  | _, _ => raiseType "invalid 'in' operand"

/-- How many values a generator yields at most. Its body runs to the end when the first of them is drawn. -/
def generatorLimit : Nat := 10000

def yieldValue (env : Env) (v : Value) : Act Unit := do
  match env.yields with
  | none => stop .suspended
  | some i =>
    let n := (((← machine).collections)[i]?.getD []).length
    if generatorLimit ≤ n then stop .suspended
    modifyMachine fun m => { m with collections := m.collections.modify i fun vs => [v] :: vs }

def evalExpr (env : Env) (e : Expr) : Act Value := do
  match e with
  | .hole => return .undefined
  | .literal v => return .ofLiteral v
  | .regexp source flags line =>
    atLine line
    let o ← newObject Intrinsic.regexpPrototype (.regexp source flags)
    putProperty o "lastIndex" ⟨.data (.ofNat 0) true, false, false⟩
    return .object o
  | .name id line =>
    atLine line
    readName env id
  | .this line =>
    atLine line
    thisValue env
  | .newTarget => newTargetValue env
  | .importMeta => return .object (← alloc { proto := none })
  | .array items line =>
    atLine line
    evalArray env items
  | .object members line =>
    atLine line
    evalObject env members
  | .function info params functions body => return .object (← makeFunction env ⟨info, params, functions, body⟩)
  | .classOf info superclass construct elements => evalClass env info superclass construct elements
  | .unary op e line =>
    let v ← eval env e
    atLine line
    unaryOperation op v
  | .typeOf e _ => evalTypeOf env e
  | .delete e line => evalDelete env e line
  | .update increment before target line => evalUpdate env increment before target line
  | .binary op a b line =>
    let x ← eval env a
    let y ← holding [x] (eval env b)
    atLine line
    holding [x, y] (binaryOperation op x y)
  | .logical op a b =>
    let x ← eval env a
    let keep := match op with
      | .and => !x.isTruthy
      | .or => x.isTruthy
      | .coalesce => !x.isNullish
    if keep then return x else eval env b
  | .conditional test yes no => if (← eval env test).isTruthy then eval env yes else eval env no
  | .assign target value line => evalAssign env target value line
  | .compound op target value line => evalCompound env op target value line
  | .logicalAssign op target value _ => evalLogicalAssign env op target value
  | .destructure pattern value line =>
    let v ← eval env value
    atLine line
    holding [v] (bindPattern env .assign pattern v)
    return v
  | .sequence a b =>
    let _ ← eval env a
    eval env b
  | .superCall args line => evalSuperCall env args line
  | .new callee args line => evalNew env callee args line
  | .yield e delegate line =>
    let v ← eval env e
    atLine line
    if delegate then forEachValue v (yieldValue env) else yieldValue env v
    return .undefined
  | .await e line =>
    let v ← eval env e
    atLine line
    awaitValue v ((env.waits.map (·.2)).getD 0) (env.waits.map (·.1))
  | .importCall e _ =>
    let _ ← eval env e
    settled (.pending [] false)
  | .hiddenIn name e line => evalHiddenIn env name e line
  | .spread e => eval env e
  | .withDefault e _ => eval env e
  | .member .. => return .undefined
  | .hidden _ => return .undefined
  | .property .. | .index .. | .hiddenProperty .. | .superProperty .. | .call .. | .tagged ..
  | .optional _ | .chain _ =>
    match ← evalLink env e with
    | some (v, _) => return v
    | none => return .undefined

end Embedding.Guest.Act
