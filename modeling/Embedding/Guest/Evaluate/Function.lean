import Embedding.Guest.Evaluate.Name

namespace Embedding.Guest.Act

def functionParent (info : FunctionInfo) : ObjectId :=
  match info.isAsync, info.isGenerator with
  | false, false => Intrinsic.functionPrototype
  | false, true => Intrinsic.generatorFunctionPrototype
  | true, false => Intrinsic.asyncFunctionPrototype
  | true, true => Intrinsic.asyncGeneratorFunctionPrototype

/-- Makes the function that is written here; `home` is where its `super` looks. -/
def makeFunction (env : Env) (node : FunctionNode) (home : Value := .undefined) : Act ObjectId := do
  let info := node.info
  let scope := keptScope info.mentioned info.usesEval (info.kind == .arrow) env.scope
  let o ← newObject (functionParent info) (.function ⟨node, env.program, scope, home, []⟩)
  putProperty o "length" (.fixed (.ofNat info.length))
  putProperty o "name" (.fixed (.ofString info.name))
  if info.isPlainConstructor then
    modifyObject o fun x =>
      { x with properties := x.properties.push (Key.ofString "prototype", ⟨.lazyPrototype, false, false⟩) }
  else if info.isGenerator then
    let parent := if info.isAsync then Intrinsic.asyncGeneratorPrototype else Intrinsic.generatorPrototype
    let p ← newObject parent
    putProperty o "prototype" ⟨.data (.object p) true, false, false⟩
  return o

def nameFunction (o : ObjectId) (k : Key) (before : String := "") : Act Unit := do
  let text := match k with
    | .text t => t
    | .symbol s =>
      match s.description with
      | none => Text.empty
      | some d => if s.hidden then d else Text.ofString "[" ++ d ++ Text.ofString "]"
  putProperty o "name" (.fixed (.text (Text.ofString before ++ text)))

def addCell (env : Env) (name : String) (v : Option Value) (mode : CellMode := .mutable) : Act Env := do
  let id ← newCell v
  return { env with scope := .cell name id mode :: env.scope }

def addCells (env : Env) (names : List String) (v : Option Value) : Act Env :=
  names.foldlM (fun env n => addCell env n v) env

def addLexicals (env : Env) (lexicals : List Lexical) : Act Env :=
  lexicals.foldlM (fun env l => addCell env l.name none (if l.constant then .constant else .mutable)) env

def addFunctions (env : Env) (functions : List Expr) : Act Unit :=
  functions.forM fun f =>
    match f with
    | .function info params fs body => do
      let o ← makeFunction env ⟨info, params, fs, body⟩
      let name := if info.name.isEmpty then "*default*" else info.name
      beginName env name (.object o)
    | _ => pure ()

def execAll (env : Env) : List Stmt → Act Completion
  | [] => return .normal
  | s :: rest => do
    match ← exec env s with
    | .normal => execAll env rest
    | c => return c

def argumentsObject (args : List Value) (callee : ObjectId) (strict : Bool) : Act ObjectId := do
  let o ← newObject Intrinsic.objectPrototype .arguments
  for (v, i) in args.zipIdx do
    putProperty o (.ofNat i) (.plain v)
  putProperty o "length" (.method (.ofNat args.length))
  putProperty o Symbol.iterator (.method (.object Intrinsic.arrayValues))
  if strict then
    let thrower := Value.object Intrinsic.throwTypeError
    putProperty o "callee" ⟨.accessor thrower thrower, false, false⟩
  else putProperty o "callee" (.method (.object callee))
  return o

def sloppyThis (this : Value) : Act Value := do
  match this with
  | .undefined | .null => return .object Intrinsic.globalObject
  | .object _ => return this
  | _ => return .object (← toObject this)

def openFunction (o : ObjectId) (c : Closure) (this newTarget : Value) (args : List Value) : Act Env := do
  let info := c.node.info
  let mentions (n : String) : Bool := info.usesEval || info.mentioned.contains n
  let env : Env := { scope := c.scope, isStrict := info.isStrict, program := c.program }
  let env ← if info.selfNamed && mentions info.name then addCell env info.name (some (.object o)) .selfName
    else pure env
  if info.kind == .arrow then return env
  let env := { env with scope := .function o :: (if c.home.isUndefined then env.scope else .home c.home :: env.scope) }
  let env ←
    if mentions "this" || info.isClassConstructor then
      let this ←
        if info.kind == .derivedConstructor then pure none
        else if info.isStrict then pure (some this)
        else pure (some (← sloppyThis this))
      addCell env "this" this
    else pure env
  let env ← if mentions "new.target" || info.isClassConstructor then addCell env "new.target" (some newTarget)
    else pure env
  if info.kind != .initializer && mentions "arguments" && !info.paramNames.contains "arguments" then
    addCell env "arguments" (some (.object (← argumentsObject args o info.isStrict)))
  else return env

def bindSimple (env : Env) : List String → List Value → Act Env
  | [], _ => return env
  | n :: names, [] => do bindSimple (← addCell env n (some .undefined)) names []
  | n :: names, v :: args => do bindSimple (← addCell env n (some v)) names args

def bindParams (env : Env) : List Expr → List Value → Act Unit
  | [], _ => pure ()
  | .spread p :: _, args => do bindPattern env .initial p (.object (← newArray args))
  | p :: params, args => do
    bindPattern env .initial p (args.headD .undefined)
    bindParams env params args.tail

def openBody (env : Env) (c : Closure) (args : List Value) : Act Env := do
  let info := c.node.info
  let env ←
    if info.simple then bindSimple env info.paramNames args
    else
      let env ← addCells env info.paramNames none
      bindParams env c.node.params args
      pure env
  let own := info.paramNames ++ (if (declaredCell? "arguments" env.scope).isSome then ["arguments"] else [])
  let env ← addCells env (info.vars.filter fun n => !own.contains n) (some .undefined)
  let env ← addLexicals env info.lexicals
  addFunctions env c.node.functions
  return env

def runBody (env : Env) (c : Closure) (args : List Value) : Act Value := do
  let env ← holdingScope env.scope (openBody env c args)
  holdingScope env.scope do
    match ← execAll env c.node.body with
    | .return v => return v
    | _ => return .undefined

/-- Guest code runs in a frame of its own, and errors that pass it get a trace. -/
def inGuestFrame (o : Option ObjectId) (line : Nat) (x : Act α) : Act α := do
  let m ← machine
  if m.depthLimit ≤ m.depth then raise .internal "stack overflow"
  inFrame ⟨o, false, line⟩ do
    try x
    catch v =>
      traceIfLacking v
      throw v

def addParts (o : ObjectId) (parts : List InstancePart) : Act Unit :=
  parts.forM fun part =>
    match part with
    | .field k initial => do
      let v ← if initial.isUndefined then pure .undefined else call initial (.object o) []
      if k.isHidden then
        if (← object o).property? k |>.isSome then raiseType ("private class field '" ++ k.shown ++ "' already exists")
        putProperty o k ⟨.data v true, false, false⟩
      else createProperty o k v
    | .hiddenMember s p => do
      if ((← object o).property? (.symbol s)).isSome then raiseType "private method is already present"
      putProperty o s p

def settled (state : PromiseState) : Act Value := do
  return .object (← newObject Intrinsic.promisePrototype (.promise state))

/-- The prototype for an object that a constructor makes: the one of `newTarget`, or the builtin. -/
def prototypeFor (newTarget : Value) (fallback : ObjectId) : Act ObjectId := do
  match newTarget with
  | .object _ =>
    match ← get newTarget "prototype" with
    | .object p => return p
    | _ => return fallback
  | _ => return fallback

def callFunction (o : ObjectId) (c : Closure) (this : Value) (args : List Value) : Act Value := do
  let info := c.node.info
  if info.isClassConstructor then
    inGuestFrame (some o) info.line (raiseType "class constructors must be invoked with 'new'")
  else if info.isGenerator then
    let proto ← prototypeFor (.object o) (if info.isAsync then Intrinsic.asyncGeneratorPrototype else Intrinsic.generatorPrototype)
    return .object (← newObject proto (.generator (.fresh o this args)))
  else
    let run (waits : Option (ObjectId × Nat)) : Act Value := holding [.object o] <| inGuestFrame (some o) info.line do
      hold (.object o)
      let env ← openFunction o c this .undefined args
      runBody { env with waits } c args
    if info.isAsync then
      let p ← newPromise
      let below := (← machine).roots.length
      holding [.object p] do
        try
          onStop (do settlePromise p true (← run (some (p, below)))) fun why => if why == .suspended then pure () else stop why
        catch v => settlePromise p false v
        return .object p
    else run none

def constructFunction (o : ObjectId) (c : Closure) (args : List Value) (newTarget : Value) : Act Value := do
  let info := c.node.info
  let derived := info.kind == .derivedConstructor
  let this : Value ←
    if derived then pure .undefined
    else do pure (.object (← newObject (← prototypeFor newTarget Intrinsic.objectPrototype)))
  holding [.object o, this] <| inGuestFrame (some o) info.line do
    let env ← openFunction o c this newTarget args
    if !derived then
      match this with
      | .object t => addParts t c.parts
      | _ => pure ()
    let r ← runBody env c args
    if r.isObject then return r
    else if derived then
      if r.isUndefined then thisValue env
      else raiseType "derived class constructor must return an object or undefined"
    else return this

end Embedding.Guest.Act
