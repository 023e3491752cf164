import Embedding.Guest.Promise

namespace Embedding.Guest

inductive Place where
  | cell (id : CellId) (mode : CellMode)
  | withObject (o : ObjectId)
  | global

namespace Act

def offers (o : ObjectId) (name : String) : Act Bool := do
  if !(← has o name) then return false
  let hiddenNames ← getFrom o Symbol.unscopables (.object o)
  if hiddenNames.isObject then return !(← get hiddenNames name).isTruthy else return true

def place (name : String) : Scope → Act Place
  | [] => return .global
  | .cell n id mode :: rest => if n = name then return .cell id mode else place name rest
  | .withObject o :: rest => do if ← offers o name then return .withObject o else place name rest
  | _ :: rest => place name rest

def globalLexical? (name : String) : Act (Option GlobalLexical) := do
  return (← machine).lexicals.find? fun l => l.name = name

def readCell (name : String) (id : CellId) : Act Value := do
  match ← cell id with
  | some v => return v
  | none => raiseUninitialized name

def readGlobal (name : String) (required : Bool) : Act Value := do
  match ← globalLexical? name with
  | some l => readCell name l.cell
  | none =>
    let k := Key.ofString name
    let g := Intrinsic.globalObject
    if !required then getFrom g k (.object g)
    else if ← has g k then getFrom g k (.object g)
    else raiseNotDefined name

def readPlace (name : String) (required : Bool) : Place → Act Value
  | .cell id _ => readCell name id
  | .withObject o => getFrom o name (.object o)
  | .global => readGlobal name required

def readName (env : Env) (name : String) : Act Value := do
  readPlace name true (← place name env.scope)

def raiseReadOnly (name : String) : Act α := raiseType ("'" ++ shownName name ++ "' is read-only")

def writeCell (name : String) (id : CellId) (v : Value) : Act Unit := do
  match ← cell id with
  | none => raiseUninitialized name
  | some _ => setCell id (some v)

def writeGlobal (strict : Bool) (name : String) (v : Value) : Act Unit := do
  match ← globalLexical? name with
  | some l =>
    if (← cell l.cell).isNone then raiseUninitialized name
    if l.isConstant then raiseReadOnly name
    setCell l.cell (some v)
  | none =>
    let g := Intrinsic.globalObject
    if strict && !(← has g name) then raiseNotDefined name
    put (.object g) name v strict

def writePlace (strict : Bool) (name : String) (v : Value) : Place → Act Unit
  | .cell id .mutable => writeCell name id v
  | .cell id .constant => do
    if (← cell id).isNone then raiseUninitialized name
    raiseReadOnly name
  | .cell _ .selfName => do if strict then raiseReadOnly name
  | .withObject o => put (.object o) name v strict
  | .global => writeGlobal strict name v

def writeName (env : Env) (name : String) (v : Value) : Act Unit := do
  writePlace env.isStrict name v (← place name env.scope)

def declaredCell? (name : String) : Scope → Option CellId
  | [] => none
  | .cell n id _ :: rest => if n = name then some id else declaredCell? name rest
  | _ :: rest => declaredCell? name rest

def beginName (env : Env) (name : String) (v : Value) : Act Unit := do
  match declaredCell? name env.scope with
  | some id => setCell id (some v)
  | none =>
    match ← globalLexical? name with
    | some l => setCell l.cell (some v)
    | none => writeName env name v

def assignName (env : Env) (how : Binding) (name : String) (v : Value) : Act Unit :=
  match how with
  | .initial => beginName env name v
  | _ => writeName env name v

def deleteName (env : Env) (name : String) : Act Bool := do
  match ← place name env.scope with
  | .cell _ _ => return false
  | .withObject o => delete o name
  | .global =>
    match ← globalLexical? name with
    | some _ => return false
    | none => delete Intrinsic.globalObject name

def home? : Scope → Option Value
  | [] => none
  | .home o :: _ => some o
  | _ :: rest => home? rest

def runningFunction? : Scope → Option ObjectId
  | [] => none
  | .function f :: _ => some f
  | _ :: rest => runningFunction? rest

def hiddenSymbol? (name : String) : Scope → Option Symbol
  | [] => none
  | .hidden n s :: rest => if n = name then some s else hiddenSymbol? name rest
  | _ :: rest => hiddenSymbol? name rest

/-- The value of `this`; outside of functions it is the global object, and nothing in modules. -/
def thisValue (env : Env) : Act Value := do
  match declaredCell? "this" env.scope with
  | some id => readCell "this" id
  | none => return .object Intrinsic.globalObject

def newTargetValue (env : Env) : Act Value := do
  match declaredCell? "new.target" env.scope with
  | some id => readCell "new.target" id
  | none => return .undefined

/-- The part of a scope that a function keeps: the variables that it mentions. -/
def keptScope (mentioned : List String) (all isArrow : Bool) (scope : Scope) : Scope :=
  if all then scope
  else
    let hasWith := scope.any fun e =>
      match e with
      | .withObject _ => true
      | _ => false
    let keepsThis := isArrow && mentioned.contains "this"
    let go := scope.foldl (fun (acc : Scope × List String) e =>
      match e with
      | .cell n _ _ =>
        if mentioned.contains n && (hasWith || !acc.2.contains n) then (e :: acc.1, n :: acc.2) else acc
      | .withObject _ | .hidden _ _ => (e :: acc.1, acc.2)
      | .home _ | .function _ => if keepsThis then (e :: acc.1, acc.2) else acc) ([], [])
    go.1.reverse

end Act

end Embedding.Guest
