import Embedding.Guest.Evaluate.Statement
import Embedding.Guest.Syntax.Parse

namespace Embedding.Guest.Act

def readProgram (kind : SourceKind) (source : String) (context : Syntax.ProgramContext := {}) : Act Program := do
  match Program.parse kind source context with
  | .ok p => return p
  | .error fault => raiseSyntax fault.message fault.line

def functionName? : Expr → Option String
  | .function info .. => some (if info.name.isEmpty then "*default*" else info.name)
  | _ => none

/-- Refuses a global name that is there already in a way that forbids another. -/
def checkGlobal (name : String) (lexical isFunction : Bool) : Act Unit := do
  let g ← object Intrinsic.globalObject
  let own ← getOwn Intrinsic.globalObject name
  let redeclared : Act Unit := raise .syntaxError ("redeclaration of '" ++ shownName name ++ "'")
  let undefinable : Act Unit := raiseType ("cannot define variable '" ++ shownName name ++ "'")
  match own with
  | some p =>
    if lexical then
      if !p.configurable then redeclared
    else if isFunction && !p.configurable then
      match p.slot with
      | .data _ true => if !p.enumerable then undefinable
      | _ => undefinable
  | none => if !lexical && !g.extensible then undefinable
  if (← globalLexical? name).isSome then redeclared

/-- Declares the names of a script. What direct evaluation declares can be deleted. -/
def declareGlobals (p : Program) (program : Nat) (deletable : Bool) : Act Unit := do
  let functionNames := p.functions.filterMap functionName?
  for l in p.lexicals do
    checkGlobal l.name true false
  for n in p.vars do
    checkGlobal n false (functionNames.contains n)
  let g := Intrinsic.globalObject
  for l in p.lexicals do
    let c ← newCell none
    modifyMachine fun m => { m with lexicals := ⟨l.name, c, l.constant⟩ :: m.lexicals }
  for n in p.vars do
    if (← getOwn g n).isNone then
      let _ ← define g n
        { value := some .undefined, writable := some true, enumerable := some true, configurable := some deletable }
  for f in p.functions do
    match f with
    | .function info params functions body =>
      let o ← makeFunction { scope := [], isStrict := p.isStrict, program } ⟨info, params, functions, body⟩
      let d : Descriptor ←
        match ← getOwn g info.name with
        | some old =>
          if old.configurable then
            pure { value := some (.object o), writable := some true, enumerable := some true
                   configurable := some deletable }
          else pure { value := some (.object o) }
        | none =>
          pure { value := some (.object o), writable := some true, enumerable := some true
                 configurable := some deletable }
      insist info.name (define g info.name d)
    | _ => pure ()

def runStatements (env : Env) (body : List Stmt) : Act Value := do
  let id ← newCell (some .undefined)
  let env := { env with result := some id }
  holdingScope (.cell "" id .mutable :: env.scope) do
    let _ ← execAll env body
    return (← cell id).getD .undefined

def runScript (p : Program) (program : Nat) (deletable : Bool) : Act Value :=
  inGuestFrame none 1 do
    declareGlobals p program deletable
    runStatements { scope := [], isStrict := p.isStrict, program } p.body

/-- Direct evaluation: the names that it declares live in the scope of the call. -/
def runDirect (p : Program) (env : Env) : Act Value :=
  inGuestFrame none 1 do
    let env := { env with isStrict := p.isStrict, program := 0, result := none }
    if env.scope.isEmpty && !p.isStrict then
      declareGlobals { p with lexicals := [] } 0 true
      let env ← addLexicals env p.lexicals
      runStatements env p.body
    else
      let fresh := if p.isStrict then p.vars
        else p.vars.filter fun n => (declaredCell? n env.scope).isNone
      let env ← addCells env fresh (some .undefined)
      let env ← addLexicals env p.lexicals
      addFunctions env p.functions
      runStatements env p.body

def moduleNameFrom (name : String) : String := String.ofList (go name.toList)
where
  go : List Char → List Char
    | '.' :: '/' :: rest => go rest
    | cs => cs

/-- Finds the modules that a module asks for; there are none to be found. -/
def resolveRequests (p : Program) : Act Unit := do
  match p.requests with
  | [] => pure ()
  | name :: _ =>
    raise .reference ("could not load module '" ++ cutMessage (moduleNameFrom name) ++ "'")

def runModule (p : Program) (program : Nat) : Act Value := do
  try
    onStop (do
      let v ← inGuestFrame none 1 do
        let env : Env := { scope := [], isStrict := true, program }
        let env ← addCell env "this" (some .undefined)
        let env ← addCells env p.vars (some .undefined)
        let env ← addLexicals env p.lexicals
        addFunctions env p.functions
        let _ ← holdingScope env.scope (execAll env p.body)
        return Value.undefined
      settled (.fulfilled v)) fun why => if why == .suspended then settled (.pending [] false) else stop why
  catch v => settled (.rejected v)

def runGlobal (p : Program) (program : Nat) : Act Value := do
  match p.kind with
  | .script => runScript p program false
  | .module => runModule p program

def newProgram : Act Nat := do
  modifyMachine fun m => { m with programs := m.programs + 1 }
  return (← machine).programs

/-- Reads a program and finds the modules it asks for, without running it. -/
def prepare (kind : SourceKind) (source : String) : Act Program := do
  let p ← readProgram kind source
  resolveRequests p
  return p

def evaluateText (source : Text) (env : Option Env) : Act Value := do
  match env with
  | none =>
    let p ← readProgram .script source.toStringLossy
    runScript p 0 true
  | some env =>
    let inFunction := (runningFunction? env.scope).isSome
    let context : Syntax.ProgramContext :=
      { isStrict := env.isStrict, superProperty := (home? env.scope).isSome, newTarget := inFunction }
    let p ← readProgram .script source.toStringLossy context
    runDirect p env

end Embedding.Guest.Act
