import Embedding.Guest.Evaluate.Expression

namespace Embedding.Guest.Act

def keepResult (env : Env) (v : Value) : Act Unit :=
  match env.result with
  | some id => setCell id (some v)
  | none => pure ()

def forgetResult (env : Env) : Act Unit := keepResult env .undefined

/-- Whether a loop or a labelled statement takes a completion to be its own. -/
def isFor (labels : List String) (label : Option String) : Bool :=
  match label with
  | none => true
  | some l => labels.contains l

/-- How a loop goes on after its body: with another round, or to an end. -/
inductive Round where
  | again
  | ends (c : Completion)

def roundAfter (labels : List String) (c : Completion) : Round :=
  match c with
  | .normal => .again
  | .continue l => if isFor labels l then .again else .ends c
  | .break none => .ends .normal
  | .break (some l) => if labels.contains l then .ends .normal else .ends c
  | .return _ => .ends c

def whileLoop (labels : List String) (test : Act Bool) (body : Act Completion) : Act Completion :=
  repeating (fun (_ : Unit) => do
    if !(← test) then return .inr .normal
    match roundAfter labels (← body) with
    | .ends c => return .inr c
    | .again => return .inl ()) ()

def execBlock (env : Env) (lexicals : List Lexical) (functions : List Expr) (body : List Stmt) :
    Act Completion := do
  if lexicals.isEmpty && functions.isEmpty then execAll env body
  else
    let env ← addLexicals env lexicals
    holdingScope env.scope do
      addFunctions env functions
      execAll env body

def initialFor (kind : DeclarationKind) : Binding :=
  match kind with
  | .var => .var
  | _ => .initial

def execDeclaration (env : Env) (kind : DeclarationKind) (items : List Expr) : Act Unit :=
  items.forM fun item =>
    match item with
    | .withDefault target value => do
      let v ← eval env value
      holding [v] (bindPattern env (initialFor kind) target v)
    | .name id _ => if kind == .var then pure () else beginName env id .undefined
    | _ => pure ()

def copyLexicals (env outer : Env) (lexicals : List Lexical) : Act Env :=
  lexicals.foldlM (fun acc l => do
    match declaredCell? l.name env.scope with
    | some id => addCell acc l.name (← cell id) (if l.constant then .constant else .mutable)
    | none => return acc) outer

def execFor (env : Env) (labels : List String) (lexicals : List Lexical) (init : Stmt)
    (test update : Expr) (body : Stmt) : Act Completion := do
  let first ← addLexicals env lexicals
  holdingScope first.scope do
    match init with
    | .expression e =>
      let _ ← eval first e
    | .declaration kind items => execDeclaration first kind items
    | _ => pure ()
  let step (env' : Env) : Act (Env ⊕ Completion) := holdingScope env'.scope do
    let go ← match test with
      | .hole => pure true
      | e => do pure (← eval env' e).isTruthy
    if !go then return .inr .normal
    match roundAfter labels (← exec env' body) with
    | .ends c => return .inr c
    | .again =>
      let next ← if lexicals.isEmpty then pure env' else copyLexicals env' env lexicals
      match update with
      | .hole => pure ()
      | e =>
        let _ ← holdingScope next.scope (eval next e)
      return .inl next
  let start ← if lexicals.isEmpty then pure first else copyLexicals first env lexicals
  repeating step start

/-- The names that `for`-`in` visits: those of the object and of its prototypes. -/
def enumerableNames (o : ObjectId) : Act (List Text) := do
  let m ← machine
  let rec go : Nat → ObjectId → List Text → List Text → Act (List Text)
    | 0, _, _, acc => return acc.reverse
    | n + 1, o, seen, acc => do
      let mut seen := seen
      let mut acc := acc
      for k in ← ownKeys o do
        match k with
        | .text t =>
          match ← getOwn o k with
          | some p =>
            if !seen.contains t then
              seen := t :: seen
              if p.enumerable then acc := t :: acc
          | none => pure ()
        | .symbol _ => pure ()
      match ← prototype o with
      | some p => go n p seen acc
      | none => return acc.reverse
  go (m.objects.size + 1000) o [] []

/-- Binds the variable of a round of a loop over values, in surroundings of its own. -/
def bindRound (env : Env) (lexicals : List Lexical) (kind : Option DeclarationKind) (target : Expr)
    (v : Value) : Act Env := do
  let env ← addLexicals env lexicals
  let target := match target with
    | .withDefault t _ => t
    | t => t
  let how : Binding := match kind with
    | none => .assign
    | some k => initialFor k
  holding [v] <| holdingScope env.scope (bindPattern env how target v)
  return env

def execForIn (env : Env) (labels : List String) (lexicals : List Lexical) (kind : Option DeclarationKind)
    (target object : Expr) (body : Stmt) (line : Nat) : Act Completion := do
  match kind, target with
  | some .var, .withDefault t d =>
    let v ← eval env d
    bindPattern env .var t v
  | _, _ => pure ()
  let headEnv ← addLexicals env lexicals
  let v ← eval headEnv object
  atLine line
  if v.isNullish then return .normal
  let o ← toObject v
  let names ← enumerableNames o
  holding [.object o] do
    repeating (fun (left : List Text) => do
      match left with
      | [] => return .inr .normal
      | t :: rest =>
        if !(← has o (.text t)) then return .inl rest
        else
          let env' ← bindRound env lexicals kind target (.text t)
          let c ← holdingScope env'.scope (exec env' body)
          match roundAfter labels c with
          | .ends c => return .inr c
          | .again => return .inl rest) names

def execForOf (env : Env) (labels : List String) (lexicals : List Lexical) (kind : Option DeclarationKind)
    (target iterable : Expr) (body : Stmt) (isAwait : Bool) (line : Nat) : Act Completion := do
  let headEnv ← addLexicals env lexicals
  let v ← eval headEnv iterable
  atLine line
  if isAwait then stop .suspended
  let it ← beginIteration v
  holding [it.iterator, it.next] do
    repeating (fun (_ : Unit) => do
      atLine line
      match ← it.step with
      | none => return .inr .normal
      | some x =>
        let c ← it.guarding do
          let env' ← bindRound env lexicals kind target x
          holdingScope env'.scope (exec env' body)
        match roundAfter labels c with
        | .again => return .inl ()
        | .ends c =>
          it.close
          return .inr c) ()

/-- Runs the cases from the first that matches on; the default stands in if none does. -/
def execSwitch (env : Env) (v : Value) (cases : List Stmt) : Act Completion := do
  let rec pick : List Stmt → Act (Option (List Stmt))
    | [] => return none
    | s :: rest => do
      match s with
      | .case .hole _ => pick rest
      | .case test _ =>
        let t ← eval env test
        if strictEquals v t then return some (s :: rest) else pick rest
      | _ => pick rest
  let fallback : List Stmt := cases.dropWhile fun s =>
    match s with
    | .case .hole _ => false
    | _ => true
  let chosen ← pick cases
  let bodies := (chosen.getD fallback).flatMap fun s =>
    match s with
    | .case _ body => body
    | _ => []
  execAll env bodies

def execTry (env : Env) (body : Stmt) (hasHandler : Bool) (param : Expr) (handler : Stmt)
    (hasFinalizer : Bool) (finalizer : Stmt) : Act Completion := do
  forgetResult env
  let guarded : Act Completion :=
    if hasHandler then do
      let attempt : Act (Completion ⊕ Value) :=
        try
          return .inl (← exec env body)
        catch v =>
          traceIfLacking v
          return .inr v
      match ← attempt with
      | .inl c => return c
      | .inr v =>
        match param, handler with
        | .hole, _ => exec env handler
        | .name n _, _ =>
          let env' ← addCell env n (some v)
          holdingScope env'.scope (exec env' handler)
        | p, .block lexicals functions inner =>
          let env' ← addLexicals env lexicals
          holdingScope env'.scope do
            bindPattern env' .initial p v
            addFunctions env' functions
            execAll env' inner
        | p, s =>
          holding [v] (bindPattern env .initial p v)
          exec env s
    else exec env body
  if !hasFinalizer then guarded
  else
    let outcome : Act (Completion ⊕ Value) :=
      try
        return .inl (← guarded)
      catch v =>
        traceIfLacking v
        return .inr v
    let r ← outcome
    let kept ← match env.result with
      | some id => cell id
      | none => pure none
    forgetResult env
    let vs := match r with
      | .inr v => [v]
      | .inl (.return v) => [v]
      | _ => []
    match ← holding vs (exec env finalizer) with
    | .normal =>
      match env.result, kept with
      | some id, some v => setCell id (some v)
      | _, _ => pure ()
      match r with
      | .inl c => return c
      | .inr v => throw v
    | c => return c

def isLoop : Stmt → Bool
  | .while .. | .doWhile .. | .for .. | .forIn .. | .forOf .. => true
  | _ => false

def execLoop (env : Env) (labels : List String) (s : Stmt) : Act Completion := do
  match s with
  | .while test body =>
    forgetResult env
    whileLoop labels (do return (← eval env test).isTruthy) (exec env body)
  | .doWhile body test =>
    repeating (fun (_ : Unit) => do
      forgetResult env
      match roundAfter labels (← exec env body) with
      | .ends c => return .inr c
      | .again =>
        if (← eval env test).isTruthy then return .inl () else return .inr .normal) ()
  | .for lexicals init test update body =>
    forgetResult env
    execFor env labels lexicals init test update body
  | .forIn lexicals kind target object body line =>
    forgetResult env
    execForIn env labels lexicals kind target object body line
  | .forOf lexicals kind target iterable body isAwait line =>
    forgetResult env
    execForOf env labels lexicals kind target iterable body isAwait line
  | s => exec env s

def execStmt (env : Env) (s : Stmt) : Act Completion := do
  match s with
  | .empty => return .normal
  | .expression e =>
    let v ← eval env e
    keepResult env v
    return .normal
  | .declaration kind items =>
    execDeclaration env kind items
    return .normal
  | .functionDeclaration name assignsVar =>
    if assignsVar then
      match declaredCell? name env.scope with
      | some id =>
        let outer := (env.scope.dropWhile fun e =>
          match e with
          | .cell n _ _ => n != name
          | _ => true).tail
        match ← cell id with
        | some v => writeName { env with scope := outer } name v
        | none => pure ()
      | none => pure ()
    return .normal
  | .classDeclaration name value =>
    let v ← eval env value
    beginName env name v
    return .normal
  | .return e line =>
    let v ← match e with
      | .hole => pure .undefined
      | e => eval env e
    atLine line
    return .return v
  | .if test yes no =>
    forgetResult env
    if (← eval env test).isTruthy then exec env yes else exec env no
  | .while .. | .doWhile .. | .for .. | .forIn .. | .forOf .. => execLoop env [] s
  | .break l => return .break l
  | .continue l => return .continue l
  | .throw e line =>
    let v ← eval env e
    atLine line
    traceIfLacking v
    throw v
  | .try body hasHandler param handler hasFinalizer finalizer =>
    execTry env body hasHandler param handler hasFinalizer finalizer
  | .switch subject lexicals functions cases =>
    forgetResult env
    let v ← eval env subject
    let env ← addLexicals env lexicals
    holding [v] <| holdingScope env.scope do
      addFunctions env functions
      match ← execSwitch env v cases with
      | .break none => return .normal
      | c => return c
  | .case _ body => execAll env body
  | .labeled label body =>
    let (labels, inner) := labelsOf [label] body
    let c ← if isLoop inner then execLoop env labels inner else exec env inner
    match c with
    | .break (some l) => if labels.contains l then return .normal else return c
    | c => return c
  | .block lexicals functions body => execBlock env lexicals functions body
  | .with object body line =>
    let v ← eval env object
    atLine line
    let o ← toObject v
    let env := { env with scope := .withObject o :: env.scope }
    forgetResult env
    holdingScope env.scope (exec env body)
  | .exportDefault e =>
    let _ ← eval env e
    return .normal
where
  labelsOf (labels : List String) : Stmt → List String × Stmt
    | .labeled l s => labelsOf (l :: labels) s
    | s => (labels, s)

end Embedding.Guest.Act
