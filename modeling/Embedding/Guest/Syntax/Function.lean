import Embedding.Guest.Syntax.Pattern

namespace Embedding.Guest.Syntax

/-- Runs `x` inside a function of its own and hands back what that function declared. What it
mentions and does not declare counts as mentioned by the function around it. -/
def inFunction (frame : FunctionFrame) (x : Parse α) : Parse (α × FunctionFrame) := do
  modify fun s => { s with outer := s.function :: s.outer, function := frame }
  let a ← x
  let s ← get
  let inner := s.function
  match s.outer with
  | f :: rest =>
    let lexicals := inner.blocks.flatMap fun b => b.lexicals.map (·.name)
    let own := (if inner.kind == .arrow then [] else ["this", "new.target", "arguments"]) ++
      inner.params ++ inner.vars ++ lexicals
    let free := inner.mentioned.filter fun n => !own.contains n && !f.mentioned.contains n
    set { s with function := { f with mentioned := free ++ f.mentioned }, outer := rest }
  | [] => pure ()
  rereadWord
  return (a, inner)

def frameFor (kind : FunctionKind) (isAsync isGenerator : Bool) (outer : FunctionFrame) : FunctionFrame :=
  let base : FunctionFrame := { kind, isAsync, isGenerator, isStrict := outer.isStrict }
  match kind with
  | .arrow =>
    { base with
      superCall := outer.superCall
      superProperty := outer.superProperty
      newTarget := outer.newTarget
      arguments := outer.arguments }
  | .initializer =>
    { base with newTarget := true, superProperty := true, arguments := false }
  | .normal => { base with newTarget := true }
  | _ =>
    { base with
      newTarget := true
      superCall := kind == .derivedConstructor
      superProperty := true }

def markStrict : Parse Unit :=
  modifyFunction fun f => { f with isStrict := true, usesStrict := true }

/-- Whether a semicolon may be left out before this token when it starts a line. -/
def startsStatement (t : Token) : Bool :=
  match t with
  | .number _ | .string _ _ | .template _ _ | .word _ _ _ | .regexp _ _ => true
  | .mark m => m == "++" || m == "--"
  | .keyword k =>
    !(["in", "instanceof", "void", "else", "break", "continue", "case", "default", "catch", "finally",
      "extends", "await", "yield", "implements"].contains k)
  | _ => false

/-- The strings that open a program or a function body; they are read again as statements. -/
def directives : Parse Unit := do
  let start ← get
  let step (_ : Unit) : Parse (Unit ⊕ Unit) := do
    match ← token with
    | .string _ _ =>
      let s ← get
      let text := s.source.extractString (s.tokenStart + 1) (s.position - 1)
      next
      let ends ← do
        match ← token with
        | .mark ";" => next; pure true
        | .mark "\x7d" => pure true
        | .eof => pure true
        | t => pure (startsStatement t && (← lineEnded))
      if !ends then return .inr ()
      if text == "use strict" then markStrict
      return .inl ()
    | _ => return .inr ()
  if (match start.token with
      | .string _ _ => true
      | _ => false) then
    repeatStep step ()
    let f := (← get).function
    set { start with
      function := { start.function with isStrict := f.isStrict, usesStrict := f.usesStrict }
      position := start.tokenStart
      line := start.tokenLine }
    let kept := (start.lineEnded, start.lastLine, start.lastPosition)
    next
    modify fun s => { s with lineEnded := kept.1, lastLine := kept.2.1, lastPosition := kept.2.2 }

/-- Checks the names of a function and its parameters once it is known whether it is strict. -/
def checkNames (name : String) (simple : Bool) : Parse Unit := do
  let f := (← get).function
  if f.isStrict then
    if !simple && f.usesStrict then
      fail "\"use strict\" not allowed in function with default or destructuring parameter"
    if name == "eval" || name == "arguments" then fail "invalid function name in strict code"
    if f.params.contains "eval" || f.params.contains "arguments" then
      fail "invalid argument name in strict code"
  if f.isStrict || !simple || f.kind == .arrow || f.kind == .method then
    if f.params.eraseDups.length != f.params.length then
      fail "duplicate argument names not allowed in this context"

/-- What the reading of a function's parameters and body comes to. -/
structure FunctionBody where
  parameters : Parameters
  body : List Stmt
  concise : Bool
  stop : Nat

def functionBody (r : Reading) (q : FunctionRequest) (name : String) : Parse FunctionBody := do
  modifyFunction fun f => { f with inBody := false }
  let parameters ← do
    match q.form, ← token with
    | .arrow, .word w _ reserved =>
      if reserved then failReserved w
      addParameter w
      pure ⟨[.name w (← lastLine)], true, 1⟩
    | _, _ => parameterList r q.kind
  next
  modifyFunction fun f => { f with inBody := true }
  let arrowSeen ← if q.form == .arrow then accept "=>" else pure false
  let isBlock ← atMark "\x7b"
  if arrowSeen && !isBlock then
    checkNames name parameters.simple
    let e ← r.assignment true
    let line ← lastLine
    return ⟨parameters, [.return e line], true, (← get).lastPosition⟩
  else
    expect "\x7b"
    directives
    checkNames name parameters.simple
    let step (body : List Stmt) : Parse (List Stmt ⊕ List Stmt) := do
      if ← atMark "\x7d" then return .inr body
      match ← r _ .element with
      | some s => return .inl (s :: body)
      | none => return .inl body
    let body ← repeatStep step []
    let stop := (← get).position
    next
    return ⟨parameters, body.reverse, false, stop⟩

/-- Gives a function that has been read its place among the declarations around it. -/
def placeFunction (q : FunctionRequest) (name : String) (wasFree : Bool) (f : Expr) : Parse Unit := do
  match q.form with
  | .declaration =>
    let name := if name.isEmpty then "*default*" else name
    if (← get).function.isProgram then
      modifyFunction fun g => { g with vars := if g.vars.contains name then g.vars else g.vars ++ [name] }
      modifyBlock fun b => { b with vars := if b.vars.contains name then b.vars else name :: b.vars }
    else declareVar name
    modifyBlock fun b => { b with functions := b.functions ++ [f] }
  | .blockDeclaration =>
    modifyBlock fun b => { b with functions := b.functions ++ [f] }
    if wasFree then
      mention name
      modifyFunction fun g => { g with vars := if g.vars.contains name then g.vars else g.vars ++ [name] }
  | _ => pure ()

/-- The head of a function that is written with its keyword: its name and whether it is async and a
generator. -/
def functionHead (q : FunctionRequest) : Parse (String × Bool × Bool) := do
  let isAsync ← do
    if !q.isAsync && (← atPlainWord "async") && (← glanceNext true) != .lineEnd then
      next
      pure true
    else pure q.isAsync
  next
  let isGenerator ← accept "*"
  let isExpression := q.form == .expression
  match ← token with
  | .word w _ reserved =>
    if reserved || (isExpression && ((w == "yield" && isGenerator) || (w == "await" && isAsync))) then
      failReserved w
    next
    return (w, isAsync, isGenerator)
  | .keyword w =>
    if isExpression && ((w == "yield" && !(← isStrict)) || (w == "await" && !(← get).isModule)) then
      next
      return (w, isAsync, isGenerator)
    else if isExpression || q.nameless then return ("", isAsync, isGenerator)
    else fail "function name expected"
  | _ =>
    if isExpression || q.nameless then return ("", isAsync, isGenerator)
    else fail "function name expected"

/-- Declares a function of a block by its name, and tells whether it may also set the variable of
that name. -/
def declareBlockFunction (name : String) (plain : Bool) : Parse Bool := do
  let f := (← get).function
  let declared := f.blocks.any fun b =>
    match b.names.lookup name with
    | some .caught | none => false
    | some _ => true
  let free := !f.isStrict && plain && !declared && !f.params.contains name
  let atProgramTop := f.isProgram && f.blocks.length == 1
  if !atProgramTop then
    if plain then declareLexical name false .function else declareLexical name false .lexical
    modifyBlock fun b =>
      { b with lexicals := b.lexicals.filter fun l => l.name != name }
    modifyBlock fun b => { b with lexicals := b.lexicals ++ [⟨name, false⟩] }
  return free

/-- A function that has been read; `assignsVar` tells that its declaration in a block also sets the
variable of its name. -/
structure ReadFunction where
  name : String
  assignsVar : Bool
  value : Expr

def readFunction (r : Reading) (q : FunctionRequest) : Parse ReadFunction := do
  let line := (← get).tokenLine
  let (name, isAsync, isGenerator) ← do
    if q.form == .arrow || q.form == .member then pure ("", q.isAsync, q.isGenerator)
    else functionHead q
  let wasFree ← do
    if q.form == .blockDeclaration then declareBlockFunction name (!isAsync && !isGenerator)
    else pure false
  let outer := (← get).function
  let frame := frameFor q.kind isAsync isGenerator outer
  let (b, inner) ← inFunction frame (functionBody r q name)
  let source := (← get).source.extractString q.start b.stop
  let top := inner.blocks.head?.getD {}
  let lexicals := top.lexicals
  let info : FunctionInfo :=
    { name, kind := q.kind, isAsync, isGenerator, isStrict := inner.isStrict, simple := b.parameters.simple
      length := b.parameters.length, paramNames := inner.params, vars := inner.vars, lexicals
      concise := b.concise, selfNamed := q.form == .expression && !name.isEmpty
      mentioned := inner.mentioned, usesEval := inner.mentioned.contains "eval", source, line }
  let f := Expr.function info b.parameters.items top.functions b.body
  placeFunction q name wasFree f
  return ⟨name, wasFree, f⟩

def functionExpr (r : Reading) (q : FunctionRequest) : Parse Expr := do
  return (← readFunction r q).value

inductive HiddenKind
  | field
  | method
  | getter
  | setter
  | both
deriving DecidableEq

structure ClassState where
  elements : List Expr := []
  construct : Option Expr := none
  hidden : List (String × HiddenKind) := []

def ClassState.declareHidden (st : ClassState) (name : String) (kind : HiddenKind) : Parse ClassState := do
  let declared : Parse ClassState := do
    modify fun s =>
      { s with hidden := match s.hidden with
          | names :: rest => (name :: names) :: rest
          | [] => [] }
    return { st with hidden := (name, kind) :: st.hidden }
  match st.hidden.lookup name, kind with
  | none, _ => declared
  | some .getter, .setter => return { st with hidden := (name, .both) :: st.hidden }
  | some .setter, .getter => return { st with hidden := (name, .both) :: st.hidden }
  | some _, _ => fail "private class field is already defined"

/-- An expression that is evaluated in a function of its own when an object is made. -/
def initializerFunction (r : Reading) (start : Nat) : Parse Expr := do
  let line := (← get).tokenLine
  let frame := frameFor .initializer false false (← get).function
  let (e, inner) ← inFunction frame (r.assignment true)
  let last ← lastLine
  let s ← get
  let info : FunctionInfo :=
    { name := "", kind := .initializer, isAsync := false, isGenerator := false, isStrict := true
      simple := true, length := 0, paramNames := [], vars := inner.vars, lexicals := [], concise := true
      selfNamed := false, mentioned := inner.mentioned, usesEval := inner.mentioned.contains "eval"
      source := s.source.extractString start s.lastPosition, line }
  return .function info [] [] [.return e last]

def staticBlock (r : Reading) : Parse Expr := do
  let start := (← get).tokenStart
  let line := (← get).tokenLine
  let frame := frameFor .initializer false false (← get).function
  let run : Parse (List Stmt × Nat) := do
    next
    let step (body : List Stmt) : Parse (List Stmt ⊕ List Stmt) := do
      if ← atMark "\x7d" then return .inr body
      match ← r _ .element with
      | some s => return .inl (s :: body)
      | none => return .inl body
    let body ← repeatStep step []
    let stop := (← get).position
    next
    return (body.reverse, stop)
  let ((body, stop), inner) ← inFunction frame run
  let top := inner.blocks.head?.getD {}
  let s ← get
  let info : FunctionInfo :=
    { name := "", kind := .initializer, isAsync := false, isGenerator := false, isStrict := true
      simple := true, length := 0, paramNames := [], vars := inner.vars, lexicals := top.lexicals
      concise := false, selfNamed := false, mentioned := inner.mentioned
      usesEval := inner.mentioned.contains "eval"
      source := s.source.extractString start stop, line }
  return .function info [] top.functions body

def keyText? : Expr → Option String
  | .literal (.text t) => t.toString?.toOption
  | _ => none

def classElement (r : Reading) (derived isStatic : Bool) (start : Nat) (shape : NameShape) (key : Expr)
    (written : Bool) (st : ClassState) : Parse ClassState := do
  let name? := if written then keyText? key else none
  let isHidden : Option String := match key with
    | .hidden n => some n
    | _ => none
  let isPlain := match shape with
    | .plain | .shorthand => true
    | _ => false
  if (name? == some "constructor" && !isStatic && !isPlain) || (name? == some "prototype" && isStatic) ||
      isHidden == some "constructor" then
    fail "invalid method name"
  let declareHidden (kind : HiddenKind) : Parse ClassState :=
    match isHidden with
    | some n => st.declareHidden n kind
    | none => pure st
  let accessor (kind : FunctionKind) (member : MemberKind) (hidden : HiddenKind) : Parse ClassState := do
    let st ← declareHidden hidden
    let f ← r.function { form := .member, kind, start }
    return { st with elements := .member isStatic member key f :: st.elements }
  match shape with
  | .getter => accessor .getter .getter .getter
  | .setter => accessor .setter .setter .setter
  | _ =>
    if isPlain && !(← atMark "(") then
      if name? == some "constructor" || name? == some "prototype" then fail "invalid field name"
      let st ← declareHidden .field
      let value ← do
        if ← accept "=" then
          let f ← initializerFunction r start
          match f, name?, isHidden with
          | .function info ps fs [.return e l], some n, _ =>
            pure (Expr.function info ps fs [.return (nameExpr n e) l])
          | .function info ps fs [.return e l], none, some n =>
            pure (Expr.function info ps fs [.return (nameExpr ("#" ++ n) e) l])
          | f, _, _ => pure f
        else pure Expr.hole
      expectSemicolon
      return { st with elements := .member isStatic .field key value :: st.elements }
    else
      let (isAsync, isGenerator) : Bool × Bool := match shape with
        | .method a g => (a, g)
        | _ => (false, false)
      if name? == some "constructor" && !isStatic then
        if st.construct.isSome then fail "property constructor appears more than once"
        let kind : FunctionKind := if derived then .derivedConstructor else .baseConstructor
        let f ← r.function { form := .member, kind, start }
        return { st with construct := some f }
      else
        let st ← declareHidden .method
        let f ← r.function { form := .member, kind := .method, isAsync, isGenerator, start }
        return { st with elements := .member isStatic .method key f :: st.elements }

def classStep (r : Reading) (derived : Bool) (st : ClassState) : Parse (ClassState ⊕ ClassState) := do
  if ← atMark "\x7d" then return .inr st
  else if ← accept ";" then return .inl st
  else
    let opener (g : Glance) : Bool := match g with
      | .other c => c == 59 || c == 125 || c == 40 || c == 61
      | _ => false
    let isStatic ← do
      if ← atKeyword "static" then pure (!opener (← glanceNext true)) else pure false
    let start0 := (← get).tokenStart
    if isStatic then
      next
      if ← atMark "\x7b" then
        let f ← staticBlock r
        return .inl { st with elements := .member true .field .hole f :: st.elements }
    let s ← get
    let start := if isStatic then s.tokenStart else start0
    if isStatic && ((← atMark ";") || (← atMark "=")) then
      return .inl (← classElement r derived false start .plain (textKey "static") true st)
    else
      let written := !(← atMark "[")
      let (shape, key) ← propertyName r true false true
      return .inl (← classElement r derived isStatic start shape key written st)

def defaultConstructor (derived : Bool) (line : Nat) : Expr :=
  let info : FunctionInfo :=
    { name := "", kind := if derived then .derivedConstructor else .baseConstructor
      isAsync := false, isGenerator := false, isStrict := true, simple := true, length := 0
      paramNames := [], vars := [], lexicals := [], concise := false, selfNamed := false
      mentioned := ["this", "new.target", "arguments"], usesEval := false, source := "", line }
  let body : List Stmt :=
    if derived then [.expression (.superCall [.spread (.name "arguments" line)] line)] else []
  .function info [] [] body

def classExpr (r : Reading) (isExpression nameless : Bool) : Parse Expr := do
  let s ← get
  let start := s.tokenStart
  let line := s.tokenLine
  let wasStrict := s.function.isStrict
  let before := s.function.mentioned
  modifyFunction fun f => { f with isStrict := true, mentioned := [] }
  next
  let name? ← do
    match ← token with
    | .word w _ reserved =>
      if reserved then failReserved w
      next
      pure (some w)
    | _ =>
      if !isExpression && !nameless then fail "class statement requires a name"
      pure none
  let ((superclass, st, last, stop), _) ← inBlock do
    let superclass ← do
      if ← atKeyword "extends" then
        next
        r.operand true
      else pure Expr.hole
    match name? with
    | some n => declareLexical n true .lexical
    | none => pure ()
    expect "\x7b"
    modify fun s => { s with hidden := [] :: s.hidden }
    let derived := match superclass with
      | .hole => false
      | _ => true
    let st ← repeatStep (classStep r derived) {}
    let s ← get
    let names := st.hidden.map (·.1)
    set { s with
      hidden := s.hidden.tail
      wanted := s.wanted.filter fun n => !names.contains n }
    let last := (← get).tokenLine
    let stop := (← get).position
    next
    return (superclass, st, last, stop)
  let inner := (← get).function.mentioned
  modifyFunction fun f =>
    { f with
      isStrict := wasStrict
      mentioned := before ++ inner.filter fun n => !before.contains n && some n != name? }
  rereadWord
  let derived := match superclass with
    | .hole => false
    | _ => true
  let s ← get
  let info : ClassInfo :=
    { name := name?, label := name?.getD "", hidden := (st.hidden.map (·.1)).eraseDups, mentioned := inner
      source := s.source.extractString start stop, line }
  let construct := st.construct.getD (defaultConstructor derived last)
  return .classOf info superclass construct st.elements.reverse

end Embedding.Guest.Syntax
