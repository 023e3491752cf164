import Embedding.Guest.Syntax.Function

namespace Embedding.Guest.Syntax

def inExit (e : Exit) (x : Parse α) : Parse α := do
  modifyFunction fun f => { f with exits := e :: f.exits }
  let a ← x
  modifyFunction fun f => { f with exits := f.exits.tail }
  return a

def parenthesized (r : Reading) : Parse Expr := do
  expect "("
  let e ← r.expression true
  expect ")"
  return e

def substatement (r : Reading) : Parse Stmt := r.statement .none

def atLet (declarations : Bool) : Parse Bool := do
  if ← atPlainWord "let" then
    lookAhead do
      next
      let s ← get
      let opens := match s.token with
        | .mark m => m == "\x7b"
        | .word _ _ reserved => !reserved
        | .keyword k => k == "let" || k == "yield" || k == "await"
        | _ => false
      return s.token.isMark "[" || (opens && (s.lastLine == s.tokenLine || declarations))
  else return false

def declarationKind? (declarations : Bool) : Parse (Option DeclarationKind) := do
  let t ← token
  if t.isKeyword "var" then return some .var
  else if t.isKeyword "const" then return some .constant
  else if t.isKeyword "let" then return some .lexical
  else if ← atLet declarations then return some .lexical
  else return none

def declarationItems (r : Reading) (kind : DeclarationKind) (acceptIn : Bool) (exported : Bool) :
    Parse (List Expr) := do
  let item : Parse Expr := do
    match ← token with
    | .word name _ reserved =>
      if reserved then failReserved name
      if name == "let" && kind != .var then fail "'let' is not a valid lexical identifier"
      next
      declare name kind
      mention name
      if exported then modify fun s => { s with exports := s.exports ++ [name] }
      let target := Expr.name name (← lastLine)
      if ← accept "=" then
        let value ← r.assignment acceptIn
        return .withDefault target (nameExpr name value)
      else
        if kind == .constant then fail "missing initializer for const variable"
        return target
    | t =>
      let opens := t.isMark "[" || t.isMark "\x7b"
      let follows ← do
        if opens then pure ((← lookOver).follows.isMark "=") else pure false
      if follows then
        match ← r.pattern { declares := some kind, hasValue := false } with
        | .destructure pattern value _ => return .withDefault pattern value
        | e => return e
      else fail "variable name expected"
  let step (items : List Expr) : Parse (List Expr ⊕ List Expr) := do
    let e ← item
    if ← accept "," then return .inl (e :: items) else return .inr (e :: items)
  let items ← repeatStep step []
  return items.reverse

def blockStatement (r : Reading) : Parse Stmt := do
  expect "\x7b"
  if ← accept "\x7d" then return .block [] [] []
  else
    let (body, frame) ← inBlock do
      let step (body : List Stmt) : Parse (List Stmt ⊕ List Stmt) := do
        let s ← r.statement .all
        if ← atMark "\x7d" then return .inr (s :: body) else return .inl (s :: body)
      repeatStep step []
    next
    return .block frame.lexicals frame.functions body.reverse

def wrapBlock (frame : BlockFrame) (s : Stmt) : Stmt :=
  if frame.lexicals.isEmpty && frame.functions.isEmpty then s
  else .block frame.lexicals frame.functions [s]

def ifStatement (r : Reading) : Parse Stmt := do
  next
  let (s, frame) ← inBlock do
    let test ← parenthesized r
    let mask : StatementMask := ⟨!(← isStrict), false, false⟩
    let yes ← r.statement mask
    if ← atKeyword "else" then
      next
      let no ← r.statement mask
      return Stmt.if test yes no
    else return Stmt.if test yes .empty
  return wrapBlock frame s

def loopExit (label : Option String) : Exit := ⟨label, true, true⟩

def forEach (r : Reading) (label : Option String) (isAwait : Bool) : Parse Stmt := do
  let line := (← get).tokenLine
  let run : Parse (Option DeclarationKind × Expr × Expr × Bool × Stmt) := inExit (loopExit label) do
    let (kind, target, plain) ← do
      match ← declarationKind? true with
      | some kind =>
        next
        match freeWord? (← token) with
        | some name =>
          next
          declare name kind
          mention name
          pure (some kind, Expr.name name (← lastLine), true)
        | none =>
          if (← atMark "[") || (← atMark "\x7b") then
            let e ← r.pattern { declares := some kind, allowInitializer := false }
            pure (some kind, e, false)
          else fail "variable name expected"
      | none =>
        if !isAwait && (← atPlainWord "async") && (← glanceNext false) == .ofWord then
          fail "'for of' expression cannot start with 'async'"
        let follows ← do
          if (← atMark "[") || (← atMark "\x7b") then
            let t := (← lookOver).follows
            pure (t.isKeyword "in" || t.isPlainWord "of")
          else pure false
        if follows then
          let e ← r.pattern { declares := none }
          pure (none, e, false)
        else
          let e ← r.operand true
          requireTarget .loop e
          pure (none, e, false)
    let initial ← do
      if ← accept "=" then
        let e ← r.assignment false
        pure (some e)
      else pure none
    let isOf ← atPlainWord "of"
    if !isOf && !(← atKeyword "in") then fail "expected 'of' or 'in' in for control expression"
    let misplaced ← do
      if initial.isNone then pure false
      else if isOf then pure true
      else pure (kind != some .var || (← isStrict) || !plain)
    if misplaced then
      fail ("a declaration in the head of a for-" ++ (if isOf then "of" else "in") ++
        " loop can't have an initializer")
    next
    let object ← if isOf then r.assignment true else r.expression true
    expect ")"
    let body ← substatement r
    return (kind, (match initial with
      | some e => Expr.withDefault target e
      | none => target), object, isOf, body)
  let ((kind, target, object, isOf, body), frame) ← inBlock run
  if isOf then return .forOf frame.lexicals kind target object body isAwait line
  else return .forIn frame.lexicals kind target object body line

def forStatement (r : Reading) (label : Option String) : Parse Stmt := do
  next
  let (isAwait, seen) ← do
    if ← atMark "(" then pure (false, ← lookOver)
    else if ← atKeyword "await" then
      let s ← get
      if !s.function.isAsync && !(s.isModule && s.outer.isEmpty) then
        fail "for await is only valid in asynchronous functions"
      next
      pure (true, ⟨.eof, false, false, false⟩)
    else pure (false, ⟨.eof, false, false, false⟩)
  expect "("
  if !seen.hasSemicolon then forEach r label isAwait
  else
    let ((init, test, update, body), frame) ← inBlock do
      let init ← do
        if ← atMark ";" then pure Stmt.empty
        else
          match ← declarationKind? true with
          | some kind =>
            next
            pure (Stmt.declaration kind (← declarationItems r kind false false))
          | none => pure (Stmt.expression (← r.expression false))
      expect ";"
      let test ← if ← atMark ";" then pure Expr.hole else r.expression true
      expect ";"
      let update ← if ← atMark ")" then pure Expr.hole else r.expression true
      expect ")"
      let body ← inExit (loopExit label) (substatement r)
      return (init, test, update, body)
    return .for frame.lexicals init test update body

def checkExit (label : Option String) (continues : Bool) : Parse Unit := do
  let exits := (← get).function.exits
  let fits (e : Exit) : Bool :=
    match label with
    | none => if continues then e.continues else e.breaks
    | some _ => (if continues then e.continues else true) && e.label == label
  if !exits.any fits then
    match label with
    | some _ => fail "break/continue label not found"
    | none =>
      if continues then fail "continue must be inside loop" else fail "break must be inside loop or switch"

def jumpStatement (continues : Bool) : Parse Stmt := do
  next
  let label ← do
    if ← lineEnded then pure none
    else
      match ← token with
      | .word w _ false => pure (some w)
      | _ => pure none
  checkExit label continues
  if label.isSome then next
  expectSemicolon
  return if continues then .continue label else .break label

structure SwitchState where
  cases : List (Expr × List Stmt) := []
  hasDefault : Bool := false

def switchStatement (r : Reading) (label : Option String) : Parse Stmt := do
  next
  let subject ← parenthesized r
  let (cases, frame) ← inBlock <| inExit ⟨label, true, false⟩ do
    expect "\x7b"
    let step (st : SwitchState) : Parse (SwitchState ⊕ SwitchState) := do
      if ← atMark "\x7d" then return .inr st
      else if ← atKeyword "case" then
        next
        let e ← r.expression true
        expect ":"
        return .inl { st with cases := (e, []) :: st.cases }
      else if ← atKeyword "default" then
        next
        expect ":"
        if st.hasDefault then fail "duplicate default"
        return .inl { cases := (.hole, []) :: st.cases, hasDefault := true }
      else
        match st.cases with
        | [] => fail "invalid switch statement"
        | (e, body) :: rest =>
          let s ← r.statement .all
          return .inl { st with cases := (e, s :: body) :: rest }
    let st ← repeatStep step {}
    expect "\x7d"
    return st.cases.reverse.map fun (e, body) => Stmt.case e body.reverse
  return .switch subject frame.lexicals frame.functions cases

def tryStatement (r : Reading) : Parse Stmt := do
  next
  let body ← blockStatement r
  let (hasHandler, param, handler) ← do
    if ← atKeyword "catch" then
      next
      let ((param, handler), frame) ← inBlock do
        let param ← do
          if ← atMark "\x7b" then pure Expr.hole
          else
            expect "("
            let param ← do
              match freeWord? (← token) with
              | some name =>
                next
                modifyBlock fun b => { b with names := (name, .caught) :: b.names }
                mention name
                pure (Expr.name name (← lastLine))
              | none =>
                if (← atMark "[") || (← atMark "\x7b") then r.pattern { declares := some .lexical }
                else fail "identifier expected"
            expect ")"
            pure param
        let handler ← blockStatement r
        return (param, handler)
      pure (true, param, if frame.lexicals.isEmpty then handler else .block frame.lexicals [] [handler])
    else if ← atKeyword "finally" then pure (false, Expr.hole, Stmt.empty)
    else fail "expecting catch or finally"
  let (hasFinalizer, finalizer) ← do
    if ← atKeyword "finally" then
      next
      pure (true, ← blockStatement r)
    else pure (false, Stmt.empty)
  return .try body hasHandler param handler hasFinalizer finalizer

def functionStatement (r : Reading) (mask : StatementMask) : Parse Stmt := do
  let start := (← get).tokenStart
  let isAsync ← atPlainWord "async"
  if isAsync && !mask.declarations then fail "function declarations can't appear in single-statement context"
  if !isAsync then
    if !mask.functions || (!mask.declarations && (← glanceNext false) == .other 42) then
      fail "function declarations can't appear in single-statement context"
  let f ← readFunction r { form := .blockDeclaration, start }
  return .functionDeclaration f.name f.assignsVar

def expressionStatement (r : Reading) : Parse Stmt := do
  let e ← r.expression true
  expectSemicolon
  return .expression e

def classStatement (r : Reading) (nameless : Bool) : Parse Stmt := do
  let e ← classExpr r false nameless
  match e with
  | .classOf info .. =>
    let name := info.name.getD "*default*"
    declareLexical name false .lexical
    return .classDeclaration name e
  | _ => return .expression e

def declarationStatement (r : Reading) (mask : StatementMask) (kind : DeclarationKind) : Parse Stmt := do
  if kind != .var && !mask.declarations then
    fail "lexical declarations can't appear in single-statement context"
  next
  let items ← declarationItems r kind true false
  expectSemicolon
  return .declaration kind items

def unlabeledStatement (r : Reading) (mask : StatementMask) (label : Option String) : Parse Stmt := do
  let s ← get
  let line := s.tokenLine
  match s.token with
  | .mark "\x7b" => blockStatement r
  | .mark ";" => next; return .empty
  | .word w _ true => failReserved w
  | .keyword "return" =>
    if s.function.isProgram then fail "return not in a function"
    if s.function.kind == .initializer then fail "return in a static initializer block"
    next
    if (← atMark ";") || (← atMark "\x7d") || (← lineEnded) then
      expectSemicolon
      return .return .hole line
    else
      let e ← r.expression true
      let last ← lastLine
      expectSemicolon
      return .return e last
  | .keyword "throw" =>
    next
    if ← lineEnded then fail "line terminator not allowed after throw"
    let e ← r.expression true
    let last ← lastLine
    expectSemicolon
    return .throw e last
  | .keyword "if" => ifStatement r
  | .keyword "while" =>
    inExit (loopExit label) do
      next
      let test ← parenthesized r
      return .while test (← substatement r)
  | .keyword "do" =>
    inExit (loopExit label) do
      next
      let body ← substatement r
      if ← atKeyword "while" then next else fail "expecting 'while'"
      let test ← parenthesized r
      if ← atMark ";" then next
      return .doWhile body test
  | .keyword "for" => forStatement r label
  | .keyword "break" => jumpStatement false
  | .keyword "continue" => jumpStatement true
  | .keyword "switch" => switchStatement r label
  | .keyword "try" => tryStatement r
  | .keyword "with" =>
    if s.function.isStrict then fail "invalid keyword: with"
    next
    let object ← parenthesized r
    let last ← lastLine
    let (body, _) ← inBlock (substatement r)
    return .with object body last
  | .keyword "function" => functionStatement r mask
  | .keyword "class" =>
    if !mask.declarations then fail "class declarations can't appear in single-statement context"
    classStatement r false
  | .keyword "debugger" =>
    next
    expectSemicolon
    return .empty
  | .keyword "enum" => fail "unsupported keyword: enum"
  | .keyword "export" => fail "unsupported keyword: export"
  | .keyword "extends" => fail "unsupported keyword: extends"
  | _ =>
    match ← declarationKind? mask.declarations with
    | some kind => declarationStatement r mask kind
    | none =>
      if (← atPlainWord "async") && (← glanceNext true) == .functionWord then functionStatement r mask
      else expressionStatement r

def label? : Parse (Option String) := do
  match ← token with
  | .word w _ false => if (← glanceNext false) == .other 58 then return some w else return none
  | _ => return none

def statement (r : Reading) (mask : StatementMask) : Parse Stmt := do
  match ← label? with
  | none => unlabeledStatement r mask none
  | some name =>
    let s ← get
    if s.function.exits.any (·.label == some name) then fail "duplicate label name"
    next
    expect ":"
    let loops := (← atKeyword "for") || (← atKeyword "do") || (← atKeyword "while")
    if loops then return .labeled name (← unlabeledStatement r mask (some name))
    else
      let free := !s.function.isStrict && mask.labeledFunctions
      let body ← inExit ⟨some name, false, false⟩ (r.statement ⟨free, free, false⟩)
      return .labeled name body

def request (name : String) : Parse Unit := modify fun s =>
  { s with requests := s.requests ++ [name] }

def moduleName : Parse String := do
  match ← token with
  | .string t _ =>
    next
    return t.toStringLossy
  | _ => fail "string expected"

def fromClause : Parse Unit := do
  if !(← atPlainWord "from") then fail "from clause expected"
  next
  request (← moduleName)

def anyWord : Parse String := do
  match wordName? (← token) with
  | some w =>
    next
    return w
  | none => fail "identifier expected"

def export_ (name : String) : Parse Unit := do
  if (← get).exports.contains name then fail ("duplicate exported name '" ++ name ++ "'")
  modify fun s => { s with exports := s.exports ++ [name] }

def importBinding (name : String) : Parse Unit := do
  if name == "arguments" || name == "eval" then fail "invalid import binding"
  declareLexical name true .lexical

/-- The names in braces of an import or export; `each` takes the name and the one after `as`. -/
def clauseNames (each : String → Option String → Parse Unit) : Parse Unit := do
  let step (_ : Unit) : Parse (Unit ⊕ Unit) := do
    if ← atMark "\x7d" then return .inr ()
    let name ← anyWord
    let other ← do
      if ← atPlainWord "as" then
        next
        pure (some (← anyWord))
      else pure none
    each name other
    if ← accept "," then return .inl () else return .inr ()
  repeatStep step ()
  expect "\x7d"

def importStatement : Parse Stmt := do
  next
  match ← token with
  | .string _ _ => request (← moduleName)
  | t =>
    let more ← do
      match t with
      | .word w _ reserved =>
        if reserved then failReserved w
        next
        importBinding w
        accept ","
      | _ => pure true
    if more then
      if ← accept "*" then
        if !(← atPlainWord "as") then fail "expecting 'as'"
        next
        importBinding (← anyWord)
      else if ← accept "\x7b" then
        clauseNames fun name other => importBinding (other.getD name)
    fromClause
  expectSemicolon
  return .empty

def exportStatement (r : Reading) : Parse Stmt := do
  next
  let functionAhead : Parse Bool := do
    if ← atKeyword "function" then return true
    else return (← atPlainWord "async") && (← glanceNext true) == .functionWord
  let exportFunction (name? : Option String) (nameless : Bool) : Parse Stmt := do
    let f ← readFunction r { form := .declaration, start := (← get).tokenStart, nameless }
    export_ (name?.getD f.name)
    return .empty
  let t ← token
  if t.isKeyword "class" then
    let s ← classStatement r false
    match s with
    | .classDeclaration name _ => export_ name
    | _ => pure ()
    return s
  else if ← functionAhead then exportFunction none false
  else
    next
    let kind? : Option DeclarationKind :=
      if t.isKeyword "var" then some .var
      else if t.isKeyword "const" then some .constant
      else if t.isKeyword "let" then some .lexical
      else none
    match kind? with
    | some kind => return .declaration kind (← declarationItems r kind true true)
    | none =>
      let out ← do
        match t with
        | .mark "\x7b" =>
          clauseNames fun name other => export_ (other.getD name)
          if ← atPlainWord "from" then fromClause
          pure Stmt.empty
        | .mark "*" =>
          if ← atPlainWord "as" then
            next
            export_ (← anyWord)
          fromClause
          pure Stmt.empty
        | .keyword "default" =>
          if ← atKeyword "class" then
            let s ← classStatement r true
            export_ "default"
            return s
          else if ← functionAhead then return (← exportFunction (some "default") true)
          else
            let e ← r.assignment true
            export_ "default"
            pure (Stmt.exportDefault (nameExpr "default" e))
        | _ => fail "invalid export syntax"
      expectSemicolon
      return out

/-- A statement at the top of a program or a function; function declarations leave none behind. -/
def element (r : Reading) : Parse (Option Stmt) := do
  let s ← get
  let atTop := s.isModule && s.function.isProgram
  let isFunction ← do
    if ← atKeyword "function" then pure true
    else pure ((← atPlainWord "async") && (← glanceNext true) == .functionWord)
  if isFunction then
    let _ ← readFunction r { form := .declaration, start := s.tokenStart }
    return none
  else if atTop && (← atKeyword "export") then return some (← exportStatement r)
  else if atTop && (← atKeyword "import") && !isDynamic (← glanceNext false) then
    return some (← importStatement)
  else return some (← r.statement .all)
where
  isDynamic (g : Glance) : Bool := g == .other 40 || g == .other 46

end Embedding.Guest.Syntax
