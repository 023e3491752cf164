import Embedding.Guest.Syntax.Token

namespace Embedding.Guest.Syntax

/-- The source is not a program: the message and the line it is found on. -/
structure Fault where
  message : String
  /-- Absent when the fault is found outside the reading of tokens. -/
  line : Option Nat
deriving Inhabited

inductive NameKind
  | lexical
  | function
  | caught
deriving DecidableEq

/-- An open block: the names it declares and the variables declared in it or below. -/
structure BlockFrame where
  names : List (String × NameKind) := []
  lexicals : List Lexical := []
  functions : List Expr := []
  vars : List String := []

structure Exit where
  label : Option String
  breaks : Bool
  continues : Bool

structure FunctionFrame where
  kind : FunctionKind := .normal
  isStrict : Bool := false
  isAsync : Bool := false
  isGenerator : Bool := false
  isProgram : Bool := false
  inBody : Bool := true
  usesStrict : Bool := false
  superCall : Bool := false
  superProperty : Bool := false
  newTarget : Bool := false
  arguments : Bool := true
  params : List String := []
  vars : List String := []
  blocks : List BlockFrame := [{}]
  exits : List Exit := []
  mentioned : List String := []

structure State where
  source : Source
  position : Nat := 0
  line : Nat := 1
  token : Token := .eof
  tokenStart : Nat := 0
  tokenLine : Nat := 1
  lastLine : Nat := 1
  lastPosition : Nat := 0
  lineEnded : Bool := false
  isModule : Bool := false
  function : FunctionFrame := {}
  outer : List FunctionFrame := []
  /-- The private names of the open classes, and those that were used but not yet found. -/
  hidden : List (List String) := []
  wanted : List String := []
  requests : List String := []
  exports : List String := []

abbrev Parse := EStateM Fault State

def fail (message : String) : Parse α := do
  throw ⟨message, some (← get).line⟩

def failAt (message : String) (line : Nat) : Parse α := throw ⟨message, some line⟩

def failWithoutPlace (message : String) : Parse α := throw ⟨message, none⟩

def isReservedWord (s : State) (w : String) : Bool :=
  let f := s.function
  let paramsOf (p : FunctionFrame → Bool) : Bool :=
    f.kind == .arrow && !f.inBody && (match s.outer with
      | g :: _ => p g
      | [] => false)
  keywords.contains w ||
    (f.isStrict && strictKeywords.contains w) ||
    (w == "yield" && (f.isGenerator || paramsOf (·.isGenerator))) ||
    (w == "await" && (s.isModule || f.isAsync || (f.kind == .initializer && !f.arguments && f.newTarget) ||
      paramsOf (·.isAsync)))

def wordToken (s : State) (name : String) (escaped : Bool) : Token :=
  if isReservedWord s name then
    if escaped then .word name true true else .keyword name
  else .word name escaped false

/-- What reading a template part comes to: its raw characters, whether it is the last, the position
behind it and the lines it spans. -/
def scanTemplate (s : Source) : Nat → Nat → Nat → List Char → Option (List Char × Bool × Nat × Nat)
  | 0, _, _, _ => none
  | fuel + 1, i, lines, acc =>
    if s.size ≤ i then none
    else
      let c := s.at i
      if c = '`' then some (acc.reverse, true, i + 1, lines)
      else if c = '$' && s.at (i + 1) = '\x7b' then some (acc.reverse, false, i + 2, lines)
      else
        let (acc, i, c) := if c = '\\' then (c :: acc, i + 1, s.at (i + 1)) else (acc, i, c)
        if s.size ≤ i then none
        else if c = '\r' then
          scanTemplate s fuel (if s.at (i + 1) = '\n' then i + 2 else i + 1) (lines + 1) ('\n' :: acc)
        else if c = '\n' then scanTemplate s fuel (i + 1) (lines + 1) (c :: acc)
        else scanTemplate s fuel (i + 1) lines (c :: acc)

/-- The place behind a block comment that starts before `i`, whether a line ended, and the lines. -/
def scanComment (s : Source) : Nat → Nat → Bool → Nat → Option (Nat × Bool × Nat)
  | 0, _, _, _ => none
  | fuel + 1, i, ended, lines =>
    if s.size ≤ i then none
    else
      let c := s.at i
      if c = '*' && s.at (i + 1) = '/' then some (i + 2, ended, lines)
      else if c = '\n' then scanComment s fuel (i + 1) true (lines + 1)
      else scanComment s fuel (i + 1) (ended || isLineEnd c) lines

def setToken (t : Token) (next : Nat) : Parse Unit :=
  modify fun s => { s with token := t, position := next }

/-- Reads the token at the position; blanks and comments are passed over first. -/
def scanToken : Nat → Parse Unit
  | 0 => fail "unexpected character"
  | fuel + 1 => do
    let s ← get
    let src := s.source
    let i := s.position
    set { s with tokenLine := s.line, tokenStart := i }
    let c := src.at i
    let skipTo (next : Nat) : Parse Unit := do
      modify fun s => { s with position := next }
      scanToken fuel
    let endLine (next : Nat) : Parse Unit := do
      modify fun s => { s with lineEnded := true, line := s.line + 1 }
      skipTo next
    let skipLine : Parse Unit := skipTo (src.skipWhile (fun c => !isLineEnd c) i)
    if src.size ≤ i then setToken .eof i
    else if c = '\r' then endLine (if src.at (i + 1) = '\n' then i + 2 else i + 1)
    else if c = '\n' || isLineEnd c then endLine (i + 1)
    else if c = ' ' || c = '\t' || c.toNat = 11 || c.toNat = 12 then skipTo (i + 1)
    else if c = '/' && src.at (i + 1) = '*' then
      match scanComment src (src.size + 1) (i + 2) false 0 with
      | none => fail "unexpected end of comment"
      | some (next, ended, lines) =>
        modify fun s => { s with lineEnded := s.lineEnded || ended, line := s.line + lines }
        skipTo next
    else if c = '/' && src.at (i + 1) = '/' then skipLine
    else if c = '<' && startsWith src i "<!--" && !s.isModule then skipLine
    else if c = '-' && startsWith src i "-->" && !s.isModule && (s.lineEnded || s.lastPosition = 0) then
      skipLine
    else if c = '`' then
      match scanTemplate src (src.size + 1) (i + 1) 0 [] with
      | none => fail "unexpected end of string"
      | some (raw, last, next, lines) =>
        modify fun s => { s with line := s.line + lines }
        setToken (.template raw last) next
    else if c = '"' || c = '\'' then
      match scanString src s.function.isStrict c (src.size + 1) (i + 1) 0 #[] with
      | .ended t next lines =>
        modify fun s => { s with line := s.line + lines }
        setToken (.string t ((src.extract i next).contains '\\')) next
      | .unterminated => fail "unexpected end of string"
      | .malformed => fail "malformed escape sequence in string literal"
      | .octal => fail "octal escape sequences are not allowed in strict mode"
    else if isDigitIn 10 c || (c = '.' && isDigitIn 10 (src.at (i + 1))) then
      if c = '0' && isDigitIn 10 (src.at (i + 1)) && s.function.isStrict then
        fail "octal literals are deprecated in strict mode"
      else
        match scanNumber { legacyOctal := true, underscores := true, suffix := true } src i with
        | none => fail "invalid number literal"
        | some (v, next) =>
          if next < src.size && isNamePart (src.at next).toNat then fail "invalid number literal"
          else setToken (.number v) next
    else if c = '#' then
      let first := src.at (i + 1)
      let (start, next) :=
        if first = '\\' && src.at (i + 2) = 'u' then
          match scanEscape src (i + 2) with
          | .codePoint n next => (n, next)
          | _ => (0, i + 1)
        else (first.toNat, i + 2)
      if !isNameStart start then fail "invalid first character of private name"
      else
        let (name, stop, _) := scanName src (src.size + 1) next [Char.ofNat start] false
        setToken (.hidden name) stop
    else if c = '\\' && src.at (i + 1) = 'u' then
      match scanEscape src (i + 1) with
      | .codePoint n next =>
        if isNameStart n then
          let (name, stop, _) := scanName src (src.size + 1) next [Char.ofNat n] true
          modify fun s => { s with token := wordToken s name true, position := stop }
        else setToken (.mark "\\") (i + 1)
      | _ => setToken (.mark "\\") (i + 1)
    else if isNameStart c.toNat then
      let (name, stop, escaped) := scanName src (src.size + 1) (i + 1) [c] false
      modify fun s => { s with token := wordToken s name escaped, position := stop }
    else if 128 ≤ c.toNat then
      if isGuestBlank c.toNat then skipTo (i + 1) else fail "unexpected character"
    else
      let m := scanMark src i
      setToken (.mark m) (i + m.length)

def next : Parse Unit := do
  modify fun s => { s with lastLine := s.tokenLine, lastPosition := s.position, lineEnded := false }
  let s ← get
  scanToken (s.source.size - s.position + 2)

def token : Parse Token := do return (← get).token

def atMark (m : String) : Parse Bool := do return (← token).isMark m

def atKeyword (k : String) : Parse Bool := do return (← token).isKeyword k

def atPlainWord (w : String) : Parse Bool := do return (← token).isPlainWord w

def lineEnded : Parse Bool := do return (← get).lineEnded

def lastLine : Parse Nat := do return (← get).lastLine

def isStrict : Parse Bool := do return (← get).function.isStrict

def expect (m : String) : Parse Unit := do
  if ← atMark m then next else fail ("expecting '" ++ m ++ "'")

def accept (m : String) : Parse Bool := do
  if ← atMark m then
    next
    return true
  else return false

/-- The end of a statement: a semicolon, or a place where one may be left out. -/
def expectSemicolon : Parse Unit := do
  match ← token with
  | .mark ";" => next
  | .mark "\x7d" => pure ()
  | .eof => pure ()
  | _ => if ← lineEnded then pure () else fail "expecting ';'"

def glanceNext (stopAtLineEnd : Bool) : Parse Glance := do
  let s ← get
  let code (i : Nat) : Nat := (s.source.at i).toNat
  return (glance code stopAtLineEnd (s.source.size - s.position + 1) s.position).1

def wordName? : Token → Option String
  | .word w _ _ => some w
  | .keyword k => some k
  | _ => none

def freeWord? : Token → Option String
  | .word w _ false => some w
  | _ => none

def failReserved (w : String) : Parse α := fail ("'" ++ w ++ "' is a reserved identifier")

def lookAhead (x : Parse α) : Parse α := do
  let s ← get
  let a ← x
  set s
  return a

def rereadWord : Parse Unit := modify fun s =>
  match s.token with
  | .word w escaped _ => { s with token := wordToken s w escaped }
  | .keyword w => { s with token := wordToken s w false }
  | _ => s

/-- What lies behind a bracketed stretch, and what it holds. -/
structure Stretch where
  follows : Token
  lineEndFollows : Bool
  hasSemicolon : Bool
  hasAssignment : Bool

def endsOperand (t : Token) : Bool :=
  match t with
  | .number _ | .string _ _ | .regexp _ _ | .word _ _ _ | .hidden _ => true
  | .keyword k => k == "null" || k == "false" || k == "true" || k == "this"
  | .mark m => m == ")" || m == "]" || m == "\x7d" || m == "++" || m == "--"
  | _ => false

/-- The place behind a regular expression whose slash is before `i`, with its source and flags. -/
def scanRegexp (s : Source) (i : Nat) : Except String (String × String × Nat) :=
  body (s.size + 1) i false []
where
  body : Nat → Nat → Bool → List Char → Except String (String × String × Nat)
    | 0, _, _, _ => .error "unexpected end of regexp"
    | fuel + 1, i, inClass, acc =>
      let c := s.at i
      if s.size ≤ i then .error "unexpected end of regexp"
      else if isLineEnd c then .error "unexpected line terminator in regexp"
      else if c = '/' && !inClass then
        let stop := s.skipWhile (fun c => isNamePart c.toNat) (i + 1)
        .ok (String.ofList acc.reverse, s.extractString (i + 1) stop, stop)
      else if c = '\\' then
        let d := s.at (i + 1)
        if s.size ≤ i + 1 then .error "unexpected end of regexp"
        else if isLineEnd d then .error "unexpected line terminator in regexp"
        else body fuel (i + 2) inClass (d :: c :: acc)
      else
        body fuel (i + 1) (if c = '[' then true else if c = ']' then false else inClass) (c :: acc)

def closerOf (m : String) : Option String :=
  if m == "(" then some ")" else if m == "[" then some "]" else if m == "\x7b" then some "\x7d" else none

def slashAsRegexp : Parse Unit := do
  let s ← get
  if s.token.isMark "/" || s.token.isMark "/=" then
    match scanRegexp s.source (s.tokenStart + 1) with
    | .ok (a, b, stop) => set { s with token := .regexp a b, position := stop }
    | .error _ => pure ()

/-- The brackets still open once a token has been seen; `none` if it closes the wrong one. A brace
that closes a substitution leaves its template open. -/
def trackBrackets (t : Token) (opened : List String) : Option (List String) :=
  match t with
  | .eof => none
  | .template _ false => some ("`" :: opened)
  | .mark m =>
    match closerOf m with
    | some c => some (c :: opened)
    | none =>
      if m == ")" || m == "]" || m == "\x7d" then
        match opened with
        | c :: rest => if c == m then some rest else if c == "`" && m == "\x7d" then some opened else none
        | [] => none
      else some opened
  | _ => some opened

/-- Reads on from an opening bracket to behind its partner. Nothing is reported if it has none. -/
def scanStretch : Nat → List String → Stretch → Parse Stretch
  | 0, _, seen => pure seen
  | fuel + 1, opened, seen => do
    let t ← token
    let seen : Stretch :=
      { seen with
        hasSemicolon := seen.hasSemicolon || (t.isMark ";" && opened.length == 1)
        hasAssignment := seen.hasAssignment || t.isMark "=" }
    match trackBrackets t opened with
    | none => return seen
    | some [] => finish seen
    | some now =>
      if t.isMark "\x7d" && opened.head? == some "`" then
        let s ← get
        match scanTemplate s.source (s.source.size + 1) (s.tokenStart + 1) 0 [] with
        | none => return seen
        | some (raw, last, stop, lines) =>
          set { s with position := stop, line := s.line + lines, token := .template raw last }
          let left := if last then now.tail else now
          if left.isEmpty then finish seen
          else
            next
            if !last then slashAsRegexp
            scanStretch fuel left seen
      else
        next
        if !endsOperand t then slashAsRegexp
        scanStretch fuel now seen
where
  finish (seen : Stretch) : Parse Stretch := do
    next
    let s ← get
    return { seen with follows := s.token, lineEndFollows := s.lineEnded }

def lookOver : Parse Stretch := do
  let s ← get
  let start : Stretch := ⟨.eof, false, false, false⟩
  let attempt : Parse Stretch := scanStretch (s.source.size + 2) [] start
  match attempt.run s with
  | .ok r _ => return r
  | .error _ _ => return start

def modifyFunction (f : FunctionFrame → FunctionFrame) : Parse Unit :=
  modify fun s => { s with function := f s.function }

def mention (name : String) : Parse Unit := modifyFunction fun f =>
  if f.mentioned.contains name then f else { f with mentioned := name :: f.mentioned }

def openBlock : Parse Unit := modifyFunction fun f => { f with blocks := {} :: f.blocks }

def closeBlock : Parse BlockFrame := do
  match (← get).function.blocks with
  | b :: rest =>
    modifyFunction fun f => { f with blocks := rest }
    return b
  | [] => return {}

/-- Runs `x` in a block of its own and hands back the names that the block declares. -/
def inBlock (x : Parse α) : Parse (α × BlockFrame) := do
  openBlock
  let a ← x
  return (a, ← closeBlock)

def modifyBlock (g : BlockFrame → BlockFrame) : Parse Unit := modifyFunction fun f =>
  match f.blocks with
  | b :: rest => { f with blocks := g b :: rest }
  | [] => f

def declareLexical (name : String) (constant : Bool) (kind : NameKind) : Parse Unit := do
  let f := (← get).function
  match f.blocks with
  | [] => pure ()
  | b :: rest =>
    match b.names.lookup name with
    | some old =>
      if !(old == .function && kind == .function && !f.isStrict) then
        fail "invalid redefinition of lexical identifier"
    | none => pure ()
    match rest with
    | c :: _ =>
      if c.names.lookup name == some .caught then fail "invalid redefinition of lexical identifier"
    | [] => pure ()
    if rest.isEmpty && !f.isProgram && kind != .function && f.params.contains name then
      fail "invalid redefinition of parameter name"
    if b.vars.contains name then
      if f.isProgram then fail "invalid redefinition of global identifier"
      else fail "invalid redefinition of a variable"
    modifyBlock fun b =>
      { b with
        names := (name, kind) :: b.names
        lexicals :=
          if kind == .function || (b.lexicals.any fun l => l.name == name) then b.lexicals
          else b.lexicals ++ [⟨name, constant⟩] }

/-- Declares a variable of the function; no block around it may declare the name. -/
def declareVar (name : String) : Parse Unit := do
  let f := (← get).function
  let clash := f.blocks.any fun b =>
    match b.names.lookup name with
    | some .caught => false
    | some _ => true
    | none => false
  if clash then fail "invalid redefinition of lexical identifier"
  modifyFunction fun f =>
    { f with
      vars := if f.vars.contains name then f.vars else f.vars ++ [name]
      blocks := f.blocks.map fun b =>
        if b.vars.contains name then b else { b with vars := name :: b.vars } }

def declare (name : String) (kind : DeclarationKind) : Parse Unit := do
  if (← isStrict) && (name == "eval" || name == "arguments") then
    fail "invalid variable name in strict mode"
  if name == "let" && kind != .var then fail "invalid lexical variable name"
  match kind with
  | .var => declareVar name
  | .lexical => declareLexical name false .lexical
  | .constant => declareLexical name true .lexical

end Embedding.Guest.Syntax
