import Embedding.Guest.Syntax.Expression

namespace Embedding.Guest.Syntax

def checkParameter (name : String) : Parse Unit := do
  let f := (← get).function
  if f.params.contains name || f.vars.contains name then
    fail "duplicate parameter names not allowed in this context"

def addParameter (name : String) : Parse Unit :=
  modifyFunction fun f => { f with params := f.params ++ [name] }

def declareBound (q : PatternRequest) (kind : DeclarationKind) (name : String) : Parse Unit :=
  if q.isParameter then addParameter name else declare name kind

def boundName (q : PatternRequest) (kind : DeclarationKind) : Parse Expr := do
  match freeWord? (← token) with
  | none => fail "invalid destructuring target"
  | some name =>
    if (← isStrict) && (name == "eval" || name == "arguments") then fail "invalid destructuring target"
    if q.isParameter then checkParameter name
    next
    declareBound q kind name
    mention name
    return .name name (← lastLine)

def patternTarget (r : Reading) (q : PatternRequest) : Parse Expr := do
  match q.declares with
  | some kind => boundName q kind
  | none =>
    let e ← r.operand true
    requireTarget .pattern e
    return e

def withDefault (r : Reading) (target : Expr) : Parse Expr := do
  if ← accept "=" then
    let value ← r.assignment true
    return .withDefault target (namedFor target value)
  else return target

/-- Whether the bracket at hand opens a pattern inside a pattern that `closer` ends. -/
def opensPattern (closer : String) : Parse Bool := do
  if (← atMark "[") || (← atMark "\x7b") then
    match (← lookOver).follows with
    | .mark m => return m == "," || m == "=" || m == closer
    | _ => return false
  else return false

def nestedRequest (q : PatternRequest) : PatternRequest :=
  { q with hasValue := true, allowInitializer := true }

def objectPatternMember (r : Reading) (q : PatternRequest) : Parse Expr := do
  if ← accept "..." then
    let target ← patternTarget r q
    if !(← atMark "\x7d") then fail "assignment rest property must be last"
    return .spread target
  else
    let word := freeWord? (← token)
    let (shape, key) ← propertyName r false true false
    match shape, word with
    | .shorthand, some name =>
      if q.isParameter then checkParameter name
      if (← isStrict) && (name == "eval" || name == "arguments") then fail "invalid destructuring target"
      match q.declares with
      | some kind => declareBound q kind name
      | none => pure ()
      mention name
      let target ← withDefault r (.name name (← lastLine))
      return .member false .field key target
    | _, _ =>
      expect ":"
      if ← opensPattern "\x7d" then
        return .member false .field key (← r.pattern (nestedRequest q))
      else
        let target ← patternTarget r q
        return .member false .field key (← withDefault r target)

def objectPattern (r : Reading) (q : PatternRequest) : Parse Expr := do
  next
  let step (items : List Expr) : Parse (List Expr ⊕ List Expr) := do
    if ← atMark "\x7d" then return .inr items
    let item ← objectPatternMember r q
    if ← atMark "\x7d" then return .inr (item :: items)
    expect ","
    return .inl (item :: items)
  let items ← repeatStep step []
  next
  return .object items.reverse (← lastLine)

def arrayPattern (r : Reading) (q : PatternRequest) : Parse Expr := do
  next
  let step (items : List Expr) : Parse (List Expr ⊕ List Expr) := do
    if ← atMark "]" then return .inr items
    let spread ← accept "..."
    if spread && ((← atMark ",") || (← atMark "]")) then fail "missing binding pattern..."
    let item ← do
      if ← atMark "," then pure Expr.hole
      else if ← opensPattern "]" then r.pattern (nestedRequest q)
      else
        let target ← patternTarget r q
        if spread then pure target else withDefault r target
    let item := if spread then Expr.spread item else item
    if ← atMark "]" then return .inr (item :: items)
    if spread then fail "rest element must be the last one"
    expect ","
    return .inl (item :: items)
  let items ← repeatStep step []
  next
  return .array items.reverse (← lastLine)

/-- A pattern with what is assigned to it: a default if a value is at hand already, and else the
value that is taken apart. -/
def patternExpr (r : Reading) (q : PatternRequest) : Parse Expr := do
  let pattern ← do
    if ← atMark "\x7b" then objectPattern r q
    else if ← atMark "[" then arrayPattern r q
    else fail "invalid assignment syntax"
  if q.allowInitializer && (← atMark "=") then
    next
    let value ← r.assignment true
    if q.hasValue then return .withDefault pattern value
    else return .destructure pattern value (← lastLine)
  else if q.hasValue then return pattern
  else fail "too complicated destructuring expression"

structure Parameters where
  items : List Expr
  simple : Bool
  length : Nat

structure ParameterState where
  items : List Expr := []
  simple : Bool := true
  length : Nat := 0
  hasDefault : Bool := false

def parameter (r : Reading) (kind : FunctionKind) (hasExpressions : Bool) (st : ParameterState) :
    Parse (ParameterState × Bool) := do
  let rest ← do
    if ← atMark "..." then
      if kind == .setter then fail "invalid number of arguments for getter or setter"
      next
      pure true
    else pure false
  let hold (e : Expr) : Expr := if rest then .spread e else e
  if (← atMark "[") || (← atMark "\x7b") then
    let e ← r.pattern { declares := some (if hasExpressions then .lexical else .var), isParameter := true }
    let hasDefault := st.hasDefault || (match e with
      | .withDefault .. => true
      | _ => false)
    let length := if hasDefault then st.length else st.length + 1
    return ({ items := hold e :: st.items, simple := false, length, hasDefault }, rest)
  else
    match ← token with
    | .word name _ reserved =>
      if reserved then failReserved name
      if name == "yield" && (← get).function.isGenerator then failReserved name
      if hasExpressions then checkParameter name
      addParameter name
      next
      let target := Expr.name name (← lastLine)
      if rest then return ({ st with items := .spread target :: st.items, simple := false, hasDefault := true }, true)
      else if ← atMark "=" then
        let e ← withDefault r target
        return ({ st with items := e :: st.items, simple := false, hasDefault := true }, false)
      else
        let length := if st.hasDefault then st.length else st.length + 1
        return ({ st with items := target :: st.items, length }, false)
    | _ => fail "missing formal parameter"

/-- The parameters of a function up to the closing parenthesis, which stays at hand. -/
def parameterList (r : Reading) (kind : FunctionKind) : Parse Parameters := do
  let hasExpressions ← do
    if ← atMark "(" then
      let seen ← lookOver
      next
      pure seen.hasAssignment
    else
      expect "("
      pure false
  let step (st : ParameterState) : Parse (ParameterState ⊕ ParameterState) := do
    if ← atMark ")" then return .inr st
    let (st, rest) ← parameter r kind hasExpressions st
    if rest && !(← atMark ")") then fail "expecting ')'"
    if ← atMark ")" then return .inr st
    expect ","
    return .inl st
  let st ← repeatStep step {}
  let count := st.items.length
  if (kind == .getter && count != 0) || (kind == .setter && count != 1) then
    fail "invalid number of arguments for getter or setter"
  return ⟨st.items.reverse, st.simple, st.length⟩

end Embedding.Guest.Syntax
