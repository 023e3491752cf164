import Embedding.Guest.Regex.Pattern
import Embedding.Guest.Syntax.Goal

namespace Embedding.Guest.Syntax

/-- What an expression is about to be used as, when it has to be a target. -/
inductive TargetRole
  | assignment
  | step
  | loop
  | pattern

def TargetRole.fault : TargetRole → String
  | assignment => "invalid assignment left-hand side"
  | step => "invalid increment/decrement operand"
  | loop => "invalid for in/of left hand-side"
  | pattern => "invalid destructuring target"

def requireTarget (role : TargetRole) (e : Expr) : Parse Unit := do
  match e with
  | .name id _ =>
    if (← isStrict) && (id == "eval" || id == "arguments") then fail "invalid lvalue in strict mode"
  | .property .. | .index .. | .hiddenProperty .. | .superProperty .. => pure ()
  | _ => fail role.fault

def useHidden (name : String) : Parse Unit := modify fun s =>
  if s.hidden.any (·.contains name) || s.wanted.contains name then s
  else { s with wanted := s.wanted ++ [name] }

/-- The part of a name of a property that has been read. -/
inductive NameShape
  | plain
  | shorthand
  | getter
  | setter
  | method (isAsync isGenerator : Bool)

def textKey (t : Text) : Expr := .literal (.text t)

def numberText : Literal → Text
  | .int n => Text.ofInt n.toInt
  | .float d => Text.ofString (d.format .guest)
  | .bigint n => Text.ofInt n
  | _ => Text.empty

def endsName : Parse Bool := do
  match ← token with
  | .mark m => return m == ":" || m == "," || m == "\x7d" || m == "(" || m == "="
  | _ => return false

/-- Reads the name of a property. The key is `none` when it is computed. -/
def propertyName (r : Reading) (methods shorthands privates : Bool) : Parse (NameShape × Expr) := do
  let plainWord (w : String) (free : Bool) : Parse (NameShape × Expr) := do
    let t ← token
    let ends := t.isMark ":" || (t.isMark "(" && methods)
    if free && shorthands && !ends then return (.shorthand, textKey w) else return (.plain, textKey w)
  let rest (shape : NameShape) : Parse (NameShape × Expr) := do
    match ← token with
    | .string t _ => next; return (shape, textKey t)
    | .number v => next; return (shape, textKey (numberText v))
    | .hidden name =>
      if privates then
        next
        return (shape, .hidden name)
      else fail "invalid property name"
    | .mark "[" =>
      next
      let e ← r.expression true
      expect "]"
      return (shape, e)
    | t =>
      match wordName? t with
      | some w =>
        next
        match shape with
        | .plain => plainWord w (freeWord? t).isSome
        | _ => return (shape, textKey w)
      | none => fail "invalid property name"
  if methods then
    let t ← token
    if t.isPlainWord "get" || t.isPlainWord "set" then
      let isGetter := t.isPlainWord "get"
      next
      if ← endsName then plainWord (if isGetter then "get" else "set") true
      else rest (if isGetter then .getter else .setter)
    else if t.isMark "*" then
      next
      rest (.method false true)
    else if t.isPlainWord "async" && (← glanceNext true) != .lineEnd then
      next
      if ← endsName then plainWord "async" true
      else if ← accept "*" then rest (.method true true)
      else rest (.method true false)
    else rest .plain
  else rest .plain

def isComputed : Expr → Bool
  | .literal (.text _) => false
  | .hidden _ => false
  | _ => true

def objectLiteral (r : Reading) : Parse Expr := do
  next
  let step (state : List Expr × Bool) : Parse ((List Expr × Bool) ⊕ List Expr) := do
    let (members, hasProto) := state
    if ← atMark "\x7d" then return .inr members
    let start := (← get).tokenStart
    let (member, hasProto) ← do
      if ← accept "..." then
        pure (Expr.spread (← r.assignment true), hasProto)
      else
        let computedAhead := (← token).isMark "["
        let (shape, key) ← propertyName r true true false
        let named := !computedAhead || !isComputed key
        match shape, key with
        | .shorthand, .literal (.text t) =>
          let name := t.toStringLossy
          mention name
          pure (Expr.member false .field key (.name name (← lastLine)), hasProto)
        | _, _ =>
          if ← atMark "(" then
            let (kind, memberKind, isAsync, isGenerator) : FunctionKind × MemberKind × Bool × Bool :=
              match shape with
              | .getter => (.getter, .getter, false, false)
              | .setter => (.setter, .setter, false, false)
              | .method a g => (.method, .method, a, g)
              | _ => (.method, .method, false, false)
            let f ← r.function { form := .member, kind, isAsync, isGenerator, start }
            pure (Expr.member false memberKind key f, hasProto)
          else
            expect ":"
            let value ← r.assignment true
            match key with
            | .literal (.text t) =>
              if named && t == Text.ofString "__proto__" then
                if hasProto then fail "duplicate __proto__ property name"
                pure (Expr.member false .proto key value, true)
              else pure (Expr.member false .field key (nameExpr t.toStringLossy value), hasProto)
            | _ => pure (Expr.member false .field key value, hasProto)
    let members := member :: members
    if ← accept "," then return .inl (members, hasProto) else return .inr members
  let members ← repeatStep step ([], false)
  let line ← lastLine
  expect "\x7d"
  return .object members.reverse line

def arrayLiteral (r : Reading) : Parse Expr := do
  next
  let step (items : List Expr) : Parse (List Expr ⊕ List Expr) := do
    if ← atMark "]" then return .inr items
    let item ← do
      if ← atMark "," then pure Expr.hole
      else if ← accept "..." then pure (Expr.spread (← r.assignment true))
      else r.assignment true
    if ← accept "," then return .inl (item :: items) else return .inr (item :: items)
  let items ← repeatStep step []
  let line ← lastLine
  expect "]"
  return .array items.reverse line

def callArguments (r : Reading) : Parse (List Expr) := do
  next
  let step (items : List Expr) : Parse (List Expr ⊕ List Expr) := do
    if ← atMark ")" then return .inr items
    let item ← do
      if ← accept "..." then pure (Expr.spread (← r.assignment true)) else r.assignment true
    if ← atMark ")" then return .inr (item :: items)
    expect ","
    return .inl (item :: items)
  let items ← repeatStep step []
  next
  return items.reverse

/-- The text of a template part, its escapes undone; `none` if one is malformed. -/
def cookedTemplate (raw : List Char) : Option Text :=
  let src : Source := raw.toArray
  match scanString src false '`' (src.size + 1) 0 0 #[] with
  | .ended t _ _ => some t
  | _ => none

/-- Reads a template from its first part on: the parts and the expressions between them. -/
def templateParts (r : Reading) : Parse (List (List Char) × List Expr) := do
  let step (state : List (List Char) × List Expr) :
      Parse ((List (List Char) × List Expr) ⊕ (List (List Char) × List Expr)) := do
    let (parts, values) := state
    match ← token with
    | .template raw true =>
      next
      return .inr (raw :: parts, values)
    | .template raw false =>
      next
      let e ← r.expression true
      if !(← atMark "\x7d") then fail "expected '\x7d' after template expression"
      let s ← get
      match scanTemplate s.source (s.source.size + 1) (s.tokenStart + 1) 0 [] with
      | none => fail "unexpected end of string"
      | some (rest, last, stop, lines) =>
        set { s with position := stop, line := s.line + lines, token := .template rest last }
        return .inl (raw :: parts, e :: values)
    | _ => fail "unexpected end of string"
  let (parts, values) ← repeatStep step ([], [])
  return (parts.reverse, values.reverse)

/-- A template as the joining of its parts, by way of the method that joins texts. -/
def templateLiteral (r : Reading) : Parse Expr := do
  let (raws, values) ← templateParts r
  let cooked := raws.map cookedTemplate
  if cooked.any (·.isNone) then fail "malformed escape sequence in string literal"
  let texts := cooked.map (·.getD Text.empty)
  let line ← lastLine
  match texts, values with
  | first :: _, [] => return .literal (.text first)
  | first :: rest, _ =>
    let args := (values.zip rest).flatMap fun (e, t) =>
      if t.isEmpty then [e] else [e, Expr.literal (.text t)]
    return .call (.property (.literal (.text first)) "concat" line) args line
  | [], _ => return .literal (.text Text.empty)

def superOperand (r : Reading) : Parse Expr := do
  next
  mention "this"
  mention "new.target"
  let f := (← get).function
  if ← atMark "(" then
    if !f.superCall then fail "super() is only valid in a derived class constructor"
    let args ← callArguments r
    return .superCall args (← lastLine)
  else if ← atMark "." then
    if !f.superProperty then fail "'super' is only valid in a method"
    next
    match ← token with
    | .hidden _ => fail "private class field forbidden after super"
    | t =>
      match wordName? t with
      | some w =>
        let line ← lastLine
        next
        return .superProperty (textKey w) line
      | none => fail "expecting field name"
  else if ← atMark "[" then
    if !f.superProperty then fail "'super' is only valid in a method"
    next
    let e ← r.expression true
    expect "]"
    return .superProperty e (← lastLine)
  else fail "invalid use of 'super'"

def importOperand (r : Reading) (calls : Bool) : Parse Expr := do
  next
  if ← accept "." then
    if !(← atPlainWord "meta") then fail "meta expected"
    if !(← get).isModule then fail "import.meta only valid in module code"
    next
    return .importMeta
  else
    expect "("
    if !calls then fail "invalid use of 'import()'"
    let e ← r.assignment true
    expect ")"
    return .importCall e (← lastLine)

def regexpOperand : Parse Expr := do
  let s ← get
  match scanRegexp s.source (s.tokenStart + 1) with
  | .error e => fail e
  | .ok (source, flags, stop) =>
    set { s with position := stop }
    match Regex.Pattern.ofText source flags with
    | .error e => failAt e s.tokenLine
    | .ok _ =>
      next
      return .regexp source flags (← lastLine)

def tokenText : Parse String := do
  let s ← get
  return s.source.extractString s.tokenStart s.position

/-- The first part of an operand, before calls and properties. The flag tells that a call must
construct. -/
def primary (r : Reading) (calls : Bool) : Parse (Expr × Bool) := do
  let plain (e : Expr) : Parse (Expr × Bool) := return (e, false)
  match ← token with
  | .number v => next; plain (.literal v)
  | .string t _ => next; plain (.literal (.text t))
  | .template _ _ => plain (← templateLiteral r)
  | .mark "/" => plain (← regexpOperand)
  | .mark "/=" => plain (← regexpOperand)
  | .mark "(" =>
    next
    let e ← r.expression true
    expect ")"
    plain e
  | .mark "\x7b" => plain (← objectLiteral r)
  | .mark "[" => plain (← arrayLiteral r)
  | .keyword "function" =>
    plain (← r.function { form := .expression, start := (← get).tokenStart })
  | .keyword "class" => plain (← r _ (.classOf true false))
  | .keyword "null" => next; plain (.literal .null)
  | .keyword "true" => next; plain (.literal (.bool true))
  | .keyword "false" => next; plain (.literal (.bool false))
  | .keyword "this" => mention "this"; next; plain (.this (← lastLine))
  | .keyword "super" => plain (← superOperand r)
  | .keyword "import" => plain (← importOperand r calls)
  | .keyword "new" =>
    next
    if ← accept "." then
      if !(← atPlainWord "target") then fail "expecting target"
      if !(← get).function.newTarget then fail "new.target only allowed within functions"
      next
      mention "new.target"
      plain .newTarget
    else
      let e ← r.operand false
      if ← atMark "(" then return (e, true) else plain (.new e [] (← lastLine))
  | .word w _ true => failReserved w
  | .word w escaped false =>
    if w == "async" && !escaped && (← glanceNext true) != .lineEnd then
      let start := (← get).tokenStart
      next
      if ← atKeyword "function" then
        plain (← r.function { form := .expression, isAsync := true, start })
      else
        mention "async"
        plain (.name "async" (← lastLine))
    else
      if w == "arguments" && !(← get).function.arguments then
        fail "'arguments' identifier is not allowed in class field initializer"
      mention w
      next
      plain (.name w (← lastLine))
  | _ => fail ("unexpected token in expression: '" ++ (← tokenText) ++ "'")

/-- Where the reading of calls and properties behind an operand stands. -/
structure OperandState where
  expr : Expr
  constructs : Bool
  calls : Bool
  chained : Bool

def operandStep (r : Reading) (calls : Bool) (st : OperandState) : Parse (OperandState ⊕ Expr) := do
  let hold (e : Expr) (optional : Bool) : Expr := if optional then .optional e else e
  let property (optional : Bool) : Parse OperandState := do
    let base := hold st.expr optional
    match ← token with
    | .hidden name =>
      useHidden name
      let line ← lastLine
      next
      return { st with expr := .hiddenProperty base name line }
    | t =>
      match wordName? t with
      | some w =>
        let line ← lastLine
        next
        return { st with expr := .property base w line }
      | none => fail "expecting field name"
  let index (optional : Bool) : Parse OperandState := do
    next
    let key ← r.expression true
    expect "]"
    return { st with expr := .index (hold st.expr optional) key (← lastLine) }
  let call (optional : Bool) : Parse OperandState := do
    let args ← callArguments r
    let line ← lastLine
    if st.constructs then return { st with expr := .new st.expr args line, constructs := false }
    else return { st with expr := .call (hold st.expr optional) args line }
  match ← token with
  | .mark "?." =>
    if !calls then fail "new keyword cannot be used with an optional chain"
    next
    let st' ←
      if (← atMark "(") && st.calls then call true
      else if ← atMark "[" then index true
      else property true
    return .inl { st' with chained := true }
  | .mark "(" => if st.calls then return .inl (← call false) else done
  | .mark "." => next; return .inl (← property false)
  | .mark "[" => return .inl (← index false)
  | .template _ _ =>
    if st.chained then fail "template literal cannot appear in an optional chain"
    let (raws, values) ← templateParts r
    let line ← lastLine
    let tagged := Expr.tagged st.expr (raws.map cookedTemplate)
      (raws.map fun cs => Text.ofString (String.ofList cs)) values line
    return .inl { st with expr := tagged }
  | _ => done
where
  done : Parse (OperandState ⊕ Expr) := do
    let line ← lastLine
    let e := if st.constructs then Expr.new st.expr [] line else st.expr
    return .inr (if st.chained then .chain e else e)

def operand (r : Reading) (calls : Bool) : Parse Expr := do
  let (e, constructs) ← primary r calls
  let isNew := match e with
    | .new .. => true
    | _ => false
  repeatStep (operandStep r calls) ⟨e, constructs, calls || constructs || (isNew && calls), false⟩

def unaryOperator? (t : Token) : Option UnaryOp :=
  match t with
  | .mark "+" => some .plus
  | .mark "-" => some .negate
  | .mark "!" => some .not
  | .mark "~" => some .bitNot
  | .keyword "void" => some .void
  | _ => none

def checkDelete (e : Expr) : Parse Unit := do
  match e with
  | .name _ _ => if ← isStrict then fail "cannot delete a direct reference in strict mode"
  | .hiddenProperty .. => fail "cannot delete a private class field"
  | _ => pure ()

/-- A unary expression, with a power behind it where the rule lets one follow. -/
def unary (r : Reading) (power : PowerRule) : Parse Expr := do
  let t ← token
  let (e, power) ← do
    match unaryOperator? t with
    | some op =>
      next
      let e ← r.unary .forbidden
      pure (Expr.unary op e (← lastLine), PowerRule.ignored)
    | none =>
      if t.isMark "++" || t.isMark "--" then
        next
        let e ← r.unary .ignored
        requireTarget .step e
        pure (Expr.update (t.isMark "++") true e (← lastLine), power)
      else if t.isKeyword "typeof" then
        next
        let e ← r.unary .forbidden
        pure (Expr.typeOf e (← lastLine), .ignored)
      else if t.isKeyword "delete" then
        next
        let e ← r.unary .forbidden
        checkDelete e
        pure (Expr.delete e (← lastLine), .ignored)
      else if t.isKeyword "await" then
        let s ← get
        let atTop := s.isModule && s.outer.isEmpty
        if !s.function.isAsync && !atTop then fail "unexpected 'await' keyword"
        if !s.function.inBody then fail "await in default expression"
        next
        let e ← r.unary .forbidden
        pure (Expr.await e (← lastLine), .ignored)
      else
        let e ← r.operand true
        let after ← token
        if !(← lineEnded) && (after.isMark "++" || after.isMark "--") then
          requireTarget .step e
          let line ← lastLine
          next
          pure (Expr.update (after.isMark "++") false e line, power)
        else pure (e, power)
  if power == .ignored || !(← atMark "**") then return e
  else if power == .forbidden then
    failWithoutPlace "unparenthesized unary expression can't appear on the left-hand side of '**'"
  else
    next
    let right ← r.unary .allowed
    return .binary .pow e right (← lastLine)

/-- The operators of one level of binding, from the tightest, 1, to the loosest, 8. -/
def binaryOperator? (level : Nat) (acceptIn : Bool) (t : Token) : Option BinaryOp :=
  match level, t with
  | 1, .mark "*" => some .mul
  | 1, .mark "/" => some .div
  | 1, .mark "%" => some .rem
  | 2, .mark "+" => some .add
  | 2, .mark "-" => some .sub
  | 3, .mark "<<" => some .shiftLeft
  | 3, .mark ">>" => some .shiftRight
  | 3, .mark ">>>" => some .shiftRightUnsigned
  | 4, .mark "<" => some .lt
  | 4, .mark ">" => some .gt
  | 4, .mark "<=" => some .le
  | 4, .mark ">=" => some .ge
  | 4, .keyword "instanceof" => some .instanceOf
  | 4, .keyword "in" => if acceptIn then some .contained else none
  | 5, .mark "==" => some .eq
  | 5, .mark "!=" => some .ne
  | 5, .mark "===" => some .strictEq
  | 5, .mark "!==" => some .strictNe
  | 6, .mark "&" => some .bitAnd
  | 7, .mark "^" => some .bitXor
  | 8, .mark "|" => some .bitOr
  | _, _ => none

def binaryUpTo (r : Reading) (acceptIn : Bool) : Nat → Parse Expr
  | 0 => r.unary .allowed
  | level + 1 => do
    let hiddenIn? : Option String ← do
      match ← token with
      | .hidden name =>
        if acceptIn && level + 1 == 4 && (← glanceNext false) == .inWord then pure (some name) else pure none
      | _ => pure none
    let first ← do
      match hiddenIn? with
      | some name =>
        useHidden name
        next
        next
        let e ← binaryUpTo r acceptIn level
        pure (Expr.hiddenIn name e (← lastLine))
      | none => binaryUpTo r acceptIn level
    let step (left : Expr) : Parse (Expr ⊕ Expr) := do
      match binaryOperator? (level + 1) acceptIn (← token) with
      | none => return .inr left
      | some op =>
        next
        let right ← binaryUpTo r acceptIn level
        return .inl (.binary op left right (← lastLine))
    repeatStep step first

def logicalExpr (r : Reading) (acceptIn : Bool) (op : LogicalOp) : Parse Expr := do
  let mark := if op == .and then "&&" else "||"
  let part : Parse Expr :=
    if op == .and then binaryUpTo r acceptIn 8 else logicalAnd
  let e ← part
  let step (left : Expr) : Parse (Expr ⊕ Expr) := do
    if ← accept mark then
      let right ← part
      return .inl (.logical op left right)
    else return .inr left
  if ← atMark mark then
    let e ← repeatStep step e
    if ← atMark "??" then fail "cannot mix ?? with && or ||"
    return e
  else return e
where
  logicalAnd : Parse Expr := do
    let e ← binaryUpTo r acceptIn 8
    let step (left : Expr) : Parse (Expr ⊕ Expr) := do
      if ← accept "&&" then
        let right ← binaryUpTo r acceptIn 8
        return .inl (.logical .and left right)
      else return .inr left
    if ← atMark "&&" then
      let e ← repeatStep step e
      if ← atMark "??" then fail "cannot mix ?? with && or ||"
      return e
    else return e

def conditionalExpr (r : Reading) (acceptIn : Bool) : Parse Expr := do
  let e ← logicalExpr r acceptIn .or
  let step (left : Expr) : Parse (Expr ⊕ Expr) := do
    if ← accept "??" then
      let right ← binaryUpTo r acceptIn 8
      return .inl (.logical .coalesce left right)
    else return .inr left
  let e ← repeatStep step e
  if ← accept "?" then
    let yes ← r.assignment true
    expect ":"
    let no ← r.assignment acceptIn
    return .conditional e yes no
  else return e

def compoundOperator? (t : Token) : Option BinaryOp :=
  match t with
  | .mark "+=" => some .add
  | .mark "-=" => some .sub
  | .mark "*=" => some .mul
  | .mark "/=" => some .div
  | .mark "%=" => some .rem
  | .mark "**=" => some .pow
  | .mark "<<=" => some .shiftLeft
  | .mark ">>=" => some .shiftRight
  | .mark ">>>=" => some .shiftRightUnsigned
  | .mark "&=" => some .bitAnd
  | .mark "|=" => some .bitOr
  | .mark "^=" => some .bitXor
  | _ => none

def logicalOperator? (t : Token) : Option LogicalOp :=
  match t with
  | .mark "&&=" => some .and
  | .mark "||=" => some .or
  | .mark "??=" => some .coalesce
  | _ => none

/-- An anonymous function takes the name of the variable it is assigned to. -/
def namedFor (target value : Expr) : Expr :=
  match target with
  | .name id _ => nameExpr id value
  | _ => value

def yieldExpr (r : Reading) (acceptIn : Bool) : Parse Expr := do
  let f := (← get).function
  if !f.isGenerator then fail "unexpected 'yield' keyword"
  if !f.inBody then fail "yield in default expression"
  next
  let bare ← do
    match ← token with
    | .mark m => pure ([";", ")", "]", "\x7d", ",", ":"].contains m)
    | .eof => pure true
    | _ => pure false
  if bare || (← lineEnded) then return .yield (.literal .undefined) false (← lastLine)
  else
    let delegate ← accept "*"
    let e ← r.assignment acceptIn
    return .yield e delegate (← lastLine)

def arrowFunction? (r : Reading) : Parse (Option Expr) := do
  let start := (← get).tokenStart
  let arrow (isAsync : Bool) : Parse (Option Expr) := do
    return some (← r.function { form := .arrow, kind := .arrow, isAsync, start })
  let arrowBehindParens : Parse Bool := do
    let s ← lookOver
    return s.follows.isMark "=>" && !s.lineEndFollows
  match ← token with
  | .mark "(" => if ← arrowBehindParens then arrow false else return none
  | .word w escaped false =>
    if w == "async" && !escaped then
      let ahead ← glanceNext true
      if ahead == .functionWord || ahead == .lineEnd then return none
      else if ahead == .arrow then arrow false
      else
        let before ← get
        next
        let starts ← do
          match ← token with
          | .word _ _ false => do pure ((← glanceNext false) == .arrow)
          | .mark "(" => arrowBehindParens
          | _ => pure false
        if starts then arrow true
        else
          set before
          return none
    else if (← glanceNext true) == .arrow then arrow false
    else return none
  | _ => return none

def assignmentExpr (r : Reading) (acceptIn : Bool) : Parse Expr := do
  if ← atKeyword "yield" then yieldExpr r acceptIn
  else
    match ← arrowFunction? r with
    | some f => return f
    | none =>
      let opens := (← atMark "\x7b") || (← atMark "[")
      let isPattern ← do
        if opens then pure ((← lookOver).follows.isMark "=") else pure false
      if isPattern then r.pattern { declares := none, hasValue := false }
      else
        let target ← conditionalExpr r acceptIn
        let t ← token
        if t.isMark "=" then
          next
          requireTarget .assignment target
          let value ← r.assignment acceptIn
          return .assign target (namedFor target value) (← lastLine)
        else
          match compoundOperator? t, logicalOperator? t with
          | some op, _ =>
            next
            requireTarget .assignment target
            let value ← r.assignment acceptIn
            return .compound op target value (← lastLine)
          | none, some op =>
            next
            requireTarget .assignment target
            let value ← r.assignment acceptIn
            return .logicalAssign op target (namedFor target value) (← lastLine)
          | none, none => return target

def sequenceExpr (r : Reading) (acceptIn : Bool) : Parse Expr := do
  let e ← r.assignment acceptIn
  let step (left : Expr) : Parse (Expr ⊕ Expr) := do
    if ← accept "," then
      let right ← r.assignment acceptIn
      return .inl (.sequence left right)
    else return .inr left
  repeatStep step e

end Embedding.Guest.Syntax
