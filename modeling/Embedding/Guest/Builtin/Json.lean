import Embedding.Guest.Builtin.Array

namespace Embedding.Guest

namespace JsonText

open Syntax

inductive Token where
  | mark (c : Char)
  | name (s : String)
  | string (t : Text)
  | number (d : Double)
  | ending
deriving Inhabited

/-- A position in the document; a token begins at `start` and the rest at `next`. -/
structure Cursor where
  token : Token
  start : Nat
  next : Nat
  line : Nat
deriving Inhabited

inductive Tree where
  | null
  | bool (b : Bool)
  | number (d : Double)
  | string (t : Text)
  | array (items : List Tree)
  | object (entries : List (Text × Tree))
deriving Inhabited

structure Fault where
  message : String
  line : Nat

def scanText (s : Source) (line : Nat) : Nat → Nat → Array UInt16 → Except Fault (Text × Nat)
  | 0, _, _ => .error ⟨"unexpected end of string", line⟩
  | fuel + 1, i, acc =>
    let c := s.at i
    if s.size ≤ i then .error ⟨"unexpected end of string", line⟩
    else if c == '"' then .ok (⟨acc⟩, i + 1)
    else if c.toNat < 32 then .error ⟨"invalid character in a JSON string", line⟩
    else if c == '\\' then
      if s.size ≤ i + 1 then .error ⟨"unexpected end of string", line⟩
      else if isAsciiDigit (s.at (i + 1)).toNat then .error ⟨"malformed escape sequence in string literal", line⟩
      else
        match scanEscape s (i + 1) with
        | .codePoint n next => scanText s line fuel next (acc ++ Text.unitsOfCodePoint n)
        | .plain => scanText s line fuel (i + 2) (acc ++ Text.unitsOfCodePoint (s.at (i + 1)).toNat)
        | .malformed => .error ⟨"malformed escape sequence in string literal", line⟩
    else scanText s line fuel (i + 1) (acc ++ Text.unitsOfCodePoint c.toNat)

def isNamePart (c : Char) : Bool := isAsciiLetter c.toNat || isAsciiDigit c.toNat || c == '_' || c == '$'

def scanValue (s : Source) (i line : Nat) : Except Fault Cursor :=
  let c := s.at i
  let mark : Except Fault Cursor := .ok ⟨.mark c, i, i + 1, line⟩
  let number : Except Fault Cursor :=
    let negative := c == '-'
    match scanNumber { radix := 10, prefixes := false } s (if negative then i + 1 else i) with
    | some (v, next) =>
      match Value.ofLiteral v with
      | .number d => .ok ⟨.number (if negative then d.neg else d), i, next, line⟩
      | _ => mark
    | none => mark
  if s.size ≤ i then .ok ⟨.ending, i, i, line⟩
  else if c == '"' then
    match scanText s line (s.size + 1) (i + 1) #[] with
    | .ok (t, next) => .ok ⟨.string t, i, next, line⟩
    | .error e => .error e
  else if isNamePart c && !isAsciiDigit c.toNat then
    let next := s.skipWhile isNamePart i
    .ok ⟨.name (s.extractString i next), i, next, line⟩
  else if c == '0' && isAsciiDigit (s.at (i + 1)).toNat then mark
  else if isAsciiDigit c.toNat then number
  else if c == '-' && isAsciiDigit (s.at (i + 1)).toNat then number
  else if 128 ≤ c.toNat then .error ⟨"unexpected character", line⟩
  else mark

def advance (s : Source) : Nat → Nat → Nat → Except Fault Cursor
  | 0, i, line => .ok ⟨.ending, i, i, line⟩
  | fuel + 1, i, line =>
    let c := s.at i
    if s.size ≤ i then .ok ⟨.ending, i, i, line⟩
    else if c == ' ' || c == '\t' then advance s fuel (i + 1) line
    else if c == '\r' && s.at (i + 1) == '\n' then advance s fuel (i + 2) (line + 1)
    else if c == '\n' || c == '\r' then advance s fuel (i + 1) (line + 1)
    else scanValue s i line

def after (s : Source) (c : Cursor) : Except Fault Cursor := advance s (s.size + 1) c.next c.line

def isMark (c : Cursor) (m : Char) : Bool :=
  match c.token with
  | .mark x => x == m
  | _ => false

def expect (s : Source) (c : Cursor) (m : Char) : Except Fault Cursor :=
  if isMark c m then after s c else .error ⟨"expecting '" ++ String.singleton m ++ "'", c.line⟩

mutual

def value (s : Source) : Nat → Cursor → Except Fault (Tree × Cursor)
  | 0, c => .error ⟨"stack overflow", c.line⟩
  | fuel + 1, c =>
    let unexpected : Except Fault (Tree × Cursor) :=
      .error ⟨"unexpected token: '" ++ s.extractString c.start c.next ++ "'", c.line⟩
    match c.token with
    | .string t => do return (.string t, ← after s c)
    | .number d => do return (.number d, ← after s c)
    | .name "true" => do return (.bool true, ← after s c)
    | .name "false" => do return (.bool false, ← after s c)
    | .name "null" => do return (.null, ← after s c)
    | .name _ => unexpected
    | .ending => .error ⟨"unexpected end of input", c.line⟩
    | .mark '[' => do
      let c ← after s c
      if isMark c ']' then return (.array [], ← after s c)
      let (items, c) ← itemsFrom s fuel c
      return (.array items, ← expect s c ']')
    | .mark '\x7b' => do
      let c ← after s c
      if isMark c '\x7d' then return (.object [], ← after s c)
      let (entries, c) ← entriesFrom s fuel c
      return (.object entries, ← expect s c '\x7d')
    | .mark _ => unexpected

def itemsFrom (s : Source) : Nat → Cursor → Except Fault (List Tree × Cursor)
  | 0, c => .error ⟨"stack overflow", c.line⟩
  | fuel + 1, c => do
    let (x, c) ← value s fuel c
    if isMark c ',' then
      let (rest, c) ← itemsFrom s fuel (← after s c)
      return (x :: rest, c)
    else return ([x], c)

def entriesFrom (s : Source) : Nat → Cursor → Except Fault (List (Text × Tree) × Cursor)
  | 0, c => .error ⟨"stack overflow", c.line⟩
  | fuel + 1, c => do
    match c.token with
    | .string k =>
      let c ← expect s (← after s c) ':'
      let (x, c) ← value s fuel c
      if isMark c ',' then
        let (rest, c) ← entriesFrom s fuel (← after s c)
        return ((k, x) :: rest, c)
      else return ([(k, x)], c)
    | _ => .error ⟨"expecting property name", c.line⟩

end

def read (t : Text) : Except Fault Tree := do
  let s : Source := t.toStringLossy.toList.toArray
  let (x, c) ← value s (2 * s.size + 2) (← advance s (s.size + 1) 0 1)
  match c.token with
  | .ending => return x
  | _ => .error ⟨"unexpected data at the end", c.line⟩

end JsonText

namespace Act

def buildJson : JsonText.Tree → Act Value
  | .null => return .null
  | .bool b => return .bool b
  | .number d => return .number d
  | .string t => return .text t
  | .array items => do
    let vs ← buildItems items
    return .object (← newArray vs)
  | .object entries => do
    let o ← newObject Intrinsic.objectPrototype
    holding [.object o] (buildEntries o entries)
    return .object o
where
  buildItems : List JsonText.Tree → Act (List Value)
    | [] => return []
    | x :: rest => do
      let v ← buildJson x
      let vs ← buildItems rest
      return v :: vs
  buildEntries (o : ObjectId) : List (Text × JsonText.Tree) → Act Unit
    | [] => pure ()
    | (k, x) :: rest => do
      let v ← buildJson x
      createProperty o (.text k) v
      buildEntries o rest

/-- Hands every value, the inner ones first, to a function that may replace it. -/
def revise (f : Value) : Nat → ObjectId → Key → Act Value
  | 0, _, _ => raise .internal "stack overflow"
  | fuel + 1, holder, k => do
    let v ← getFrom holder k (.object holder)
    match v with
    | .object o =>
      let keys ←
        if ← isArray o then do pure ((List.range (← lengthOf o)).map Key.ofNat)
        else do
          let own ← ownKeys o
          (textKeys own).filterM fun k => do return ((← getOwn o k).map (·.enumerable)).getD false
      for k in keys do
        let new ← revise f fuel o k
        if new.isUndefined then
          let _ ← delete o k
        else
          let _ ← define o k (plainDescriptor new)
    | _ => pure ()
    call f (.object holder) [k.toValue, v]

def parseJson (args : List Value) : Act Value := do
  let t ← toText (arg args 0)
  match JsonText.read t with
  | .error e => raiseSyntax e.message (some e.line)
  | .ok tree =>
    let v ← buildJson tree
    let f := arg args 1
    if ← isCallable f then
      let root ← newObject Intrinsic.objectPrototype
      createProperty root "" v
      revise f 100000 root ""
    else return v

def quotedJson (t : Text) : Text :=
  Text.ofString "\"" ++ ⟨(go t.units.toList).toArray⟩ ++ Text.ofString "\""
where
  escape (n : Nat) : List UInt16 :=
    let digits := digitsIn 16 n
    let s := "\\u" ++ String.ofList (List.replicate (4 - digits.length) '0' ++ digits)
    (Text.ofString s).units.toList
  short (c : Char) : List UInt16 := [92, UInt16.ofNat c.toNat]
  go : List UInt16 → List UInt16
    | [] => []
    | [u] => one u
    | u :: v :: rest =>
      if Text.isHighSurrogate u && Text.isLowSurrogate v then u :: v :: go rest else one u ++ go (v :: rest)
  one (u : UInt16) : List UInt16 :=
    if u == 9 then short 't'
    else if u == 13 then short 'r'
    else if u == 10 then short 'n'
    else if u == 8 then short 'b'
    else if u == 12 then short 'f'
    else if u == 34 || u == 92 then [92, u]
    else if u.toNat < 32 || Text.isSurrogate u then escape u.toNat
    else [u]

structure JsonStyle where
  replacer : Value
  only : Option (List Key)
  gap : Text

/-- The value to write for a property: what its own method or the replacer gives, if it can be written. -/
def jsonValue (style : JsonStyle) (holder : Value) (k : Key) (v : Value) : Act Value := do
  let asked := match v with
    | .object _ | .bigint _ => true
    | _ => false
  let v ←
    if asked then do
      let f ← get v "toJSON"
      if ← isCallable f then call f v [k.toValue] else pure v
    else pure v
  let v ← if style.replacer.isUndefined then pure v else call style.replacer holder [k.toValue, v]
  match v with
  | .undefined | .symbol _ => return .undefined
  | .object _ => if ← isCallable v then return .undefined else return v
  | _ => return v

def lineBreak (style : JsonStyle) (indent : Text) : Text :=
  if style.gap.isEmpty then Text.empty else Text.ofString "\n" ++ indent

def writeJson (style : JsonStyle) : Nat → List ObjectId → Text → Value → Act Text
  | 0, _, _, _ => raise .internal "stack overflow"
  | fuel + 1, stack, indent, v => do
    match v with
    | .object o =>
      match (← object o).payload with
      | .primitive (.text _) => return quotedJson (← toText v)
      | .primitive (.number _) => return numberJson (← toDouble v)
      | .primitive (.bool b) => return Text.ofString (if b then "true" else "false")
      | .primitive (.bigint _) => raiseType "bigint are forbidden in JSON.stringify"
      | _ =>
        if stack.contains o then raiseType "circular reference"
        let inner := indent ++ style.gap
        let stack := o :: stack
        if ← isArray o then
          let n ← lengthOf o
          let parts ← (List.range n).mapM fun i => do
            let x ← jsonValue style v (.ofNat i) (← getFrom o (.ofNat i) v)
            writeJson style fuel stack inner (if x.isUndefined then .null else x)
          return wrap style indent inner "[" parts "]"
        else
          let keys ← match style.only with
            | some ks => pure ks
            | none => do
              let own ← ownKeys o
              (textKeys own).filterM fun k => do return ((← getOwn o k).map (·.enumerable)).getD false
          let parts ← keys.mapM fun k => do
            let x ← jsonValue style v k (← getFrom o k v)
            if x.isUndefined then return none
            let value ← writeJson style fuel stack inner x
            let name := match k with
              | .text t => quotedJson t
              | .symbol _ => Text.empty
            let separator := if style.gap.isEmpty then ":" else ": "
            return some (name ++ Text.ofString separator ++ value)
          return wrap style indent inner "\x7b" (parts.filterMap id) "\x7d"
    | .text t => return quotedJson t
    | .number d => return numberJson d
    | .bool b => return Text.ofString (if b then "true" else "false")
    | .bigint _ => raiseType "bigint are forbidden in JSON.stringify"
    | _ => return Text.ofString "null"
where
  numberJson (d : Double) : Text := if d.isFinite then numberText d else Text.ofString "null"
  wrap (style : JsonStyle) (indent inner : Text) (opening : String) (parts : List Text) (closing : String) : Text :=
    if parts.isEmpty then Text.ofString (opening ++ closing)
    else
      let separator := Text.ofString "," ++ lineBreak style inner
      Text.ofString opening ++ lineBreak style inner ++ Text.join separator parts ++ lineBreak style indent ++
        Text.ofString closing

def selectedKeys (o : ObjectId) : Act (List Key) := do
  let items ← itemsOf o
  let keys ← items.mapM fun v => do
    match v with
    | .text t => return some (Key.text t)
    | .number d => return some (Key.text (numberText d))
    | .object p =>
      match (← object p).payload with
      | .primitive (.text _) | .primitive (.number _) => return some (Key.text (← toText v))
      | _ => return none
    | _ => return none
  return (keys.filterMap id).eraseDups

def gapOf (v : Value) : Act Text := do
  let v ← match v with
    | .object o =>
      match (← object o).payload with
      | .primitive (.number _) => do pure (Value.number (← toDouble v))
      | .primitive (.text _) => do pure (Value.text (← toText v))
      | _ => pure v
    | _ => pure v
  match v with
  | .number d => return (Text.ofString " ").repeated (clampInt (integerOfDouble d) 0 10).toNat
  | .text t => return t.slice 0 10
  | _ => return Text.empty

def stringifyJson (args : List Value) : Act Value := do
  let replacer := arg args 1
  let isFunction ← isCallable replacer
  let only ← match replacer with
    | .object o => do
      if !isFunction && (← isArray o) then pure (some (← selectedKeys o)) else pure none
    | _ => pure none
  let gap ← gapOf (arg args 2)
  let style : JsonStyle := ⟨if isFunction then replacer else .undefined, only, gap⟩
  let holder ← newObject Intrinsic.objectPrototype
  putProperty holder "" (.plain (arg args 0))
  let v ← jsonValue style (.object holder) "" (arg args 0)
  if v.isUndefined then return .undefined
  newText (← writeJson style 10000 [] Text.empty v)

def jsonFn (f : JsonFn) (_this : Value) (args : List Value) (_newTarget : Value) : Act Value := do
  match f with
  | .parse => parseJson args
  | .stringify => stringifyJson args

end Act

end Embedding.Guest
