import Embedding.Json.Value
import Embedding.Text.Blank

namespace Embedding.Json

inductive Found where
  | null
  | bool (b : Bool)
  | int (n : Int)
  | float (d : Double)
  | string (s : String)
  | sequence
  | map

inductive Fault where
  | endInList
  | endInObject
  | endInString
  | endInValue
  | expectedColon
  | expectedCommaOrBracket
  | expectedCommaOrBrace
  | expectedWord
  | expectedValue
  | invalidEscape
  | invalidNumber
  | numberOutOfRange
  | controlCharacter
  | keyNotString
  | loneSurrogate
  | trailingComma
  | trailingCharacters
  | shortHexEscape
  | wrongType (found : Found) (expected : String)
  | wrongValue (found : Found) (expected : String)
  | unknownVariant (name : String) (known : String)
  | duplicateField (name : String)

inductive FaultClass where
  | ended
  | malformed
  | unfit

def debugQuoted (s : String) : String :=
  let show1 (c : Char) : List Char :=
    if c = '"' then ['\\', '"']
    else if c = '\\' then ['\\', '\\']
    else if c = '\n' then ['\\', 'n']
    else if c = '\r' then ['\\', 'r']
    else if c = '\t' then ['\\', 't']
    else if c.toNat = 0 then ['\\', '0']
    else if c.toNat < 32 || c.toNat = 127 || (127 < c.toNat && c.toNat < 160) || c.toNat = 0xAD ||
        (0x200B ≤ c.toNat && c.toNat ≤ 0x200F) || (0x2028 ≤ c.toNat && c.toNat ≤ 0x202E) ||
        (0x2060 ≤ c.toNat && c.toNat ≤ 0x206F) || c.toNat = 0xFEFF || isUnicodeBlank c.toNat && c != ' ' ||
        (0xE000 ≤ c.toNat && c.toNat ≤ 0xF8FF) || 0xF0000 ≤ c.toNat then
      ['\\', 'u', '\x7b'] ++ Nat.toDigits 16 c.toNat ++ ['\x7d']
    else [c]
  String.ofList ('"' :: s.toList.flatMap show1 ++ ['"'])

def Found.text : Found → String
  | .null => "null"
  | .bool b => "boolean `" ++ toString b ++ "`"
  | .int n => "integer `" ++ toString n ++ "`"
  | .float d => "floating point `" ++ d.format .json ++ "`"
  | .string s => "string " ++ debugQuoted s
  | .sequence => "sequence"
  | .map => "map"

namespace Fault

def text : Fault → String
  | endInList => "EOF while parsing a list"
  | endInObject => "EOF while parsing an object"
  | endInString => "EOF while parsing a string"
  | endInValue => "EOF while parsing a value"
  | expectedColon => "expected `:`"
  | expectedCommaOrBracket => "expected `,` or `]`"
  | expectedCommaOrBrace => "expected `,` or `\x7d`"
  | expectedWord => "expected ident"
  | expectedValue => "expected value"
  | invalidEscape => "invalid escape"
  | invalidNumber => "invalid number"
  | numberOutOfRange => "number out of range"
  | controlCharacter => "control character (\\u0000-\\u001F) found while parsing a string"
  | keyNotString => "key must be a string"
  | loneSurrogate => "lone leading surrogate in hex escape"
  | trailingComma => "trailing comma"
  | trailingCharacters => "trailing characters"
  | shortHexEscape => "unexpected end of hex escape"
  | wrongType found expected => "invalid type: " ++ found.text ++ ", expected " ++ expected
  | wrongValue found expected => "invalid value: " ++ found.text ++ ", expected " ++ expected
  | unknownVariant name known => "unknown variant `" ++ name ++ "`, expected " ++ known
  | duplicateField name => "duplicate field `" ++ name ++ "`"

def faultClass : Fault → FaultClass
  | endInList | endInObject | endInString | endInValue => .ended
  | wrongType .. | wrongValue .. | unknownVariant .. | duplicateField _ => .unfit
  | _ => .malformed

end Fault

/-- A line and a byte column, the column counted from the last line feed. -/
structure Place where
  line : Nat
  column : Nat
deriving DecidableEq, Inhabited

/-- The text read so far, backwards, and the text still to read. -/
structure Cursor where
  done : List Char
  rest : List Char

namespace Cursor

def ofString (s : String) : Cursor := ⟨[], s.toList⟩

variable (c : Cursor)

def place : Place :=
  let column := (c.done.takeWhile (· != '\n')).foldl (fun n ch => n + ch.utf8Size) 0
  ⟨1 + c.done.count '\n', column⟩

def nextPlace : Place :=
  match c.rest with
  | [] => c.place
  | ch :: _ => if ch = '\n' then ⟨c.place.line + 1, 0⟩ else ⟨c.place.line, c.place.column + 1⟩

def advance : Cursor :=
  match c.rest with
  | [] => c
  | ch :: rest => ⟨ch :: c.done, rest⟩

def skipBlanks : Cursor := go c.done c.rest
where
  go (done : List Char) : List Char → Cursor
    | [] => ⟨done, []⟩
    | ch :: rest => if isJsonBlank ch.toNat then go (ch :: done) rest else ⟨done, ch :: rest⟩

end Cursor

/-- A fault and its place; a fault that a reader of values finds gets its place later. -/
structure Failure where
  fault : Fault
  place : Option Place

def Failure.text (f : Failure) : String :=
  match f.place with
  | some p => f.fault.text ++ " at line " ++ toString p.line ++ " column " ++ toString p.column
  | none => f.fault.text

abbrev Reader := ExceptT Failure (StateM Cursor)

namespace Reader

def failHere (fault : Fault) : Reader α := do
  let c ← get
  throw ⟨fault, some c.place⟩

def failNext (fault : Fault) : Reader α := do
  let c ← get
  throw ⟨fault, some c.nextPlace⟩

def failLater (fault : Fault) : Reader α := throw ⟨fault, none⟩

def placed (x : Reader α) : Reader α :=
  tryCatch x fun failure => match failure.place with
    | some _ => throw failure
    | none => failHere failure.fault

def peek? : Reader (Option Char) := do return (← get).rest.head?

def peek : Reader Char := do return (← get).rest.head?.getD (Char.ofNat 0)

def advance : Reader Unit := modify Cursor.advance

def peekToken? : Reader (Option Char) := do
  modify Cursor.skipBlanks
  peek?

def next? : Reader (Option Char) := do
  let c ← peek?
  advance
  return c

def word : List Char → Reader Unit
  | [] => pure ()
  | c :: rest => do
    match ← next? with
    | none => failHere .endInValue
    | some d => if c = d then word rest else failHere .expectedWord

def isDigit (c : Char) : Bool := '0' ≤ c && c ≤ '9'

def digitValue (c : Char) : Nat := c.toNat - '0'.toNat

def digits : Reader (List Char) := do
  let c ← get
  let taken := c.rest.takeWhile isDigit
  set (Cursor.mk (taken.reverse ++ c.done) (c.rest.dropWhile isDigit))
  return taken

def hexValue? (c : Char) : Option Nat :=
  if isDigit c then some (digitValue c)
  else if 'a' ≤ c && c ≤ 'f' then some (c.toNat - 'a'.toNat + 10)
  else if 'A' ≤ c && c ≤ 'F' then some (c.toNat - 'A'.toNat + 10)
  else none

def utf8Length (cs : List Char) : Nat := cs.foldl (fun n c => n + c.utf8Size) 0

def hexEscape : Reader Nat := do
  let c ← get
  match c.rest with
  | a :: b :: x :: y :: rest =>
    match hexValue? a, hexValue? b, hexValue? x, hexValue? y with
    | some a', some b', some x', some y' =>
      set (Cursor.mk (y :: x :: b :: a :: c.done) rest)
      return ((a' * 16 + b') * 16 + x') * 16 + y'
    | _, _, _, _ =>
      throw ⟨.invalidEscape, some ⟨c.place.line, c.place.column + 4⟩⟩
  | short =>
    if 4 ≤ utf8Length short then
      throw ⟨.invalidEscape, some ⟨c.place.line, c.place.column + 4⟩⟩
    else
      set (Cursor.mk (short.reverse ++ c.done) [])
      failHere .endInString

def unicodeEscape : Reader Char := do
  let n ← hexEscape
  if 0xDC00 ≤ n && n ≤ 0xDFFF then failHere .loneSurrogate
  else if n < 0xD800 || 0xDBFF < n then return Char.ofNat n
  else
    match ← next? with
    | none => failHere .endInString
    | some '\\' =>
      match ← next? with
      | none => failHere .endInString
      | some 'u' =>
        let low ← hexEscape
        if low < 0xDC00 || 0xDFFF < low then failHere .loneSurrogate
        else return Char.ofNat ((n - 0xD800) * 0x400 + (low - 0xDC00) + 0x10000)
      | some _ => failHere .shortHexEscape
    | some _ => failHere .shortHexEscape

/-- What a backslash and the character behind it stand for, the letter `u` apart. -/
def simpleEscape? (c : Char) : Option Char :=
  if c = '"' || c = '\\' || c = '/' then some c
  else if c = 'b' then some (Char.ofNat 8)
  else if c = 'f' then some (Char.ofNat 12)
  else if c = 'n' then some '\n'
  else if c = 'r' then some '\r'
  else if c = 't' then some '\t'
  else none

/-- The characters of a string up to its closing quote. The fuel is the length of the text. -/
def stringChars : Nat → List Char → Reader (List Char)
  | 0, _ => failHere .endInString
  | n + 1, done => do
    match ← peek? with
    | none => failHere .endInString
    | some '"' => advance; return done.reverse
    | some '\\' =>
      advance
      match ← next? with
      | none => failHere .endInString
      | some 'u' => stringChars n ((← unicodeEscape) :: done)
      | some c =>
        match simpleEscape? c with
        | some d => stringChars n (d :: done)
        | none => failHere .invalidEscape
    | some c =>
      advance
      if c.toNat < 32 then failHere .controlCharacter else stringChars n (c :: done)

def stringBody : Reader String := do
  let c ← get
  return String.ofList (← stringChars (c.rest.length + 1) [])

def skipStringChars : Nat → Reader Unit
  | 0 => failHere .endInString
  | n + 1 => do
    match ← peek? with
    | none => failHere .endInString
    | some '"' => advance
    | some '\\' =>
      advance
      match ← next? with
      | none => failHere .endInString
      | some 'u' => discard hexEscape; skipStringChars n
      | some c => if (simpleEscape? c).isSome then skipStringChars n else failHere .invalidEscape
    | some c => if c.toNat < 32 then failHere .controlCharacter else advance; skipStringChars n

def skipString : Reader Unit := do
  let c ← get
  skipStringChars (c.rest.length + 1)

inductive Number where
  | natural (n : Nat)
  | negative (n : Int)
  | float (d : Double)

def Number.found : Number → Found
  | .natural n => .int n
  | .negative n => .int n
  | .float d => .float d

def maxUnsigned : Nat := 2 ^ 64 - 1

/-- `significand * 10 ^ exponent` by steps of powers of ten that are numbers themselves. -/
def scaled (positive : Bool) (significand : Nat) (exponent : Int) : Reader Double := do
  let signed (d : Double) : Double := if positive then d else d.neg
  let f := Double.ofInt significand
  if exponent ≥ 0 then
    if 308 < exponent then
      if f.isZero then return signed f else failHere .numberOutOfRange
    else
      let product := f.mul (Double.ofDecimal false 1 exponent)
      if product.isInfinite then failHere .numberOutOfRange else return signed product
  else
    let rec down : Nat → Double → Nat → Double
      | 0, d, _ => d
      | n + 1, d, e =>
        if e ≤ 308 then d.div (Double.ofDecimal false 1 e)
        else if d.isZero then d
        else down n (d.div (Double.ofDecimal false 1 308)) (e - 308)
    return signed (down 8 f exponent.natAbs)

def exponentPart (positive : Bool) (significand : Nat) (start : Int) : Reader Double := do
  advance
  let sign ← peek
  let upward := sign != '-'
  if sign = '+' || sign = '-' then advance
  match ← next? with
  | none => failHere .endInValue
  | some c =>
    if isDigit c then
      let more ← digits
      let e := Double.digitsValue 10 ((c :: more).map digitValue)
      if e < 2 ^ 31 then scaled positive significand (if upward then start + e else start - e)
      else if significand != 0 && upward then failHere .numberOutOfRange
      else return Double.withSign (!positive) 0
    else failHere .invalidNumber

/-- Takes digits into the significand while it stays below `2 ^ 64`; counts those taken. -/
def absorb (significand : Nat) : List Char → Nat × Nat
  | [] => (significand, 0)
  | c :: rest =>
    let more := significand * 10 + digitValue c
    if maxUnsigned < more then (significand, 0)
    else
      let (s, n) := absorb more rest
      (s, n + 1)

def fractionPart (positive : Bool) (significand : Nat) (before : Int) : Reader Double := do
  advance
  let places ← digits
  if places.isEmpty then
    match ← peek? with
    | none => failNext .endInValue
    | some _ => failNext .invalidNumber
  else
    let (s, taken) := absorb significand places
    let e := before - taken
    let c ← peek
    if c = 'e' || c = 'E' then exponentPart positive s e else scaled positive s e

def number (positive : Bool) : Reader Number := do
  match ← next? with
  | none => failHere .endInValue
  | some c =>
    if c = '0' then
      if isDigit (← peek) then failNext .invalidNumber else finish 0 0
    else if isDigit c then
      let all := c :: (← digits)
      let (significand, taken) := absorb 0 all
      finish significand (all.length - taken)
    else failHere .invalidNumber
where
  finish (significand dropped : Nat) : Reader Number := do
    let c ← peek
    if c = '.' then return .float (← fractionPart positive significand dropped)
    else if c = 'e' || c = 'E' then return .float (← exponentPart positive significand dropped)
    else if 0 < dropped then return .float (← scaled positive significand dropped)
    else if positive then return .natural significand
    else if significand = 0 || 2 ^ 63 < significand then
      return .float (Double.ofInt significand).neg
    else return .negative (-significand)

def skipNumber : Reader Unit := do
  match ← next? with
  | none => failHere .invalidNumber
  | some c =>
    if c = '0' then
      if isDigit (← peek) then failNext .invalidNumber
    else if isDigit c then discard digits
    else failHere .invalidNumber
  if (← peek) = '.' then
    advance
    if (← digits).isEmpty then failNext .invalidNumber
  let c ← peek
  if c = 'e' || c = 'E' then
    advance
    let sign ← peek
    if sign = '+' || sign = '-' then advance
    match ← next? with
    | some d => if isDigit d then discard digits else failHere .invalidNumber
    | none => failHere .invalidNumber

def colon : Reader Unit := do
  match ← peekToken? with
  | some ':' => advance
  | some _ => failNext .expectedColon
  | none => failNext .endInObject

mutual

def skipValue : Nat → Reader Unit
  | 0 => failNext .endInValue
  | n + 1 => do
    match ← peekToken? with
    | none => failNext .endInValue
    | some c =>
      if c = 'n' then advance; word ['u', 'l', 'l']
      else if c = 't' then advance; word ['r', 'u', 'e']
      else if c = 'f' then advance; word ['a', 'l', 's', 'e']
      else if c = '-' then advance; skipNumber
      else if isDigit c then skipNumber
      else if c = '"' then advance; skipString
      else if c = '[' then
        advance
        match ← peekToken? with
        | none => failNext .endInList
        | some ']' => advance
        | some _ => skipItems n
      else if c = '\x7b' then
        advance
        match ← peekToken? with
        | none => failNext .endInObject
        | some '\x7d' => advance
        | some _ => skipMembers n
      else failNext .expectedValue

def skipItems : Nat → Reader Unit
  | 0 => failNext .endInList
  | n + 1 => do
    skipValue n
    match ← peekToken? with
    | none => failNext .endInList
    | some ',' => advance; skipItems n
    | some ']' => advance
    | some _ => failNext .expectedCommaOrBracket

def skipMembers : Nat → Reader Unit
  | 0 => failNext .endInObject
  | n + 1 => do
    match ← peekToken? with
    | none => failNext .endInObject
    | some '"' =>
      advance
      skipString
      colon
      skipValue n
      match ← peekToken? with
      | none => failNext .endInObject
      | some ',' => advance; skipMembers n
      | some '\x7d' => advance
      | some _ => failNext .expectedCommaOrBrace
    | some _ => failNext .keyNotString

end

def skipAny : Reader Unit := do
  let c ← get
  skipValue (c.rest.length + 1)

/-- Refuses the value at the cursor, which is not what `expected` names. -/
def refuse (expected : String) : Reader α := do
  match ← peek? with
  | some c =>
    if c = 'n' then advance; word ['u', 'l', 'l']; failHere (.wrongType .null expected)
    else if c = 't' then advance; word ['r', 'u', 'e']; failHere (.wrongType (.bool true) expected)
    else if c = 'f' then
      advance; word ['a', 'l', 's', 'e']; failHere (.wrongType (.bool false) expected)
    else if c = '-' then advance; failHere (.wrongType (← number false).found expected)
    else if isDigit c then failHere (.wrongType (← number true).found expected)
    else if c = '"' then advance; failHere (.wrongType (.string (← stringBody)) expected)
    else if c = '[' then failHere (.wrongType .sequence expected)
    else if c = '\x7b' then failHere (.wrongType .map expected)
    else failNext .expectedValue
  | none => failNext .expectedValue

def size : Reader Nat := placed do
  let expected := "usize"
  match ← peekToken? with
  | none => failNext .endInValue
  | some c =>
    let found ←
      if c = '-' then do advance; number false
      else if isDigit c then number true
      else refuse expected
    match found with
    | .natural n => return n
    | .negative n => failLater (.wrongValue (.int n) expected)
    | .float d => failLater (.wrongType (.float d) expected)

def optional (x : Reader α) : Reader (Option α) := do
  match ← peekToken? with
  | some 'n' => advance; word ['u', 'l', 'l']; return none
  | _ => return some (← x)

def variantName (variants : List (String × α)) (known : String) : Reader α := placed do
  match ← peekToken? with
  | none => failNext .endInValue
  | some '"' =>
    advance
    let name ← stringBody
    match variants.lookup name with
    | some v => return v
    | none => failLater (.unknownVariant name known)
  | some _ => refuse "variant identifier"

def variant (variants : List (String × α)) (known : String) : Reader α := do
  match ← peekToken? with
  | none => failNext .endInValue
  | some '"' => variantName variants known
  | some '\x7b' =>
    advance
    let v ← variantName variants known
    colon
    placed do
      match ← peekToken? with
      | none => failNext .endInValue
      | some 'n' => advance; word ['u', 'l', 'l']
      | some _ => refuse "unit"
    match ← peekToken? with
    | some '\x7d' => advance; return v
    | some _ => failHere .expectedValue
    | none => failHere .endInObject
  | some _ => failNext .expectedValue

def closeSequence : Reader Unit := do
  match ← peekToken? with
  | some ']' => advance
  | some ',' =>
    advance
    match ← peekToken? with
    | some ']' => failNext .trailingComma
    | _ => failNext .trailingCharacters
  | some _ => failNext .trailingCharacters
  | none => failNext .endInList

def closeObject : Reader Unit := do
  match ← peekToken? with
  | some '\x7d' => advance
  | some ',' => failNext .trailingComma
  | some _ => failNext .trailingCharacters
  | none => failNext .endInObject

/-- Whether another member follows; the cursor is then at the quote of its name. -/
def anotherMember (first : Bool) : Reader Bool := do
  match ← peekToken? with
  | some '\x7d' => return false
  | some c =>
    if first then
      if c = '"' then return true else failNext .keyNotString
    else if c = ',' then
      advance
      match ← peekToken? with
      | some '"' => return true
      | some '\x7d' => failNext .trailingComma
      | some _ => failNext .keyNotString
      | none => failNext .endInValue
    else failNext .expectedCommaOrBrace
  | none => failNext .endInObject

def anotherItem (first : Bool) : Reader Bool := do
  match ← peekToken? with
  | some ']' => return false
  | some c =>
    if first then return true
    else if c = ',' then
      advance
      match ← peekToken? with
      | some ']' => failNext .trailingComma
      | some _ => return true
      | none => failNext .endInValue
    else failNext .expectedCommaOrBracket
  | none => failNext .endInList

/-- Reads `body`, then the closing bracket; the first failure of the two counts. -/
def enclosed (body : Reader α) (close : Reader Unit) : Reader α := do
  let result ← tryCatch (Except.ok <$> body) (pure ∘ Except.error)
  match result with
  | .ok a => close; return a
  | .error failure =>
    tryCatch close fun _ => pure ()
    throw failure

def run (x : Reader α) (s : String) : Except Failure α :=
  let whole : Reader α := do
    let a ← x
    match ← peekToken? with
    | none => return a
    | some _ => failNext .trailingCharacters
  (ExceptT.run whole (Cursor.ofString s)).1

end Reader

end Embedding.Json
