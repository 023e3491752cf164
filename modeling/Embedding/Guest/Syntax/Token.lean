import Embedding.Double.Decimal
import Embedding.Guest.Syntax.Tree
import Embedding.Text.Blank
import Embedding.Text.Letters

namespace Embedding.Guest.Syntax

inductive Token where
  | eof
  | number (v : Literal)
  | string (t : Text) (escaped : Bool)
  /-- The raw text of a part of a template, and whether it is the last one. -/
  | template (raw : List Char) (last : Bool)
  | regexp (source flags : String)
  | word (name : String) (escaped reserved : Bool)
  | keyword (name : String)
  | hidden (name : String)
  | mark (s : String)
deriving Inhabited

namespace Token

def isMark (t : Token) (s : String) : Bool :=
  match t with
  | mark m => m == s
  | _ => false

def isKeyword (t : Token) (s : String) : Bool :=
  match t with
  | keyword k => k == s
  | _ => false

/-- A word that is a keyword only in some places, written without escapes. -/
def isPlainWord (t : Token) (s : String) : Bool :=
  match t with
  | word w escaped _ => w == s && !escaped
  | _ => false

end Token

def keywords : List String :=
  ["null", "false", "true", "if", "else", "return", "var", "this", "delete", "void", "typeof", "new",
   "in", "instanceof", "do", "while", "for", "break", "continue", "switch", "case", "default",
   "throw", "try", "catch", "finally", "function", "debugger", "with", "class", "const", "enum",
   "export", "extends", "import", "super"]

def strictKeywords : List String :=
  ["implements", "interface", "let", "package", "private", "protected", "public", "static", "yield"]

abbrev Source := Array Char

def Source.at (s : Source) (i : Nat) : Char := s.getD i (Char.ofNat 0)

def isLineEnd (c : Char) : Bool :=
  c = '\n' || c = '\r' || c.toNat = 0x2028 || c.toNat = 0x2029

def digitValue? (c : Char) : Option Nat :=
  if '0' ≤ c && c ≤ '9' then some (c.toNat - '0'.toNat)
  else if 'a' ≤ c && c ≤ 'z' then some (c.toNat - 'a'.toNat + 10)
  else if 'A' ≤ c && c ≤ 'Z' then some (c.toNat - 'A'.toNat + 10)
  else none

def isDigitIn (radix : Nat) (c : Char) : Bool :=
  match digitValue? c with
  | some d => d < radix
  | none => false

def Source.skipWhile (s : Source) (p : Char → Bool) (i : Nat) : Nat := go (s.size - i) i
where
  go : Nat → Nat → Nat
    | 0, i => i
    | n + 1, i => if p (s.at i) then go n (i + 1) else i

def Source.extractString (s : Source) (start stop : Nat) : String :=
  String.ofList (s.extract start stop).toList

/-- The end of a run of digits; underscores between digits are passed over. -/
def skipDigits (s : Source) (radix : Nat) (underscore : Bool) (first i : Nat) : Nat :=
  go (s.size - i) i
where
  go : Nat → Nat → Nat
    | 0, i => i
    | n + 1, i =>
      let c := s.at i
      let between := underscore && c = '_' && isDigitIn radix (s.at (i + 1)) &&
        (radix != 10 || i != first + 1 || s.at first != '0')
      if isDigitIn radix c || between then go n (i + 1) else i

/-- The number that a double stands for, as a small integer where it is one. -/
def Literal.ofDouble (d : Double) : Literal :=
  match d.toInt? with
  | some n =>
    if -2147483648 ≤ n ∧ n ≤ 2147483647 ∧ !d.isNegativeZero then .int (Int32.ofInt n) else .float d
  | none => .float d

def doubleOfDigits (radix : Nat) (digits : List Char) : Double :=
  Double.ofInt (Double.digitsValue radix (digits.filterMap digitValue?))

structure NumberRules where
  radix : Nat := 0
  prefixes : Bool := true
  legacyOctal : Bool := false
  underscores : Bool := false
  suffix : Bool := false
  integersOnly : Bool := false

/-- Reads a number without a sign: its value and the position behind it. -/
def scanNumber (rules : NumberRules) (s : Source) (start : Nat) : Option (Literal × Nat) := do
  let c1 := s.at (start + 1)
  let zero := s.at start = '0'
  let legacy := zero && isDigitIn 10 c1 && rules.radix = 0 && rules.legacyOctal
  let (radix, from0, prefixed) :=
    if zero && (c1 = 'x' || c1 = 'X') && (rules.radix = 0 || rules.radix = 16) then
      (16, start + 2, true)
    else if zero && (c1 = 'o' || c1 = 'O') && rules.radix = 0 && rules.prefixes then
      (8, start + 2, true)
    else if zero && (c1 = 'b' || c1 = 'B') && rules.radix = 0 && rules.prefixes then
      (2, start + 2, true)
    else if legacy then
      let stop := s.skipWhile (isDigitIn 8) (start + 1)
      if s.at stop = '8' || s.at stop = '9' then (10, start, false) else (8, start + 1, true)
    else (if rules.radix = 0 then 10 else rules.radix, start, false)
  if prefixed && !isDigitIn radix (s.at from0) then none
  let underscores := rules.underscores && !legacy
  let wholeEnd := skipDigits s radix underscores from0 from0
  let pointed := !rules.integersOnly && s.at wholeEnd = '.' &&
    (from0 < wholeEnd || isDigitIn radix (s.at (wholeEnd + 1))) && radix = 10
  if pointed && underscores && s.at (wholeEnd + 1) = '_' then none
  let fractionEnd :=
    if pointed then skipDigits s radix underscores s.size (wholeEnd + 1) else wholeEnd
  let e := s.at fractionEnd
  let signed := s.at (fractionEnd + 1) = '+' || s.at (fractionEnd + 1) = '-'
  let exponentStart := if signed then fractionEnd + 2 else fractionEnd + 1
  let hasExponent := !rules.integersOnly && from0 < fractionEnd && radix = 10 && (e = 'e' || e = 'E') &&
    isDigitIn 10 (s.at exponentStart)
  let stop := if hasExponent then skipDigits s 10 underscores s.size exponentStart else fractionEnd
  if stop = from0 then none
  let digitsOf (a b : Nat) : List Char := (s.extract a b).toList.filter (· != '_')
  let whole := digitsOf from0 wholeEnd
  if rules.suffix && s.at stop = 'n' then
    if legacy || pointed || hasExponent then none
    else return (.bigint (Double.digitsValue radix (whole.filterMap digitValue?)), stop + 1)
  else if radix = 10 then
    let places := if pointed then digitsOf (wholeEnd + 1) fractionEnd else []
    let mantissa := Double.digitsValue 10 ((whole ++ places).filterMap digitValue?)
    let size := Double.digitsValue 10 ((digitsOf exponentStart stop).filterMap digitValue?)
    let power : Int :=
      if !hasExponent then 0
      else if s.at (fractionEnd + 1) = '-' then -(size : Int) else size
    let scale := power - places.length
    let value :=
      if mantissa = 0 then Double.zero
      else if scale < -(400 + (whole.length + places.length : Int)) then Double.zero
      else Double.ofDecimal false mantissa scale
    return (Literal.ofDouble value, stop)
  else return (Literal.ofDouble (doubleOfDigits radix whole), stop)

def scanHex (s : Source) (start count : Nat) : Option Nat :=
  (List.range count).foldlM (fun acc i => do
    let c := s.at (start + i)
    let d ← digitValue? c
    if d < 16 then some (acc * 16 + d) else none) 0

/-- What a backslash and the characters behind it stand for. -/
inductive Escape where
  | codePoint (n next : Nat)
  | plain
  | malformed

def scanEscape (s : Source) (i : Nat) : Escape :=
  let c := s.at i
  if c = 'b' then .codePoint 8 (i + 1)
  else if c = 'f' then .codePoint 12 (i + 1)
  else if c = 'n' then .codePoint 10 (i + 1)
  else if c = 'r' then .codePoint 13 (i + 1)
  else if c = 't' then .codePoint 9 (i + 1)
  else if c = 'v' then .codePoint 11 (i + 1)
  else if c = 'x' then
    match scanHex s (i + 1) 2 with
    | some n => .codePoint n (i + 3)
    | none => .malformed
  else if c = 'u' then
    if s.at (i + 1) = '\x7b' then
      let stop := s.skipWhile (isDigitIn 16) (i + 2)
      let n := Double.digitsValue 16 ((s.extract (i + 2) stop).toList.filterMap digitValue?)
      if stop = i + 2 || s.at stop != '\x7d' || 0x10FFFF < n then .malformed
      else .codePoint n (stop + 1)
    else
      match scanHex s (i + 1) 4 with
      | none => .malformed
      | some high =>
        if 0xD800 ≤ high && high < 0xDC00 && s.at (i + 5) = '\\' && s.at (i + 6) = 'u' then
          match scanHex s (i + 7) 4 with
          | some low =>
            if 0xDC00 ≤ low && low < 0xE000 then
              .codePoint (0x10000 + (high - 0xD800) * 0x400 + (low - 0xDC00)) (i + 11)
            else .codePoint high (i + 5)
          | none => .codePoint high (i + 5)
        else .codePoint high (i + 5)
  else if isDigitIn 8 c then
    let d0 := c.toNat - '0'.toNat
    let c1 := s.at (i + 1)
    if !isDigitIn 8 c1 then .codePoint d0 (i + 1)
    else
      let two := d0 * 8 + (c1.toNat - '0'.toNat)
      let c2 := s.at (i + 2)
      if d0 < 4 && isDigitIn 8 c2 then .codePoint (two * 8 + (c2.toNat - '0'.toNat)) (i + 3)
      else .codePoint two (i + 2)
  else .plain

inductive StringScan where
  | ended (t : Text) (next lines : Nat)
  | unterminated
  | malformed
  | octal

/-- Reads a string up to the quote `sep`. The fuel is the length of the source. -/
def scanString (s : Source) (strict : Bool) (sep : Char) :
    Nat → Nat → Nat → Array UInt16 → StringScan
  | 0, _, _, _ => .unterminated
  | fuel + 1, i, lines, acc =>
    let put (n next : Nat) := scanString s strict sep fuel next lines (acc ++ Text.unitsOfCodePoint n)
    if s.size ≤ i then (if sep = '`' then .ended ⟨acc⟩ i lines else .unterminated)
    else
      let c := s.at i
      if c = sep && sep != '`' then .ended ⟨acc⟩ (i + 1) lines
      else if (c = '\n' || c = '\r') && sep != '`' then .unterminated
      else if c = '\\' then
        let e := s.at (i + 1)
        if s.size ≤ i + 1 then .unterminated
        else if e = '\r' then
          scanString s strict sep fuel (if s.at (i + 2) = '\n' then i + 3 else i + 2) (lines + 1) acc
        else if e = '\n' then scanString s strict sep fuel (i + 2) (lines + 1) acc
        else if e.toNat = 0x2028 || e.toNat = 0x2029 then scanString s strict sep fuel (i + 2) lines acc
        else if isDigitIn 10 e && (strict || sep = '`') then
          if e = '0' && !isDigitIn 10 (s.at (i + 2)) then put 0 (i + 2)
          else if '8' ≤ e || sep = '`' then .malformed
          else .octal
        else if 128 ≤ e.toNat then put e.toNat (i + 2)
        else
          match scanEscape s (i + 1) with
          | .codePoint n next => put n next
          | .plain => put e.toNat (i + 2)
          | .malformed => .malformed
      else put c.toNat (i + 1)

def scanName (s : Source) : Nat → Nat → List Char → Bool → String × Nat × Bool
  | 0, i, acc, escaped => (String.ofList acc.reverse, i, escaped)
  | fuel + 1, i, acc, escaped =>
    let c := s.at i
    if c = '\\' && s.at (i + 1) = 'u' then
      match scanEscape s (i + 1) with
      | .codePoint n next =>
        if isNamePart n then scanName s fuel next (Char.ofNat n :: acc) true
        else (String.ofList acc.reverse, i, escaped)
      | _ => (String.ofList acc.reverse, i, escaped)
    else if isNamePart c.toNat && i < s.size then scanName s fuel (i + 1) (c :: acc) escaped
    else (String.ofList acc.reverse, i, escaped)

def longMarks : List String :=
  [">>>=", "...", "===", "!==", "**=", "<<=", ">>=", ">>>", "&&=", "||=", "??=",
   "=>", "==", "!=", "<=", ">=", "&&", "||", "??", "?.", "++", "--", "+=", "-=", "*=", "/=", "%=",
   "&=", "|=", "^=", "<<", ">>", "**"]

def startsWith (s : Source) (i : Nat) (m : String) : Bool :=
  let cs := m.toList
  i + cs.length ≤ s.size && (s.extract i (i + cs.length)).toList == cs

/-- The mark at `i`. An optional-chain mark does not stand before a digit. -/
def scanMark (s : Source) (i : Nat) : String :=
  match longMarks.find? fun m => startsWith s i m with
  | some m => if m == "?." && isDigitIn 10 (s.at (i + 2)) then "?" else m
  | none => String.singleton (s.at i)

inductive Glance where
  | arrow
  | lineEnd
  | importWord
  | exportWord
  | functionWord
  | inWord
  | ofWord
  | word
  | other (code : Nat)
deriving DecidableEq

def matchesAscii (at_ : Nat → Nat) (i : Nat) (s : String) : Bool :=
  (s.toList.zipIdx).all fun (c, k) => at_ (i + k) == c.toNat

/-- Looks past blanks and comments at the next token. `at_` gives the codes of a text that ends
with zeros; the fuel is its length. Answers with the position behind an import or export word. -/
def glance (at_ : Nat → Nat) (stopAtLineEnd : Bool) : Nat → Nat → Glance × Nat
  | 0, i => (.other 0, i)
  | fuel + 1, i =>
    let c := at_ i
    let lineEnd := c == 10 || c == 13
    if lineEnd then
      if stopAtLineEnd then (.lineEnd, i) else glance at_ stopAtLineEnd fuel (i + 1)
    else if c == 32 || c == 9 || c == 11 || c == 12 then glance at_ stopAtLineEnd fuel (i + 1)
    else if c == 47 && at_ (i + 1) == 47 then
      if stopAtLineEnd then (.lineEnd, i) else glance at_ stopAtLineEnd fuel (lineComment fuel (i + 1))
    else if c == 47 && at_ (i + 1) == 42 then
      match blockComment fuel (i + 2) with
      | some next => glance at_ stopAtLineEnd fuel next
      | none => (.lineEnd, i)
    else if c == 61 && at_ (i + 1) == 62 then (.arrow, i)
    else if isNameStart c then
      let ends (n : Nat) : Bool := !isNamePart (at_ (i + n))
      if matchesAscii at_ i "in" && ends 2 then (.inWord, i)
      else if matchesAscii at_ i "import" && ends 6 then (.importWord, i + 6)
      else if matchesAscii at_ i "of" && ends 2 then (.ofWord, i)
      else if matchesAscii at_ i "export" && ends 6 then (.exportWord, i + 6)
      else if matchesAscii at_ i "function" && ends 8 then (.functionWord, i)
      else (.word, i)
    else (.other c, i)
where
  lineComment : Nat → Nat → Nat
    | 0, i => i
    | fuel + 1, i =>
      if at_ i == 0 || at_ i == 10 || at_ i == 13 then i else lineComment fuel (i + 1)
  /-- The position behind a comment; `none` at a line end that counts. -/
  blockComment : Nat → Nat → Option Nat
    | 0, i => some i
    | fuel + 1, i =>
      let c := at_ i
      if c == 0 then some i
      else if (c == 10 || c == 13) && stopAtLineEnd then none
      else if c == 42 && at_ (i + 1) == 47 then some (i + 2)
      else blockComment fuel (i + 1)

end Embedding.Guest.Syntax
