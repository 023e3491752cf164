import Embedding.Guest.Builtin.Object

namespace Embedding.Guest

def hexText (width n : Nat) : String :=
  let s := String.ofList ((digitsIn 16 n).map Char.toUpper)
  String.ofList (List.replicate (width - s.length) '0') ++ s

def isAsciiAlphanumeric (n : Nat) : Bool := isAsciiLetter n || isAsciiDigit n

def isOneOf (s : String) (n : Nat) : Bool := s.toList.any fun c => c.toNat == n

def isAddressMark (n : Nat) : Bool := isOneOf ";/?:@&=+$,#" n

def standsInAddress (component : Bool) (n : Nat) : Bool :=
  isAsciiAlphanumeric n || isOneOf "-_.!~*'()" n || (!component && isAddressMark n)

def hexPair? (t : Text) (i count : Nat) : Option Nat :=
  let digits := (t.slice i (i + count)).units.toList.map fun u =>
    if u.toNat < 128 then Syntax.digitValue? (Char.ofNat u.toNat) else none
  digits.foldl (fun acc d =>
    match acc, d with
    | some n, some d => if d < 16 then some (n * 16 + d) else none
    | _, _ => none) (if digits.length = count then some 0 else none)

def integerPart (t : Text) (radix : Int) : Double :=
  let units := t.trimStart.units.toList.map fun u =>
    if Text.isSurrogate u then Char.ofNat 0xFFFD else Char.ofNat u.toNat
  let (negative, rest) := match units with
    | '-' :: rest => (true, rest)
    | '+' :: rest => (false, rest)
    | rest => (false, rest)
  if radix != 0 && (radix < 2 || 36 < radix) then Double.nan
  else
    let (base, rest) := match rest with
      | '0' :: x :: more => if (x == 'x' || x == 'X') && (radix == 0 || radix == 16) then (16, more) else (0, rest)
      | _ => (0, rest)
    let base := if base = 0 then (if radix == 0 then 10 else radix.toNat) else base
    let digits := rest.takeWhile (Syntax.isDigitIn base)
    if digits.isEmpty then Double.nan
    else
      let d := Syntax.doubleOfDigits base digits
      if negative then d.neg else d

def numberPart (t : Text) : Double :=
  let s := t.trimStart.toStringLossy.toList.toArray
  let signed := s.getD 0 ' ' == '+' || s.getD 0 ' ' == '-'
  let negative := s.getD 0 ' ' == '-'
  let start := if signed then 1 else 0
  let d :=
    if Syntax.startsWith s start "Infinity" then Double.infinity
    else
      match Syntax.scanNumber { radix := 10, prefixes := false } s start with
      | some (v, _) =>
        match Value.ofLiteral v with
        | .number d => d
        | _ => Double.nan
      | none => Double.nan
  if negative then d.neg else d

namespace Act

def raiseAddress (message : String) : Act α := raise .uri message

def escapedByte (t : Text) (i : Nat) : Act Nat := do
  if t.unit? i != some 37 then raiseAddress "expecting %"
  match hexPair? t (i + 1) 2 with
  | some n => return n
  | none => raiseAddress "expecting hex digit"

def continuation (t : Text) : Nat → Nat → Nat → Act (Nat × Nat)
  | 0, i, c => return (i, c)
  | n + 1, i, c => do
    let b ← escapedByte t i
    if b / 64 != 2 then return (i + 3, 0)
    continuation t n (i + 3) (c * 64 + b % 64)

def decodeAddress (t : Text) (component : Bool) : Act Value := do
  let units ← repeating (fun (s : Nat × List UInt16) => do
    let (i, acc) := s
    match t.unit? i with
    | none => return .inr acc.reverse
    | some 37 =>
      let b ← escapedByte t i
      if b < 128 then
        if !component && isAddressMark b then return .inl (i + 1, 37 :: acc)
        else return .inl (i + 3, UInt16.ofNat b :: acc)
      else
        let (more, least, first) :=
          if 0xC0 ≤ b && b ≤ 0xDF then (1, 0x80, b % 32)
          else if 0xE0 ≤ b && b ≤ 0xEF then (2, 0x800, b % 16)
          else if 0xF0 ≤ b && b ≤ 0xF7 then (3, 0x10000, b % 8)
          else (0, 1, 0)
        let (i, c) ← continuation t more (i + 3) first
        if c < least || 0x10FFFF < c || (0xD800 ≤ c && c < 0xE000) then raiseAddress "malformed UTF-8"
        return .inl (i, (Text.unitsOfCodePoint c).reverse ++ acc)
    | some u => return .inl (i + 1, u :: acc)) (0, [])
  newText ⟨units.toArray⟩

def encodeAddress (t : Text) (component : Bool) : Act Value := do
  let parts ← t.codePoints.mapM fun n => do
    if standsInAddress component n then return String.singleton (Char.ofNat n)
    else if 0xDC00 ≤ n && n < 0xE000 then raiseAddress "invalid character"
    else if 0xD800 ≤ n && n < 0xDC00 then raiseAddress "expecting surrogate pair"
    else
      let bytes := (String.singleton (Char.ofNat n)).toUTF8.toList
      return String.join (bytes.map fun b => "%" ++ hexText 2 b.toNat)
  newText (Text.ofString (String.join parts))

def escapeText (t : Text) : Text :=
  Text.ofString (String.join (t.units.toList.map fun u =>
    let n := u.toNat
    if isAsciiAlphanumeric n || isOneOf "@*_+-./" n then String.singleton (Char.ofNat n)
    else if n < 256 then "%" ++ hexText 2 n
    else "%u" ++ hexText 4 n))

def unescapeText (t : Text) : Text := ⟨(go t.length 0).toArray⟩
where
  go : Nat → Nat → List UInt16
    | 0, _ => []
    | fuel + 1, i =>
      match t.unit? i with
      | none => []
      | some u =>
        if u == 37 then
          if t.unit? (i + 1) == some 117 then
            match hexPair? t (i + 2) 4 with
            | some n => UInt16.ofNat n :: go fuel (i + 6)
            | none => u :: go fuel (i + 1)
          else
            match hexPair? t (i + 1) 2 with
            | some n => UInt16.ofNat n :: go fuel (i + 3)
            | none => u :: go fuel (i + 1)
        else u :: go fuel (i + 1)

def globalFn (f : GlobalFn) (_this : Value) (args : List Value) (_newTarget : Value) : Act Value := do
  let a := arg args 0
  match f with
  | .parseInt =>
    let t ← toText a
    let radix ← toInteger (arg args 1)
    return .number (integerPart t (clampInt radix (-(2 ^ 31)) (2 ^ 31 - 1)))
  | .parseFloat => return .number (numberPart (← toText a))
  | .isNaN => return .bool (← toDouble a).isNaN
  | .isFinite => return .bool (← toDouble a).isFinite
  | .decodeUri => decodeAddress (← toText a) false
  | .decodeUriComponent => decodeAddress (← toText a) true
  | .encodeUri => encodeAddress (← toText a) false
  | .encodeUriComponent => encodeAddress (← toText a) true
  | .escape => newText (escapeText (← toText a))
  | .unescape => newText (unescapeText (← toText a))
  | .eval =>
    match a with
    | .text t => runProgram t none
    | _ => return a

end Act

end Embedding.Guest
