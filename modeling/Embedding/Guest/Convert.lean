import Embedding.Guest.Failure
import Embedding.Guest.Syntax.Token

namespace Embedding.Guest

inductive Hint
  | default
  | number
  | string
deriving DecidableEq

def Hint.name : Hint → String
  | default => "default"
  | number => "number"
  | string => "string"

/-- The number that text stands for as a whole; blanks around it do not count. -/
def doubleOfText (t : Text) : Double :=
  let s := t.trim.toStringLossy.toList.toArray
  if s.isEmpty then Double.zero
  else
    let signed := s.getD 0 ' ' == '+' || s.getD 0 ' ' == '-'
    let negative := s.getD 0 ' ' == '-'
    let start := if signed then 1 else 0
    let body := s.extract start s.size
    if body.toList == "Infinity".toList then
      (if negative then Double.negativeInfinity else Double.infinity)
    else
      let rules : Syntax.NumberRules := { prefixes := !signed, radix := if signed then 10 else 0 }
      match Syntax.scanNumber rules s start with
      | some (v, stop) =>
        if stop == s.size then
          let d := match Value.ofLiteral v with
            | .number d => d
            | _ => Double.nan
          if negative then d.neg else d
        else Double.nan
      | none => Double.nan

def digitsIn (radix n : Nat) : List Char := go (n + 1) n []
where
  digit (d : Nat) : Char := Char.ofNat (if d < 10 then 48 + d else 87 + d)
  go : Nat → Nat → List Char → List Char
    | 0, _, acc => acc
    | fuel + 1, n, acc =>
      let acc := digit (n % radix) :: acc
      if n < radix then acc else go fuel (n / radix) acc

def intText (radix : Nat) (n : Int) : Text :=
  let digits := if radix = 10 then toString n.natAbs else String.ofList (digitsIn radix n.natAbs)
  Text.ofString ((if n < 0 then "-" else "") ++ digits)

/-- The digits behind the point of a fraction below one, as far as they are needed. -/
def fractionDigits (radix : Nat) : Nat → Nat → Nat → List Char
  | 0, _, _ => []
  | fuel + 1, num, den =>
    if num = 0 then []
    else digitsIn.digit (num * radix / den) :: fractionDigits radix fuel (num * radix % den) den

def numberTextIn (radix : Nat) (d : Double) : Text :=
  if radix = 10 || !d.isFinite then Text.ofString (d.format .guest)
  else
    match d.toInt? with
    | some n => intText radix n
    | none =>
      let (num, den) := d.ratio
      let whole := (intText radix (num / den)).toStringLossy
      let places := fractionDigits radix 52 (num % den) den
      Text.ofString ((if d.isNegative then "-" else "") ++ whole ++ "." ++ String.ofList places)

def numberText (d : Double) : Text := Text.ofString (d.format .guest)

def bigIntOfText? (t : Text) : Option Int :=
  let s := t.trim.toStringLossy.toList
  let whole (radix : Nat) (digits : List Char) : Option Int :=
    let values := digits.map fun c => (Syntax.digitValue? c).getD 99
    if digits.isEmpty || values.any (radix ≤ ·) then none else some (Double.digitsValue radix values)
  match s with
  | [] => some 0
  | '0' :: 'x' :: rest => whole 16 rest
  | '0' :: 'X' :: rest => whole 16 rest
  | '0' :: 'o' :: rest => whole 8 rest
  | '0' :: 'O' :: rest => whole 8 rest
  | '0' :: 'b' :: rest => whole 2 rest
  | '0' :: 'B' :: rest => whole 2 rest
  | '-' :: rest => (whole 10 rest).map (-·)
  | '+' :: rest => whole 10 rest
  | rest => whole 10 rest

namespace Act

variable (v : Value)

def isCallable : Act Bool := do
  match v with
  | .object o => return (← object o).isCallable
  | _ => return false

def isConstructor : Act Bool := do
  match v with
  | .object o => return (← object o).isConstructor
  | _ => return false

def protoOf : Value → ObjectId
  | .bool _ => Intrinsic.booleanPrototype
  | .number _ => Intrinsic.numberPrototype
  | .bigint _ => Intrinsic.bigintPrototype
  | .text _ => Intrinsic.stringPrototype
  | .symbol _ => Intrinsic.symbolPrototype
  | _ => Intrinsic.objectPrototype

def get (v : Value) (k : Key) : Act Value := do
  match v with
  | .object o => getFrom o k v
  | .undefined => raiseType ("cannot read property '" ++ k.shown ++ "' of undefined")
  | .null => raiseType ("cannot read property '" ++ k.shown ++ "' of null")
  | .text t =>
    if k == "length" then return .ofNat t.length
    else
      match k.index? with
      | some i =>
        match t.unit? i with
        | some u => return .text ⟨#[u]⟩
        | none => getFrom Intrinsic.stringPrototype k v
      | none => getFrom Intrinsic.stringPrototype k v
  | _ => getFrom (protoOf v) k v

def invoke (v : Value) (k : Key) (args : List Value) : Act Value := do
  let f ← get v k
  call f v args

/-- The primitive value that the methods of an object give, in the order that the hint asks for. -/
def ordinaryPrimitive (hint : Hint) : Act Value :=
  try_ (if hint == .string then ["toString", "valueOf"] else ["valueOf", "toString"])
where
  try_ : List String → Act Value
    | [] => raiseType "toPrimitive"
    | name :: rest => do
      let f ← get v name
      if ← isCallable f then
        let r ← call f v []
        if r.isObject then try_ rest else return r
      else try_ rest

def toPrimitive (hint : Hint) : Act Value := do
  match v with
  | .object _ =>
    let method ← get v Symbol.toPrimitive
    if method.isNullish then ordinaryPrimitive v hint
    else
      let r ← call method v [.ofString hint.name]
      if r.isObject then raiseType "toPrimitive"
      return r
  | _ => return v

def primitiveToDouble : Value → Act Double
  | .undefined => return Double.nan
  | .null => return Double.zero
  | .bool b => return Double.ofInt (if b then 1 else 0)
  | .number d => return d
  | .text t => return doubleOfText t
  | .bigint _ => raiseType "cannot convert bigint to number"
  | .symbol _ => raiseType "cannot convert symbol to number"
  | .object _ => return Double.nan

def toDouble : Act Double := do
  match v with
  | .number d => return d
  | .object _ => primitiveToDouble (← toPrimitive v .number)
  | _ => primitiveToDouble v

def toNumeric : Act Value := do
  match ← toPrimitive v .number with
  | .bigint n => return .bigint n
  | p => return .number (← primitiveToDouble p)

def primitiveToText : Value → Act Text
  | .undefined => return "undefined"
  | .null => return "null"
  | .bool b => return if b then "true" else "false"
  | .number d => return numberText d
  | .bigint n => return Text.ofInt n
  | .text t => return t
  | .symbol _ => raiseType "cannot convert symbol to string"
  | .object _ => return Text.empty

def toText : Act Text := do
  match v with
  | .text t => return t
  | .object _ => primitiveToText (← toPrimitive v .string)
  | _ => primitiveToText v

def toKey : Act Key := do
  match v with
  | .text t => return .text t
  | .symbol s => return .symbol s
  | .object _ =>
    match ← toPrimitive v .string with
    | .symbol s => return .symbol s
    | p => return .text (← primitiveToText p)
  | _ => return .text (← primitiveToText v)

def toObject : Act ObjectId := do
  match v with
  | .object o => return o
  | .undefined => raiseType "cannot convert to object"
  | .null => raiseType "cannot convert to object"
  | _ => newObject (protoOf v) (.primitive v)

def integerOfDouble (d : Double) : Int :=
  if d.isNaN then 0
  else if d.isInfinite then (if d.isNegative then -(2 ^ 63) else 2 ^ 63 - 1)
  else (d.truncated?).getD 0

def toInteger : Act Int := do return integerOfDouble (← toDouble v)

def clampInt (n lo hi : Int) : Int := if n < lo then lo else if hi < n then hi else n

/-- An index into something of a length; negative ones count from the end. -/
def relativeIndex (n : Int) (length : Nat) : Nat :=
  (if n < 0 then max 0 (length + n) else min n length).toNat

def toRelativeIndex (length : Nat) : Act Nat := do return relativeIndex (← toInteger v) length

def toLength : Act Nat := do return (clampInt (← toInteger v) 0 (2 ^ 53 - 1)).toNat

def toModulo (bits : Nat) : Act Nat := do return (← toDouble v).modPow bits

def signedOf (bits n : Nat) : Int := if n < 2 ^ (bits - 1) then n else (n : Int) - 2 ^ bits

def toBufferIndex : Act Nat := do
  let n ← if v.isUndefined then pure 0 else toInteger v
  if n < 0 || 2 ^ 53 - 1 < n then raiseRange "invalid array index" else return n.toNat

def primitiveToBigInt : Value → Act Int
  | .bigint n => return n
  | .bool b => return if b then 1 else 0
  | .text t =>
    match bigIntOfText? t with
    | some n => return n
    | none => raise .syntaxError "invalid bigint literal"
  | _ => raiseType "cannot convert to BigInt"

def toBigInt : Act Int := do primitiveToBigInt (← toPrimitive v .number)

def typeName : Act String := do
  match v with
  | .undefined => return "undefined"
  | .null => return "object"
  | .bool _ => return "boolean"
  | .number _ => return "number"
  | .bigint _ => return "bigint"
  | .text _ => return "string"
  | .symbol _ => return "symbol"
  | .object o => return if (← object o).isCallable then "function" else "object"

def lengthOf (o : ObjectId) : Act Nat := do
  let x ← object o
  match x.payload with
  | .array _ length _ => return length
  | _ => toLength (← getFrom o "length" (.object o))

def refusalKind : Refusal → ErrorKind
  | .invalidLength => .range
  | _ => .type

def refusalText (k : Key) : Refusal → String
  | .readOnly => "'" ++ k.shown ++ "' is read-only"
  | .noSetter => "no setter for property"
  | .notExtensible => "object is not extensible"
  | .notConfigurable => "property is not configurable"
  | .notObject => "not an object"
  | .circular => "circular prototype chain"
  | .frozenPrototype => "object is not extensible"
  | .invalidLength => "invalid array length"
  | .outOfBounds => "out-of-bound numeric index"
  | .trap name => "proxy: " ++ name

def insist (k : Key) (x : Act (Option Refusal)) : Act Unit := do
  match ← x with
  | none => pure ()
  | some r => raise (refusalKind r) (refusalText k r)

def put (target : Value) (k : Key) (v : Value) (strict : Bool := true) : Act Unit := do
  match target with
  | .object o =>
    if strict then insist k (setOn o k v target)
    else
      match ← setOn o k v target with
      | some .invalidLength => raiseRange "invalid array length"
      | _ => pure ()
  | .undefined => raiseType ("cannot set property '" ++ k.shown ++ "' of undefined")
  | .null => raiseType ("cannot set property '" ++ k.shown ++ "' of null")
  | _ =>
    match ← setOn (protoOf target) k v target with
    | some r => if strict then raise (refusalKind r) (refusalText k r)
    | none => pure ()

def plainDescriptor (v : Value) : Descriptor :=
  { value := some v, writable := some true, enumerable := some true, configurable := some true }

def createProperty (o : ObjectId) (k : Key) (v : Value) : Act Unit := insist k (define o k (plainDescriptor v))

def newArray (items : List Value) : Act ObjectId := do
  charge (16 * items.length)
  newObject Intrinsic.arrayPrototype (.array (items.map some).toArray items.length false)

def newText (t : Text) : Act Value := do
  if 256 < t.length then charge (if t.units.any (256 ≤ ·.toNat) then 2 * t.length else t.length)
  return .text t

def newBuiltinFunction (f : Builtin) (name : String) (length : Nat) : Act ObjectId := do
  let o ← newObject Intrinsic.functionPrototype (.builtin f)
  putProperty o "length" (.fixed (.ofNat length))
  putProperty o "name" (.fixed (.ofString name))
  return o

end Act

end Embedding.Guest
