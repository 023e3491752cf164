import Embedding.Guest.Bridge.Kind
import Embedding.Text.Quoted

namespace Embedding.Guest.Bridge

def safeInteger : Int := 2 ^ 53 - 1

/-- Whole numbers become integers, except for negative zero and numbers too large. -/
def nativeOfNumber (d : Double) : Native :=
  match d.toInt? with
  | some n => if n.natAbs ≤ safeInteger.toNat && !d.isNegativeZero then .int (Int64.ofInt n) else .float d
  | none => .float d

def integerOfDecimal? (s : String) : Option Int :=
  let whole (digits : List Char) : Option Int :=
    if digits.isEmpty || !digits.all Char.isDigit then none else some (Nat.ofDigitChars 10 digits 0)
  match s.toList with
  | '-' :: rest => (whole rest).map (-·)
  | '+' :: rest => whole rest
  | digits => whole digits

def int64OfDecimal? (s : String) : Option Int64 :=
  (integerOfDecimal? s).bind fun n =>
    if Int64.minValue.toInt ≤ n ∧ n ≤ Int64.maxValue.toInt then some (Int64.ofInt n) else none

/-- A big integer is read from its decimal text, if possible as a machine integer. -/
def nativeOfBigInt (n : Int) : Bridge Native := do
  let decimal ← coerceText (.bigint n)
  match int64OfDecimal? decimal with
  | some small => return .bigint small.toInt
  | none =>
    match integerOfDecimal? decimal with
    | some big => return .bigint big
    | none => throw (.conversion ("bigint " ++ quoted decimal) "BigInt")

def itemAt (o : ObjectId) (i : Nat) : Bridge Value := check (Act.getFrom o (.ofNat i) (.object o))

def arrayItems (convert : Value → Bridge Native) (o : ObjectId) : Bridge (List Native) := do
  let n ← countOf o "length"
  (List.range (n % 2 ^ 32)).mapM fun i => do
    let v ← itemAt o i
    holding [v] (convert v)

def bytesOf (v : Value) : Bridge (Array UInt8) := do
  match v with
  | .object o =>
    match (← ofGuest (Act.object o)).payload with
    | .buffer bytes _ => return bytes
    | _ => wrongType v "ArrayBuffer"
  | _ => wrongType v "ArrayBuffer"

def bufferBytes (o : ObjectId) : Bridge (List UInt8) := do
  let n ← countOf o "byteLength"
  let bytes ← bytesOf (.object o)
  return (bytes.extract 0 n).toList

/-- The bytes from one place up to another, if these are in order and none is behind the end. -/
def bytesBetween? (bytes : Array UInt8) (start stop : Nat) : Option (List UInt8) :=
  if start ≤ stop ∧ stop ≤ bytes.size then some (bytes.extract start stop).toList else none

def decodeBetween (t : ElementType) (bytes : Array UInt8) (start stop : Nat) : Bridge (List t.Carrier) :=
  match bytesBetween? bytes start stop with
  | some part => return t.decode part
  | none => throw (.conversion ("detached " ++ t.name) "elements")

def typedItems (t : ElementType) (o : ObjectId) : Bridge (List t.Carrier) := do
  let buffer ← getProperty o "buffer"
  let bytes ← bytesOf buffer
  let offset ← countOf o "byteOffset"
  let length ← countOf o "byteLength"
  let bytes ← if buffer.isObject then bytesOf buffer else pure bytes
  decodeBetween t bytes offset (← addWords offset length)

def newCollector : Act (ObjectId × Nat) := do
  let id ← Act.newCollection
  let o ← Act.newObject Intrinsic.functionPrototype (.collector id)
  return (o, id)

def forEachCalls (o : ObjectId) : Bridge (List (List Value)) := do
  let (f, id) ← ofGuest newCollector
  let _ ← callMethod o "forEach" [.object f]
  ofGuest do
    let calls := ((← Act.machine).collections[id]?).getD []
    for v in calls.flatten do
      Act.hold v
    Act.clearCollection id
    return calls.reverse

def mapEntries (convert : Value → Bridge Native) (o : ObjectId) : Bridge (List (String × Native)) := do
  let _ ← countOf o "size"
  holding [] do
    let calls ← forEachCalls o
    calls.foldlM (fun entries args => do
      match args with
      | v :: k :: _ =>
        let key ← coerceText k
        return Native.insertEntry entries key (← convert v)
      | _ => return entries) []

def setItems (convert : Value → Bridge Native) (o : ObjectId) : Bridge (List Native) := do
  let _ ← countOf o "size"
  holding [] do
    let calls ← forEachCalls o
    let items ← calls.mapM fun args => do
      match args with
      | v :: _ => return some (← convert v)
      | [] => return none
    return items.filterMap id

def dateOf (o : ObjectId) : Bridge Instant := do
  let d ← asDouble (← callMethod o "getTime" [])
  if !d.isFinite then throw (.conversion "invalid date" "DateTime<Utc>")
  match Instant.ofMilliseconds? (d.clamp (-(2 ^ 63)) (2 ^ 63 - 1)) with
  | some i => return i
  | none => throw (.conversion ("date at " ++ d.format .plain ++ " ms") "DateTime<Utc>")

def nativeOfObject (convert : Value → Bridge Native) (o : ObjectId) : Bridge Native := do
  match ← kindOf o with
  | .array => return .array (← arrayItems convert o)
  | .buffer => return .bytes (← bufferBytes o)
  | .typed t => return .typed t (← typedItems t o)
  | .map => return .map (← mapEntries convert o)
  | .set => return .set (← setItems convert o)
  | .date => return .date (← dateOf o)
  | .unknown => return .unmapped

def nativeOf (convert : Value → Bridge Native) (v : Value) : Bridge Native := do
  match v with
  | .undefined | .null => return .null
  | .bool b => return .bool b
  | .number d => return nativeOfNumber d
  | .bigint n => nativeOfBigInt n
  | .text t => return .string (← ofExcept (hostText t))
  | .symbol _ => return .unmapped
  | .object o => nativeOfObject convert o

/-- The way down the rest of the host's stack. Only the engine looks at how much of it is left. -/
def downTheStack : Nat → Act Native
  | 0 => Act.stop .exhausted
  | n + 1 => Act.deeper (downTheStack n)

def stackLimit : Nat := 1000000000

/-- The conversion of values that are nested no deeper than so many levels. From others there is no way back. -/
def toNativeWithin : Nat → Value → Bridge Native
  | 0, _ => ofGuest (downTheStack stackLimit)
  | n + 1, v => nativeOf (fun v => deeper (toNativeWithin n v)) v

/-- How deep values can be nested in others that the host takes apart, in place of the bytes of its own stack. -/
def nestingLimit : Nat := 2000

def toNative (v : Value) : Bridge Native := holding [v] (toNativeWithin nestingLimit v)

def objectToNative (o : ObjectId) : Bridge Native :=
  holding [.object o] (nativeOfObject (fun v => deeper (toNativeWithin nestingLimit v)) o)

end Embedding.Guest.Bridge
