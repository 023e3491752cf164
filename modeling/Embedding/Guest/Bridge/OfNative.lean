import Embedding.Guest.Bridge.Basic
import Embedding.Guest.Bridge.Kind

namespace Embedding.Guest.Bridge

/-- Registers a host function, which gives it a guest function that calls it. -/
def registering (f : HostFn) : Bridge (Except Error Handle) := ask (.register f)

def expose (f : HostFn) : Bridge (Handle × ObjectId) := do
  let o := (← ofGuest Act.machine).objects.size
  let h ← ofExcept (← registering f)
  ofGuest do
    Act.putProperty o "length" (.fixed (.ofNat 0))
    Act.hold (.object o)
  return (h, o)

def constructKind (k : Kind) (args : List Value) : Bridge ObjectId := do
  requireLive
  match Intrinsic.ofKind? k with
  | some c =>
    match ← check (Act.construct (.object c) args (.object c)) with
    | .object o => return o
    | _ => throw (.conversion k.constructorName "object")
  | none => throw (.conversion k.constructorName "builtin constructor")

def newBytes (bytes : List UInt8) : Bridge ObjectId :=
  check (Act.newBuffer bytes.toArray Intrinsic.bufferPrototype)

def typedOfNative (t : ElementType) (xs : List t.Carrier) : Bridge ObjectId := do
  let buffer ← newBytes (t.encode xs)
  constructKind (.typed t) [.object buffer]

def newBigInt (n : Int) : Bridge Value := do
  requireLive
  check (Act.call (.object Intrinsic.bigintConstructor) .undefined [.text (Text.ofInt n)])

mutual

def ofNative : Native → Bridge Value
  | .null => return .null
  | .bool b => return .bool b
  | .int n => return .ofInt64 n
  | .float d => return .number (if d.isNaN then Double.nan else d)
  | .bigint n => newBigInt n
  | .string s => check (Act.newText (Text.ofString s))
  | .array items => do
    let o ← check (Act.newArray [])
    holding [.object o] (fillArray o 0 items)
    return .object o
  | .bytes data => do return .object (← newBytes data)
  | .typed t xs => do return .object (← typedOfNative t xs)
  | .map entries => do
    let o ← constructKind .map []
    holding [.object o] (fillMap o entries)
    return .object o
  | .set items => do
    let o ← constructKind .set []
    holding [.object o] (fillSet o items)
    return .object o
  | .date i => do return .object (← constructKind .date [.ofInt i.milliseconds])
  | .function f => do return .object (← expose f).2
  | .unmapped => do
    match ← ask .unmapped with
    | .null =>
      report .unmappedAsNull
      return .null
    | .error => throw (.conversion (Native.shape .unmapped) "guest value")

def fillArray (o : ObjectId) (i : Nat) : List Native → Bridge Unit
  | [] => pure ()
  | x :: xs => do
    let v ← ofNative x
    check (Act.put (.object o) (.ofNat i) v)
    fillArray o (i + 1) xs

def fillMap (o : ObjectId) : List (String × Native) → Bridge Unit
  | [] => pure ()
  | (k, x) :: rest => do
    let v ← ofNative x
    let _ ← callMethod o "set" [.text (Text.ofString k), v]
    fillMap o rest

def fillSet (o : ObjectId) : List Native → Bridge Unit
  | [] => pure ()
  | x :: xs => do
    let v ← ofNative x
    let _ ← callMethod o "add" [v]
    fillSet o xs

end

end Embedding.Guest.Bridge
