import Embedding.Guest.Convert

namespace Embedding.Guest

def valueOfBits (t : ElementType) (bits : Nat) : Value :=
  match t with
  | .float32 => .number (Single.toDouble ⟨UInt32.ofNat bits⟩)
  | .float64 => .number (let d : Double := ⟨UInt64.ofNat bits⟩; if d.isNaN then Double.nan else d)
  | .bigInt64 => .bigint (if bits < 2 ^ 63 then bits else (bits : Int) - 2 ^ 64)
  | .bigUint64 => .bigint bits
  | .int8 => .ofInt (if bits < 2 ^ 7 then bits else (bits : Int) - 2 ^ 8)
  | .int16 => .ofInt (if bits < 2 ^ 15 then bits else (bits : Int) - 2 ^ 16)
  | .int32 => .ofInt (if bits < 2 ^ 31 then bits else (bits : Int) - 2 ^ 32)
  | .uint8 | .uint16 | .uint32 => .ofNat bits

def readBytes (bytes : Array UInt8) (offset width : Nat) : Nat :=
  ofLittleEndian (bytes.extract offset (offset + width)).toList

def writeBytes (bytes : Array UInt8) (offset width bits : Nat) : Array UInt8 :=
  ((littleEndian width bits).zipIdx).foldl (fun bs (b, i) => bs.setIfInBounds (offset + i) b) bytes

def clampedByte (d : Double) : Nat :=
  if d.isNaN || d.isNegative then 0
  else if d.isInfinite then 255
  else
    let (num, den) := d.ratio
    min 255 (Double.roundDivEven num den)

namespace Act

def bitsOfValue (t : ElementType) (v : Value) : Act Nat := do
  match t with
  | .bigInt64 | .bigUint64 => return ((← toBigInt v) % 2 ^ 64).toNat
  | .float32 => return (Single.ofDouble (← toDouble v)).bits.toNat
  | .float64 => return (← toDouble v).bits.toNat
  | _ => toModulo v (8 * t.width)

def bitsOfElement (t : ArrayElement) (v : Value) : Act Nat := do
  match t with
  | .plain t => bitsOfValue t v
  | .clamped => return clampedByte (← toDouble v)

def bufferBytes (buffer : ObjectId) : Act (Array UInt8) := do
  match (← object buffer).payload with
  | .buffer bytes _ => return bytes
  | _ => return #[]

def setBufferBytes (buffer : ObjectId) (bytes : Array UInt8) : Act Unit :=
  modifyObject buffer fun x =>
    match x.payload with
    | .buffer _ shared => { x with payload := .buffer bytes shared }
    | _ => x

def elementType : ArrayElement → ElementType
  | .plain t => t
  | .clamped => .uint8

def readElement (t : ArrayElement) (buffer : ObjectId) (offset i : Nat) : Act Value := do
  let bytes ← bufferBytes buffer
  return valueOfBits (elementType t) (readBytes bytes (offset + i * t.width) t.width)

def writeElement (t : ArrayElement) (buffer : ObjectId) (offset i bits : Nat) : Act Unit := do
  let bytes ← bufferBytes buffer
  setBufferBytes buffer (writeBytes bytes (offset + i * t.width) t.width bits)

def newBuffer (bytes : Array UInt8) (proto : ObjectId) (shared : Bool := false) : Act ObjectId := do
  charge bytes.size
  newObject proto (.buffer bytes shared)

end Act

end Embedding.Guest
