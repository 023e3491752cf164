import Embedding.Double.Basic

namespace Embedding

inductive ElementType
  | int8
  | int16
  | int32
  | uint8
  | uint16
  | uint32
  | float32
  | float64
  | bigInt64
  | bigUint64
deriving DecidableEq, Inhabited

namespace ElementType

/-- Every element type, in the order in which objects are tested for them. -/
def all : List ElementType :=
  [int8, int16, int32, uint8, uint16, uint32, float32, float64, bigInt64, bigUint64]

def name : ElementType → String
  | int8 => "Int8Array"
  | int16 => "Int16Array"
  | int32 => "Int32Array"
  | uint8 => "Uint8Array"
  | uint16 => "Uint16Array"
  | uint32 => "Uint32Array"
  | float32 => "Float32Array"
  | float64 => "Float64Array"
  | bigInt64 => "BigInt64Array"
  | bigUint64 => "BigUint64Array"

def width : ElementType → Nat
  | int8 | uint8 => 1
  | int16 | uint16 => 2
  | int32 | uint32 | float32 => 4
  | float64 | bigInt64 | bigUint64 => 8

abbrev Carrier : ElementType → Type
  | int8 => Int8
  | int16 => Int16
  | int32 => Int32
  | uint8 => UInt8
  | uint16 => UInt16
  | uint32 => UInt32
  | float32 => Single
  | float64 => Double
  | bigInt64 => Int64
  | bigUint64 => UInt64

def bitsOf : (t : ElementType) → t.Carrier → Nat
  | int8, x => x.toUInt8.toNat
  | int16, x => x.toUInt16.toNat
  | int32, x => x.toUInt32.toNat
  | uint8, x => x.toNat
  | uint16, x => x.toNat
  | uint32, x => x.toNat
  | float32, x => x.bits.toNat
  | float64, x => x.bits.toNat
  | bigInt64, x => x.toUInt64.toNat
  | bigUint64, x => x.toNat

def ofBits : (t : ElementType) → Nat → t.Carrier
  | int8, n => (UInt8.ofNat n).toInt8
  | int16, n => (UInt16.ofNat n).toInt16
  | int32, n => (UInt32.ofNat n).toInt32
  | uint8, n => UInt8.ofNat n
  | uint16, n => UInt16.ofNat n
  | uint32, n => UInt32.ofNat n
  | float32, n => ⟨UInt32.ofNat n⟩
  | float64, n => ⟨UInt64.ofNat n⟩
  | bigInt64, n => (UInt64.ofNat n).toInt64
  | bigUint64, n => UInt64.ofNat n

def elementEq : (t : ElementType) → t.Carrier → t.Carrier → Bool
  | float32, x, y => x.numericEq y
  | float64, x, y => x.numericEq y
  | t, x, y => t.bitsOf x == t.bitsOf y

end ElementType

def littleEndian : Nat → Nat → List UInt8
  | 0, _ => []
  | count + 1, n => UInt8.ofNat n :: littleEndian count (n / 256)

def ofLittleEndian : List UInt8 → Nat
  | [] => 0
  | b :: rest => b.toNat + 256 * ofLittleEndian rest

namespace ElementType

variable (t : ElementType)

def encode (xs : List t.Carrier) : List UInt8 :=
  xs.flatMap fun x => littleEndian t.width (t.bitsOf x)

/-- As many whole elements as the bytes hold. The fuel is the number of bytes. -/
def decodeUpTo : Nat → List UInt8 → List t.Carrier
  | 0, _ => []
  | n + 1, bytes =>
    if bytes.length < t.width then []
    else t.ofBits (ofLittleEndian (bytes.take t.width)) :: decodeUpTo n (bytes.drop t.width)

def decode (bytes : List UInt8) : List t.Carrier := t.decodeUpTo bytes.length bytes

end ElementType

end Embedding
