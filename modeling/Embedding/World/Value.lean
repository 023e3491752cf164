import Embedding.Guest.Bridge.ToNative
import Embedding.World.Entry

namespace Embedding

inductive ValueType
  | undefined
  | null
  | bool
  | number
  | bigint
  | string
  | symbol
  | object
deriving DecidableEq, Inhabited

namespace ValueType

def name : ValueType → String
  | undefined => "Undefined"
  | null => "Null"
  | bool => "Bool"
  | number => "Number"
  | bigint => "BigInt"
  | string => "String"
  | symbol => "Symbol"
  | object => "Object"

def isNullish : ValueType → Bool
  | undefined | null => true
  | _ => false

def ofValue : Guest.Value → ValueType
  | .undefined => undefined
  | .null => null
  | .bool _ => bool
  | .number _ => number
  | .bigint _ => bigint
  | .text _ => string
  | .symbol _ => symbol
  | .object _ => object

end ValueType

namespace ValueRef

variable [Guest.Collector] (v : ValueRef)

def inside (f : Guest.Value → Guest.Bridge α) : Attempt σ α := v.context.inside do
  let x ← Guest.Bridge.pinned v.pin
  Guest.Bridge.hold x
  f x

def type : Attempt σ ValueType := v.inside fun x => return ValueType.ofValue x

def toNative : Attempt σ Native := v.inside Guest.Bridge.toNative

def coerceText : Attempt σ String := v.inside Guest.Bridge.coerceText

def asObject? : Work σ (Option ValueRef) := do
  match ← (v.type : Attempt σ ValueType).run with
  | .ok .object => return some v
  | _ => return none

def requireObject : Attempt σ Unit := do
  let t ← v.type
  if t != .object then throw (.conversion t.name "object")

def description : Work σ String := do
  match ← (v.type : Attempt σ ValueType).run with
  | .ok t => return "Value(" ++ t.name ++ ")"
  | .error .reentrant => return "Value(<busy>)"
  | .error _ => return "Value(<freed>)"

def copy : Work σ ValueRef := modifyGetThe World fun w => w.copy v

end ValueRef

end Embedding
