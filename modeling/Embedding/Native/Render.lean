import Embedding.Json.Value
import Embedding.Native.Basic

namespace Embedding.Native

open Json (Value)

def floatJson (d : Double) : Value := if d.isFinite then .float d else .null

def elementJson : (t : ElementType) → t.Carrier → Value
  | .int8, x => .int x.toInt
  | .int16, x => .int x.toInt
  | .int32, x => .int x.toInt
  | .uint8, x => .int x.toNat
  | .uint16, x => .int x.toNat
  | .uint32, x => .int x.toNat
  | .float32, x => floatJson x.toDouble
  | .float64, x => floatJson x
  | .bigInt64, x => .int x.toInt
  | .bigUint64, x => .int x.toNat

mutual

def toJson : Native → Value
  | null => .null
  | unmapped => .null
  | bool b => .bool b
  | int n => .int n.toInt
  | float d => floatJson d
  | bigint n => .string (toString n)
  | string s => .string s
  | array items => .array (itemsJson items)
  | set items => .array (itemsJson items)
  | bytes data => .array (data.map fun b => .int b.toNat)
  | typed t elements => .array (elements.map (elementJson t))
  | map entries => Value.ofMembers (entriesJson entries)
  | date i => .string i.text
  | function _ => .string "[host function]"

def itemsJson : List Native → List Value
  | [] => []
  | v :: rest => toJson v :: itemsJson rest

def entriesJson : List (String × Native) → List (String × Value)
  | [] => []
  | (k, v) :: rest => (k, toJson v) :: entriesJson rest

end

def display : Native → String
  | string s => s
  | other => (toJson other).text

end Embedding.Native
