import Embedding.Instant
import Embedding.Native.Element

namespace Embedding

/-- A host closure. Two are equal when they share the same closure, so the number is enough. -/
structure HostFn where
  id : Nat
deriving DecidableEq, Inhabited

inductive Native where
  | null
  | bool (b : Bool)
  | int (n : Int64)
  | float (d : Double)
  | bigint (n : Int)
  | string (s : String)
  | array (items : List Native)
  | bytes (data : List UInt8)
  | typed (t : ElementType) (elements : List t.Carrier)
  | map (entries : List (String × Native))
  | set (items : List Native)
  | date (i : Instant)
  | function (f : HostFn)
  | unmapped
deriving Inhabited

namespace Native

def shape : Native → String
  | null => "null"
  | bool _ => "bool"
  | int _ => "int"
  | float _ => "float"
  | bigint _ => "bigint"
  | string _ => "string"
  | array _ => "array"
  | bytes _ => "bytes"
  | typed t _ => t.name
  | map _ => "map"
  | set _ => "set"
  | date _ => "date"
  | function _ => "function"
  | unmapped => "opaque"

def isNull : Native → Bool
  | null => true
  | _ => false

def bool? : Native → Option Bool
  | bool b => some b
  | _ => none

def int? : Native → Option Int64
  | int n => some n
  | _ => none

def double? : Native → Option Double
  | int n => some (Double.ofInt n.toInt)
  | float d => some d
  | _ => none

def string? : Native → Option String
  | string s => some s
  | _ => none

def items? : Native → Option (List Native)
  | array items => some items
  | set items => some items
  | _ => none

def ofSigned (n : Int64) : Native := int n

/-- An unsigned host integer; above the signed range it becomes the nearest float. -/
def ofUnsigned (n : UInt64) : Native :=
  if n.toNat < 2 ^ 63 then int n.toInt64 else float (Double.ofInt n.toNat)

def ofSingle (s : Single) : Native := float s.toDouble

def insertEntry (entries : List (String × α)) (key : String) (value : α) : List (String × α) :=
  match entries with
  | [] => [(key, value)]
  | (k, v) :: rest =>
    if k = key then (key, value) :: rest else (k, v) :: insertEntry rest key value

def mapOfEntries (entries : List (String × Native)) : Native :=
  map (entries.foldl (fun acc e => insertEntry acc e.1 e.2) [])

mutual

/-- Equality: variants never mix, floats are compared as numbers, maps by key. -/
def eq : Native → Native → Bool
  | null, null => true
  | bool a, bool b => a == b
  | int a, int b => a == b
  | float a, float b => a.numericEq b
  | bigint a, bigint b => a == b
  | string a, string b => a == b
  | array a, array b => eqItems a b
  | bytes a, bytes b => a == b
  | typed s a, typed t b => if h : s = t then eqElements t (h ▸ a) b else false
  | map a, map b => a.length == b.length && eqEntries a b
  | set a, set b => eqItems a b
  | date a, date b => a == b
  | function a, function b => a == b
  | unmapped, unmapped => true
  | _, _ => false

def eqItems : List Native → List Native → Bool
  | [], [] => true
  | a :: as, b :: bs => eq a b && eqItems as bs
  | _, _ => false

/-- Whether each entry of the first map has an equal partner in the second. -/
def eqEntries : List (String × Native) → List (String × Native) → Bool
  | [], _ => true
  | (k, a) :: rest, entries =>
    (match entries.lookup k with
      | some b => eq a b
      | none => false) && eqEntries rest entries

def eqElements (t : ElementType) : List t.Carrier → List t.Carrier → Bool
  | [], [] => true
  | a :: as, b :: bs => t.elementEq a b && eqElements t as bs
  | _, _ => false

end

instance : BEq Native := ⟨eq⟩

end Native

end Embedding
