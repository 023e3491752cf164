import Embedding.Double.Basic
import Embedding.Guest.Syntax.Tree
import Embedding.Text.Units

namespace Embedding.Guest

abbrev ObjectId := Nat

abbrev CellId := Nat

structure Symbol where
  id : Nat
  description : Option Text
  /-- Private names of classes are symbols that no program can get hold of. -/
  hidden : Bool := false
deriving DecidableEq, Inhabited

namespace Symbol

def wellKnown (id : Nat) (name : String) : Symbol := ⟨id, some (Text.ofString ("Symbol." ++ name)), false⟩

def iterator : Symbol := wellKnown 0 "iterator"

def asyncIterator : Symbol := wellKnown 1 "asyncIterator"

def hasInstance : Symbol := wellKnown 2 "hasInstance"

def toPrimitive : Symbol := wellKnown 3 "toPrimitive"

def toStringTag : Symbol := wellKnown 4 "toStringTag"

def species : Symbol := wellKnown 5 "species"

def isConcatSpreadable : Symbol := wellKnown 6 "isConcatSpreadable"

def unscopables : Symbol := wellKnown 7 "unscopables"

def matchSymbol : Symbol := wellKnown 8 "match"

def matchAll : Symbol := wellKnown 9 "matchAll"

def replace : Symbol := wellKnown 10 "replace"

def search : Symbol := wellKnown 11 "search"

def split : Symbol := wellKnown 12 "split"

def allWellKnown : List (String × Symbol) :=
  [("toPrimitive", toPrimitive), ("iterator", iterator), ("match", matchSymbol), ("matchAll", matchAll),
   ("replace", replace), ("search", search), ("split", split), ("toStringTag", toStringTag),
   ("isConcatSpreadable", isConcatSpreadable), ("hasInstance", hasInstance), ("species", species),
   ("unscopables", unscopables), ("asyncIterator", asyncIterator)]

end Symbol

inductive Value where
  | undefined
  | null
  | bool (b : Bool)
  | number (d : Double)
  | bigint (n : Int)
  | text (t : Text)
  | symbol (s : Symbol)
  | object (id : ObjectId)
deriving DecidableEq, Inhabited

namespace Value

def ofInt (n : Int) : Value := number (Double.ofInt n)

def ofNat (n : Nat) : Value := ofInt n

/-- A machine integer of the host: as it is where 32 bits hold it, as the nearest double otherwise. -/
def ofInt64 (n : Int64) : Value :=
  if Int32.minValue.toInt ≤ n.toInt ∧ n.toInt ≤ Int32.maxValue.toInt then ofInt n.toInt
  else number (Double.ofInt n.toInt)

def ofString (s : String) : Value := text (Text.ofString s)

instance : Coe ObjectId Value := ⟨object⟩

def ofLiteral : Literal → Value
  | .undefined => undefined
  | .null => null
  | .bool b => bool b
  | .int n => ofInt n.toInt
  | .float d => number d
  | .bigint n => bigint n
  | .text t => text t

def isUndefined : Value → Bool
  | undefined => true
  | _ => false

def isNullish : Value → Bool
  | undefined => true
  | null => true
  | _ => false

def isObject : Value → Bool
  | object _ => true
  | _ => false

def objectId? : Value → Option ObjectId
  | object id => some id
  | _ => none

def isTruthy : Value → Bool
  | undefined => false
  | null => false
  | bool b => b
  | number d => !d.isZero && !d.isNaN
  | bigint n => n != 0
  | text t => !t.isEmpty
  | symbol _ => true
  | object _ => true

end Value

inductive Key where
  | text (t : Text)
  | symbol (s : Symbol)
deriving DecidableEq, Inhabited

namespace Key

instance : Coe Symbol Key := ⟨symbol⟩

def ofString (s : String) : Key := text (Text.ofString s)

instance : Coe String Key := ⟨ofString⟩

def ofNat (n : Nat) : Key := text (Text.ofNat n)

def toValue : Key → Value
  | text t => .text t
  | symbol s => .symbol s

def index? : Key → Option Nat
  | text t => t.toIndex?
  | symbol _ => none

def isHidden : Key → Bool
  | text _ => false
  | symbol s => s.hidden

end Key

end Embedding.Guest
