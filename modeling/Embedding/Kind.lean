import Embedding.Native.Element

namespace Embedding

inductive Kind
  | array
  | buffer
  | typed (t : ElementType)
  | map
  | set
  | date
  | unknown
deriving DecidableEq, Inhabited

namespace Kind

/-- Every kind with a builtin constructor, in the order in which objects are tested for them. -/
def builtins : List Kind := [array, buffer] ++ ElementType.all.map typed ++ [map, set, date]

def constructorName : Kind → String
  | array => "Array"
  | buffer => "ArrayBuffer"
  | typed t => t.name
  | map => "Map"
  | set => "Set"
  | date => "Date"
  | unknown => "Object"

def isTypedArray : Kind → Bool
  | typed _ => true
  | _ => false

def ofName? (name : String) : Option Kind := builtins.find? fun k => k.constructorName == name

end Kind

end Embedding
