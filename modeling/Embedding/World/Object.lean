import Embedding.Guest.Bridge.OfNative
import Embedding.World.Value

namespace Embedding

namespace ValueRef

variable [Guest.Collector] (v : ValueRef)

def insideObject (f : Guest.ObjectId → Guest.Bridge α) : Attempt σ α := v.inside fun
  | .object o => f o
  | _ => throw (.conversion "non-object value" "object")

def insideObjectHolding (f : Guest.ObjectId → Guest.Bridge Guest.Value) : Attempt σ ValueRef := do
  let pin ← v.insideObject fun o => do
    let x ← f o
    Guest.Bridge.pin x
  return ⟨v.context, pin⟩

def kind : Attempt σ Kind := v.insideObject Guest.Bridge.kindOf

def objectToNative : Attempt σ Native := v.insideObject Guest.Bridge.objectToNative

def get (name : String) : Attempt σ ValueRef := v.insideObjectHolding fun o => Guest.Bridge.getProperty o name

def getIndex (index : Nat) : Attempt σ ValueRef := v.insideObjectHolding fun o => Guest.Bridge.itemAt o index

def putValue (o : Guest.ObjectId) (name : String) (x : Guest.Value) : Guest.Bridge Unit :=
  Guest.Bridge.check (Guest.Act.put (.object o) (Guest.Key.ofString name) x)

def set (name : String) (value : Native) : Attempt σ Unit := v.insideObject fun o => do
  let x ← Guest.Bridge.ofNative value
  Guest.Bridge.hold x
  putValue o name x

def setValue (name : String) (value : ValueRef) : Attempt σ Unit := do
  if v.context != value.context then throw (.conversion "value of another context" "property")
  v.insideObject fun o => do
    let x ← Guest.Bridge.pinned value.pin
    putValue o name x

def guestForms (args : List Native) : Guest.Bridge (List Guest.Value) :=
  args.mapM fun a => do
    let x ← Guest.Bridge.ofNative a
    Guest.Bridge.hold x
    return x

def call (name : String) (args : List Native) : Attempt σ ValueRef := v.insideObjectHolding fun o => do
  let xs ← guestForms args
  Guest.Bridge.callMethod o name xs

def setFunction (name : String) (f : HostFn) : Attempt σ Handle := do
  let h ← v.insideObject fun o => do
    let (h, g) ← Guest.Bridge.expose f
    putValue o name (.object g)
    return h
  modifyThe World fun w => w.report (.exposed name h.index)
  return h

end ValueRef

inductive View
  | array
  | buffer
  | map
  | set
  | date
  | typed (t : ElementType)
deriving DecidableEq, Inhabited

namespace View

def name : View → String
  | array => "Array"
  | buffer => "ArrayBuffer"
  | map => "Map"
  | set => "Set"
  | date => "Date"
  | typed _ => "TypedArray"

def kind : View → Kind
  | array => .array
  | buffer => .buffer
  | map => .map
  | set => .set
  | date => .date
  | typed t => .typed t

def countProperty? : View → Option String
  | array | typed _ => some "length"
  | buffer => some "byteLength"
  | map | set => some "size"
  | date => none

def contents : View → Guest.ObjectId → Guest.Bridge Native
  | array, o => do return .array (← Guest.Bridge.arrayItems Guest.Bridge.toNative o)
  | buffer, o => do return .bytes (← Guest.Bridge.bufferBytes o)
  | map, o => do return .map (← Guest.Bridge.mapEntries Guest.Bridge.toNative o)
  | set, o => do return .set (← Guest.Bridge.setItems Guest.Bridge.toNative o)
  | date, o => do return .date (← Guest.Bridge.dateOf o)
  | typed t, o => do return .typed t (← Guest.Bridge.typedItems t o)

end View

namespace ValueRef

variable [Guest.Collector] (v : ValueRef)

def requireView (view : View) : Attempt σ Unit := do
  let k ← v.kind
  if k != view.kind then throw (.conversion k.constructorName view.name)

def countIn (view : View) : Attempt σ Nat := v.insideObject fun o =>
  match view.countProperty? with
  | some p => Guest.Bridge.countOf o p
  | none => return 0

def contentsIn (view : View) : Attempt σ Native := v.insideObject view.contents

end ValueRef

end Embedding
