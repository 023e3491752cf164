import Embedding.Guest.Machine

namespace Embedding.Guest.Realm

inductive Member where
  | method (key : Key) (f : Builtin) (length : Nat)
  | accessor (key : Key) (get : Builtin) (set : Option Builtin)
  | data (key : Key) (p : Property)
  | synonym (key of : Key)

structure Site where
  place : ObjectId
  proto : Option ObjectId := some Intrinsic.objectPrototype
  payload : Payload := .ordinary
  members : List Member

namespace Member

def symbolMethod (s : Symbol) (f : Builtin) (length : Nat) : Member := method (.symbol s) f length

def getter (key : Key) (f : Builtin) : Member := accessor key f none

def tag (name : String) : Member := data (.symbol Symbol.toStringTag) (.fixed (.ofString name))

def constant (name : String) (v : Value) : Member := data (.ofString name) (.constant v)

def link (name : String) (o : ObjectId) : Member := data (.ofString name) (.method (.object o))

def species : Member := getter (.symbol Symbol.species) .species

end Member

def methods (family : α → Builtin) (fs : List (String × α × Nat)) : List Member :=
  fs.map fun (name, f, length) => .method (.ofString name) (family f) length

def getters (family : α → Builtin) (fs : List (String × α)) : List Member :=
  fs.map fun (name, f) => .getter (.ofString name) (family f)

def constructorSite (place : ObjectId) (name : String) (f : Builtin) (length : Nat) (prototype : Option ObjectId)
    (members : List Member) (proto : ObjectId := Intrinsic.functionPrototype) : Site where
  place := place
  proto := some proto
  payload := .builtin f
  members :=
    [.data "length" (.fixed (.ofNat length)), .data "name" (.fixed (.ofString name))] ++
      (prototype.toList.map fun p => .data "prototype" (.constant (.object p))) ++ members

def functionSite (place : ObjectId) (name : String) (f : Builtin) (length : Nat) : Site :=
  constructorSite place name f length none []

def functionName (key : Key) : String :=
  match key with
  | .text t => t.toStringLossy
  | .symbol s => "[" ++ (s.description.getD Text.empty).toStringLossy ++ "]"

def functionObject (f : Builtin) (name : String) (length : Nat) : Object where
  proto := some Intrinsic.functionPrototype
  payload := .builtin f
  properties := #[("length", .fixed (.ofNat length)), ("name", .fixed (.ofString name))]

/-- Adds a member to an object; its functions go behind the objects that are there already. -/
def addMember (s : Array Object × Object) : Member → Array Object × Object
  | .method key f length =>
    let (objects, o) := s
    (objects.push (functionObject f (functionName key) length), o.putProperty key (.method (.object objects.size)))
  | .accessor key g set =>
    let (objects, o) := s
    let getter := objects.size
    let objects := objects.push (functionObject g ("get " ++ functionName key) 0)
    match set with
    | none => (objects, o.putProperty key ⟨.accessor (.object getter) .undefined, false, true⟩)
    | some f =>
      let setter := objects.size
      (objects.push (functionObject f ("set " ++ functionName key) 1),
        o.putProperty key ⟨.accessor (.object getter) (.object setter), false, true⟩)
  | .data key p => (s.1, s.2.putProperty key p)
  | .synonym key other =>
    match s.2.property? other with
    | some p => (s.1, s.2.putProperty key p)
    | none => s

def addSite (objects : Array Object) (site : Site) : Array Object :=
  let (objects, o) := site.members.foldl addMember (objects, { proto := site.proto, payload := site.payload })
  objects.setIfInBounds site.place o

def layOut (sites : List Site) : Machine :=
  let objects := sites.foldl addSite (Array.replicate Intrinsic.reserved { proto := none })
  { objects, realmSize := objects.size }

end Embedding.Guest.Realm
