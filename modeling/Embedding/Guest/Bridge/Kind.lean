import Embedding.Guest.Bridge.Basic

namespace Embedding.Guest

def Intrinsic.ofKind? : Kind → Option ObjectId
  | .array => some arrayConstructor
  | .buffer => some bufferConstructor
  | .typed t => some (elementConstructor (.plain t))
  | .map => some mapConstructor
  | .set => some setConstructor
  | .date => some dateConstructor
  | .unknown => none

namespace Bridge

def passes (test : Act Bool) : Act Bool := tryCatch test fun _ => return true

def isInstanceOf (o : ObjectId) (k : Kind) : Act Bool :=
  match Intrinsic.ofKind? k with
  | some c => passes (Act.instanceOf (.object o) (.object c))
  | none => return false

def firstKind (o : ObjectId) : List Kind → Act (Option Kind)
  | [] => return none
  | k :: ks => do if ← isInstanceOf o k then return some k else firstKind o ks

def testKinds (o : ObjectId) : Bridge Kind := do
  if ← ofGuest (passes (Act.isArray o)) then return .array
  match ← ofGuest (firstKind o Kind.builtins.tail) with
  | some k =>
    report (.kindResolved k)
    return k
  | none => return .unknown

def kindOf (o : ObjectId) : Bridge Kind := do
  requireLive
  borrowing (testKinds o)

end Bridge

end Embedding.Guest
