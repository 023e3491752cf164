import Embedding.Guest.Object

namespace Embedding.Guest

inductive Target where
  | object (o : ObjectId)
  | cell (c : CellId)
deriving DecidableEq, Inhabited

namespace Target

def ofValue : Value → List Target
  | .object o => [object o]
  | _ => []

def ofValues (vs : List Value) : List Target := vs.flatMap ofValue

def ofEntry : ScopeEntry → List Target
  | .cell _ c _ => [cell c]
  | .withObject o => [object o]
  | .hidden _ _ => []
  | .home v => ofValue v
  | .function f => [object f]

def ofScope (s : Scope) : List Target := s.flatMap ofEntry

def ofSlot : Slot → List Target
  | .data v _ => ofValue v
  | .accessor g s => ofValue g ++ ofValue s
  | .lazyPrototype => []

def ofPart : InstancePart → List Target
  | .field _ v => ofValue v
  | .hiddenMember _ p => ofSlot p.slot

def ofPayload : Payload → List Target
  | .array elements _ _ => elements.toList.flatMap fun e => (e.map ofValue).getD []
  | .function c => ofScope c.scope ++ ofValue c.home ++ c.parts.flatMap ofPart
  | .bound f this args _ => ofValue f ++ ofValue this ++ ofValues args
  | .primitive v => ofValue v
  | .map entries => entries.toList.flatMap fun e => (e.map fun (k, v) => ofValue k ++ ofValue v).getD []
  | .set entries => entries.toList.flatMap fun e => (e.map ofValue).getD []
  | .weakMap entries => entries.flatMap fun e => ofValue e.2
  | .arrayIterator v _ _ => ofValue v
  | .mapIterator o _ _ => (o.map object).toList
  | .setIterator o _ _ => (o.map object).toList
  | .matchIterator v _ _ _ _ => ofValue v
  | .typedArray _ buffer _ _ => [object buffer]
  | .dataView buffer _ _ => [object buffer]
  | .proxy target handler _ _ _ => ofValue target ++ ofValue handler
  | .generator (.fresh f this args) => object f :: ofValue this ++ ofValues args
  | .generator (.collected vs r _ _) => ofValues vs ++ ofValue r
  | .promise (.pending reactions _) => reactions.flatMap fun r => ofValues (r.onFulfilled :: r.onRejected :: r.settlers)
  | .promise (.fulfilled v) => ofValue v
  | .promise (.rejected v) => ofValue v
  | .activation scopes values => scopes.flatMap ofScope ++ ofValues values
  | .builtin (.promise (.settle p _)) => [object p]
  | .builtin (.proxy (.revoke p)) => [object p]
  | _ => []

def ofObject (x : Object) : List Target :=
  x.properties.toList.flatMap (fun p => ofSlot p.2.slot) ++ (x.proto.map object).toList ++ ofPayload x.payload

def isKnown (size : Nat) : Target → Bool
  | object o => o < size
  | cell _ => true

end Target

end Embedding.Guest
