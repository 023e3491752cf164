import Embedding.Error
import Embedding.Native.Basic

namespace Embedding

structure Handle where
  index : Nat
  generation : UInt32
deriving DecidableEq, Inhabited

/-- A call of a host function that has found its function and waits for its arguments. -/
structure PendingCall where
  handle : Handle
  function : HostFn
deriving DecidableEq, Inhabited

structure Slot where
  generation : UInt32 := 0
  entry : Option HostFn := none
deriving DecidableEq, Inhabited

structure Registry where
  slots : Array Slot := #[]
  cursor : Nat := 0
  live : Nat := 0
  limit : Nat
deriving DecidableEq, Inhabited

namespace Registry

def ofLimit (limit : Nat) : Registry := { limit := max limit 1 }

variable (r : Registry)

def isFree (index : Nat) : Bool :=
  match r.slots[index]? with
  | some s => s.entry.isNone
  | none => true

def freeIndex? : Nat → Nat → Option Nat
  | 0, _ => none
  | steps + 1, index => if r.isFree index then some index else freeIndex? steps ((index + 1) % r.limit)

/-- Keeps a function in a slot, which is new if it comes right behind the others. -/
def occupy (index : Nat) (f : HostFn) : Registry :=
  let slots := if index < r.slots.size then r.slots else r.slots.push {}
  { r with
    slots := slots.modify index fun s => { s with entry := some f }
    cursor := index + 1
    live := r.live + 1 }

def insert (f : HostFn) : Except Error (Handle × Registry) :=
  if r.limit ≤ r.live then .error (.registryFull r.limit)
  else
    match r.freeIndex? (min r.limit (r.slots.size + 1)) (r.cursor % r.limit) with
    | some index =>
      let generation := ((r.slots[index]?).map (·.generation)).getD 0
      .ok (⟨index, generation⟩, r.occupy index f)
    | none => .error (.registryFull r.limit)

def get? (h : Handle) : Option HostFn :=
  match r.slots[h.index]? with
  | some s => if s.generation = h.generation then s.entry else none
  | none => none

def remove (h : Handle) : Option HostFn × Registry :=
  match r.get? h with
  | some f =>
    (some f,
      { r with
        slots := r.slots.modify h.index fun s => ⟨s.generation + 1, none⟩
        live := r.live - 1 })
  | none => (none, r)

def entries : List HostFn := r.slots.toList.filterMap (·.entry)

def clear : List HostFn × Registry :=
  (r.entries,
    { r with
      slots := r.slots.map fun s => if s.entry.isSome then ⟨s.generation + 1, none⟩ else s
      cursor := 0
      live := 0 })

end Registry

end Embedding
