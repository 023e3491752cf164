import Embedding.Guest.Engine
import Embedding.Guest.Realm

namespace Embedding

structure RuntimeId where
  index : Nat
deriving DecidableEq, Inhabited

structure ContextId where
  index : Nat
deriving DecidableEq, Inhabited

structure ValueRef where
  context : ContextId
  pin : Nat
deriving DecidableEq, Inhabited

structure RuntimeState where
  config : Config := {}
  openContexts : Nat := 0
  freed : Bool := false
  hasEngine : Bool := true
  entered : Bool := false
  parked : List ContextId := []
deriving Inhabited

/-- What a guest function holds that calls a host function. The engine lets go of it when it frees the function. -/
structure Lease where
  function : Guest.ObjectId
  handle : Handle
deriving DecidableEq, Inhabited

structure ContextState where
  runtime : RuntimeId := ⟨0⟩
  machine : Guest.Machine := {}
  registry : Registry := Registry.ofLimit 1
  /-- The leases of the guest functions that have not been freed, the last one first. -/
  leases : List Lease := []
  unmapped : Unmapped := .null
  isReleased : Bool := false
  pins : Guest.Pins := {}
  /-- The calls that guest code has begun and not made yet. Each holds on to the function that it has found. -/
  begun : List PendingCall := []
  /-- The programs of which it is not known how their functions were written. -/
  forgotten : List Nat := []
  pending : Option ValueRef := none
deriving Inhabited

structure World where
  runtimes : Array RuntimeState := #[]
  contexts : Array ContextState := #[]
  events : List Event := []
  borrowed : List ContextId := []
  /-- Whether an operation of the host has panicked because what it needed was borrowed. What comes after that does not
  count. -/
  panicked : Bool := false
deriving Inhabited

namespace World

variable (w : World)

def runtime (r : RuntimeId) : RuntimeState := w.runtimes.getD r.index default

def context (c : ContextId) : ContextState := w.contexts.getD c.index default

/-- Whether the host has panicked in an operation, or in its work on a machine. -/
def hasPanicked : Bool := w.panicked || w.contexts.any fun s => s.machine.panicked

def runtimeOf (c : ContextId) : RuntimeState := w.runtime (w.context c).runtime

def modifyRuntime (r : RuntimeId) (f : RuntimeState → RuntimeState) : World :=
  { w with runtimes := w.runtimes.modify r.index f }

def modifyContext (c : ContextId) (f : ContextState → ContextState) : World :=
  { w with contexts := w.contexts.modify c.index f }

def report (e : Event) : World := { w with events := e :: w.events }

def setMachine (c : ContextId) (m : Guest.Machine) : World :=
  w.modifyContext c fun s => { s with machine := m }

/-- Borrows the registry of a context to change it, which panics where it is borrowed already. -/
def useRegistry (c : ContextId) : World := if c ∈ w.borrowed then { w with panicked := true } else w

def lendRegistry (c : ContextId) : World := { w with borrowed := c :: w.borrowed }

def takeBackRegistry (c : ContextId) : World := { w with borrowed := w.borrowed.filter (· ≠ c) }

/-- Takes a host function out of the registry of a context, if it is still there. -/
def unregister (c : ContextId) (h : Handle) : Bool × World :=
  let w := w.useRegistry c
  match (w.context c).registry.remove h with
  | (some _, r) => (true, (w.modifyContext c fun s => { s with registry := r }).report (.unregistered h.index))
  | (none, _) => (false, w)

def unregisterAll (c : ContextId) (hs : List Handle) : World :=
  hs.foldl (fun w h => (w.unregister c h).2) w

/-- Lets go of the leases of the functions at some places, and ends their registrations. -/
def endLeases (c : ContextId) (places : List Nat) : World :=
  let ended := places.filterMap fun o => (w.context c).leases.find? (·.function = o)
  (w.modifyContext c fun s => { s with leases := s.leases.filter (·.function ∉ places) }).unregisterAll c
    (ended.map (·.handle))

section

variable [Guest.Collector]

def reap (c : ContextId) : World :=
  let s := w.context c
  if s.leases.isEmpty then w else w.endLeases c (Guest.Collector.freed s.machine s.pins.values)

def collectIn (c : ContextId) : World :=
  let s := w.context c
  if s.leases.isEmpty then w else w.endLeases c (Guest.Collector.unreachable s.machine s.pins.values)

end

def contextsOf (r : RuntimeId) : List ContextId :=
  (List.range w.contexts.size).filterMap fun i => if (w.context ⟨i⟩).runtime = r then some ⟨i⟩ else none

def pin (c : ContextId) (v : Guest.Value) : Nat × World :=
  let s := w.context c
  let isThere := (Guest.Target.ofValue v).all (Guest.Target.isKnown s.machine.objects.size)
  let (id, pins) := s.pins.add (if isThere then v else .undefined)
  (id, w.modifyContext c fun s => { s with pins })

def copy (v : ValueRef) : ValueRef × World :=
  let (id, w) := w.pin v.context (((w.context v.context).pins.find? v.pin).getD .undefined)
  (⟨v.context, id⟩, w)

def drop [Guest.Collector] (v : ValueRef) : World :=
  (w.modifyContext v.context fun s => { s with pins := s.pins.remove v.pin }).reap v.context

end World

/-- The host's side of the calls that guest code makes. It has a state of its own. -/
structure Handler (σ : Type) where
  /-- Calls a function. The answer is a host value or the text of a failure. -/
  call : HostFn → List Native → StateT World (StateM σ) (Except String Native)
  /-- Drops a function. What it owned goes with it, unless something else holds on to it. -/
  drop : HostFn → StateT World (StateM σ) Unit

abbrev Work (σ : Type) := ReaderT (Handler σ) (StateT World (StateM σ))

abbrev Attempt (σ : Type) := ExceptT Error (Work σ)

end Embedding
