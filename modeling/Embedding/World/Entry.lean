import Embedding.World.Basic

namespace Embedding

/-- The memory that a context takes by itself. How much it is depends on how the engine has been built. -/
def contextFootprint : Nat := 230000

/-- How deep calls are nested at most, in place of the bytes that they take on the stack of the engine. -/
def callDepthLimit : Nat := 300

namespace Guest.Machine

def atRest (m : Machine) : Machine := { m with roots := [], frames := [], depth := 0, memory := 0 }.mended

end Guest.Machine

variable [Guest.Collector]

namespace World

variable (w : World) (c : ContextId)

def contextObstacle? : Option Error :=
  if (w.context c).isReleased then some (.freed .context)
  else if (w.runtimeOf c).entered then some .reentrant
  else none

def memoryInUse (r : RuntimeId) : Nat :=
  (((w.contextsOf r).map w.context).filter (!·.isReleased)).foldl
    (fun n s => n + contextFootprint + s.machine.storageInUse s.pins.values) 0

/-- The machine of a context for work from outside. The contexts of a runtime share its memory. -/
def machineFor : Guest.Machine :=
  let s := w.context c
  match s.machine.memoryLimit with
  | some _ => { s.machine with memory := w.memoryInUse s.runtime }
  | none => s.machine

def enter : World := w.modifyRuntime (w.context c).runtime fun r => { r with entered := true }

def leave : World :=
  let w := w.modifyContext c fun s => { s with machine := s.machine.atRest, begun := [] }
  (w.reap c).modifyRuntime (w.context c).runtime fun r => { r with entered := false }

/-- Keeps a host function in the registry of a context. The guest function that calls it is the next object that
the machine makes, and holds its handle. -/
def register (f : HostFn) : Except Error Handle × World :=
  if (w.context c).isReleased then (.error (.freed .context), w)
  else
    let w := w.reap c
    match (w.context c).registry.insert f with
    | .ok (h, r) =>
      (.ok h, (w.modifyContext c fun s =>
        { s with registry := r, leases := ⟨s.machine.objects.size, h⟩ :: s.leases }).report (.registered h))
    | .error e => (.error e, w)

def beginCall (h : Handle) : Option HostFn × World :=
  match (w.context c).registry.get? h with
  | some f => (some f, w.modifyContext c fun s => { s with begun := ⟨h, f⟩ :: s.begun })
  | none => (none, w)

def answer : (q : Guest.Query) → q.Reply × World
  | .isReleased => ((w.context c).isReleased, w)
  | .unmapped => ((w.context c).unmapped, w)
  | .register f => w.register c f
  | .pin v => w.pin c v
  | .pinned id => ((w.context c).pins.find? id, w)
  | .beginCall h => w.beginCall c h
  | .dropCall call => ((), w.modifyContext c fun s => { s with begun := s.begun.erase call })
  | .forgetTexts n => ((), w.modifyContext c fun s => { s with forgotten := n :: s.forgotten })
  | .remembersTexts n => (!(w.context c).forgotten.contains n, w)
  | .report n => ((), (w.reap c).report (.noted n))

/-- A call that was begun is made now. The host finds what the engine has freed gone. -/
def makeCall (call : PendingCall) : World :=
  (w.reap c).modifyContext c fun s => { s with begun := s.begun.erase call }

end World

def Guest.Query.refused? : (q : Guest.Query) → q.Reply → Option HostFn
  | .register f, .error (.registryFull _) => some f
  | _, _ => none

/-- Follows a run to its end. The context answers what the run asks, and the handler makes the calls of host
functions and drops those that are refused. -/
def Handler.follow (handler : Handler σ) (c : ContextId) :
    Guest.Run (Except Error α) → StateT World (StateM σ) (Except Error α)
  | .done a m => do
    modify fun w => w.setMachine c m
    return a
  | .threw _ m => do
    modify fun w => w.setMachine c m
    return .error (.engine .interrupted)
  | .stopped _ m => do
    modify fun w => w.setMachine c m
    return .error (.engine .interrupted)
  | .ask q m resume => do
    modify fun w => w.setMachine c m
    let reply ← modifyGet fun w => w.answer c q
    if let some f := q.refused? reply then
      -- it is dropped where the registry was to keep it
      modify fun w => w.lendRegistry c
      handler.drop f
      modify fun w => w.takeBackRegistry c
    follow handler c (resume reply)
  | .call call args m resume => do
    modify fun w => (w.setMachine c m).makeCall c call
    let reply ← handler.call call.function args
    follow handler c (resume reply)

namespace ContextId

variable (c : ContextId)

def ofResult (r : Except Error α) : Attempt σ α := ExceptT.mk (pure r)

def requireEntry : Attempt σ Unit := do
  match (← getThe World).contextObstacle? c with
  | some e => throw e
  | none => pure ()

def inside (x : Guest.Bridge α) : Attempt σ α := do
  c.requireEntry
  modifyThe World fun w => w.enter c
  let w ← getThe World
  let handler ← read
  let result ← ExceptT.lift (handler.follow c (x.caught.run Guest.Engine.standard (w.machineFor c)))
  modifyThe World fun w => w.leave c
  ofResult result

/-- Runs work inside a context and holds on to the value that comes out. -/
def insideHolding (x : Guest.Bridge Guest.Value) : Attempt σ ValueRef := do
  let pin ← c.inside do
    let v ← x
    Guest.Bridge.pin v
  return ⟨c, pin⟩

end ContextId

end Embedding
