import Embedding.Guest.Bridge.Evaluate
import Embedding.World.Entry
import Embedding.World.Runtime

namespace Embedding

variable [Guest.Collector]

namespace World

def newContextObstacle? (w : World) (r : RuntimeId) : Option Error :=
  match w.runtimeObstacle? r, (w.runtime r).config.memoryLimit with
  | some e, _ => some e
  | none, some limit => if limit < w.memoryInUse r + contextFootprint then some (.engine .noMemory) else none
  | none, none => none

def addContext (w : World) (r : RuntimeId) : ContextId × World :=
  let config := (w.runtime r).config
  let machine :=
    { Guest.Realm.initial with
      depthLimit := callDepthLimit
      memoryLimit := config.memoryLimit }
  let registry := Registry.ofLimit config.maxCallbacks
  let w := { w with contexts := w.contexts.push { runtime := r, machine, registry, unmapped := config.unmapped } }
  let w := w.modifyRuntime r fun s => { s with openContexts := s.openContexts + 1 }
  (⟨w.contexts.size - 1⟩, w.report .contextCreated)

def dropPending (w : World) (c : ContextId) : World :=
  match (w.context c).pending with
  | some v => (w.modifyContext c fun s => { s with pending := none }).drop v
  | none => w

def freeContext (w : World) (c : ContextId) : World := (w.dropPending c).release c

def dropContext (w : World) (c : ContextId) : World :=
  let w := w.dropPending c
  if (w.context c).isReleased then w
  else
    match (w.runtimeOf c).config.cleanup with
    | .finalizer => w.release c
    | .manual =>
      (w.report .contextParked).modifyRuntime (w.context c).runtime fun s => { s with parked := s.parked ++ [c] }

end World

def RuntimeId.newContext (r : RuntimeId) : Attempt σ ContextId := do
  match (← getThe World).newContextObstacle? r with
  | some e => throw e
  | none => modifyGetThe World fun w => w.addContext r

namespace ContextId

variable (c : ContextId)

/-- Makes the value of some work the result of an evaluation; the one before goes first. -/
def evaluateWith (x : Guest.Bridge Guest.Value) : Attempt σ ValueRef := do
  modifyThe World fun w => w.dropPending c
  let v ← c.insideHolding x
  modifyThe World fun w => w.modifyContext c fun s => { s with pending := some v }
  return v

def evaluate (source : String) : Attempt σ ValueRef := c.evaluateWith (Guest.Bridge.evaluate source)

def evaluateBinary [Bytecode.Format] (b : Bytecode) : Attempt σ ValueRef := c.evaluateWith (Guest.Bridge.evaluateBinary b)

def compile [Bytecode.Format] (source : String) : Attempt σ Bytecode := c.inside (Guest.Bridge.compile source)

def globalObject : Attempt σ ValueRef :=
  c.insideHolding (pure (.object Guest.Intrinsic.globalObject))

/-- Registers a host function; the guest function that calls it is attached to nothing. -/
def register (f : HostFn) : Attempt σ (Handle × ValueRef) := do
  let (h, pin) ← c.inside do
    let (h, o) ← Guest.Bridge.expose f
    return (h, ← Guest.Bridge.pin (.object o))
  return (h, ⟨c, pin⟩)

def callbackCount (s : ContextState) : Nat := s.registry.live

def description (s : ContextState) : String :=
  "Context \x7b freed: " ++ Event.boolName s.isReleased ++ ", callbacks: " ++ toString (callbackCount s) ++ " \x7d"

end ContextId

end Embedding
