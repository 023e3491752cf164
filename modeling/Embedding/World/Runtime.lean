import Embedding.World.Basic

namespace Embedding

/-- What a runtime takes of memory, as far as it is told. -/
structure MemoryUsage where
  bytes : Nat
  objects : Nat
deriving DecidableEq, Inhabited

namespace World

def newRuntime (w : World) (config : Config) : RuntimeId × World :=
  (⟨w.runtimes.size⟩,
    { w with runtimes := w.runtimes.push { config } }.report (.runtimeCreated config.cleanup config.memoryLimit))

def teardown (w : World) (r : RuntimeId) : World :=
  if (w.runtime r).hasEngine then
    (w.modifyRuntime r fun s => { s with hasEngine := false }).report .engineReleased
  else w

/-- Counts a context as released; with the last one of a freed runtime the engine goes. -/
def closeContext (w : World) (r : RuntimeId) : World :=
  let w := w.modifyRuntime r fun s => { s with openContexts := s.openContexts - 1 }
  if (w.runtime r).openContexts = 0 && (w.runtime r).freed then w.teardown r else w

/-- Takes away what a context lends, which panics where its builtins or its registry are borrowed. -/
def takeAll (w : World) (c : ContextId) : World :=
  if (w.context c).machine.borrows = 0 then w.useRegistry c else { w with panicked := true }

def release (w : World) (c : ContextId) : World :=
  let s := w.context c
  if s.isReleased then w
  else
    let (stale, registry) := s.registry.clear
    let w := (w.takeAll c).report (.droppingCallbacks stale.length)
    let w := w.modifyContext c fun s => { s with isReleased := true, registry }
    (w.closeContext s.runtime).report .contextReleased

/-- Closes a runtime for new contexts. What was parked in it is to be released. -/
def closeRuntime (w : World) (r : RuntimeId) : World :=
  let parked := (w.runtime r).parked
  let w := w.modifyRuntime r fun s => { s with freed := true, parked := [] }
  if parked.isEmpty then w else w.report (.releasingParked parked.length)

def freeRuntime (w : World) (r : RuntimeId) : World :=
  let s := w.runtime r
  if s.freed then w
  else
    let w := s.parked.foldl release (w.closeRuntime r)
    match (w.runtime r).openContexts with
    | 0 => w.teardown r
    | n => w.report (.freedWithOpen n)

/-- Lets go of a runtime. Where only an explicit free tears anything down, its parked contexts stay. -/
def dropRuntime (w : World) (r : RuntimeId) : World :=
  let s := w.runtime r
  if s.freed then w
  else
    match s.config.cleanup, s.parked.length with
    | .finalizer, _ => w.freeRuntime r
    | .manual, 0 => w.report (.runtimeAbandoned s.openContexts)
    | .manual, n => w.report (.runtimeLeaked n)

/-- Why the engine of a runtime cannot be used from outside, if it cannot. -/
def runtimeObstacle? (w : World) (r : RuntimeId) : Option Error :=
  let s := w.runtime r
  if s.freed then some (.freed .runtime)
  else if s.entered then some .reentrant
  else none

def collect [Guest.Collector] (w : World) (r : RuntimeId) : World :=
  (w.contextsOf r).foldl (fun w c => w.collectIn c) w

def memoryUsage (w : World) (r : RuntimeId) : MemoryUsage :=
  let objects := (w.contextsOf r).foldl (fun n c => n + (w.context c).machine.objects.size) 0
  ⟨16384 + 64 * objects, objects⟩

end World

namespace RuntimeId

variable (r : RuntimeId)

def requireEngine : Attempt σ Unit := do
  match (← getThe World).runtimeObstacle? r with
  | some e => throw e
  | none => pure ()

def collect [Guest.Collector] : Attempt σ Unit := do
  r.requireEngine
  modifyThe World fun w => w.collect r

def memoryUsage : Attempt σ MemoryUsage := do
  r.requireEngine
  return (← getThe World).memoryUsage r

def description (s : RuntimeState) : String :=
  "Runtime \x7b freed: " ++ Event.boolName s.freed ++ ", contexts: " ++ toString s.openContexts ++ " \x7d"

end RuntimeId

end Embedding
