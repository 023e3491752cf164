import Embedding.Callback
import Embedding.Config
import Embedding.Guest.Syntax.Tree
import Embedding.Kind
import Embedding.Text.Quoted

namespace Embedding

/-- What the work of guest code gives cause to report. -/
inductive Note where
  | evaluating (kind : Guest.SourceKind) (length : Nat) (compileOnly : Bool)
  | compiled (length : Nat)
  | kindResolved (kind : Kind)
  | unmappedAsNull
deriving Inhabited

inductive Event where
  | runtimeCreated (cleanup : Cleanup) (memoryLimit : Option Nat)
  | releasingParked (count : Nat)
  | freedWithOpen (open_ : Nat)
  | engineReleased
  | runtimeLeaked (parked : Nat)
  | runtimeAbandoned (contexts : Nat)
  | contextCreated
  | contextParked
  | droppingCallbacks (count : Nat)
  | contextReleased
  | registered (h : Handle)
  | unregistered (index : Nat)
  | exposed (name : String) (index : Nat)
  | noted (n : Note)
deriving Inhabited

inductive Level
  | trace
  | debug
  | warn
deriving DecidableEq

namespace Level

def name : Level → String
  | trace => "TRACE"
  | debug => "DEBUG"
  | warn => "WARN"

end Level

namespace Event

def level : Event → Level
  | runtimeLeaked _ | contextParked | noted .unmappedAsNull => .warn
  | noted (.kindResolved _) => .trace
  | _ => .debug

def source : Event → String
  | runtimeCreated .. | releasingParked _ | freedWithOpen _ | engineReleased | runtimeLeaked _ | runtimeAbandoned _ =>
    "runtime"
  | contextCreated | contextParked | droppingCallbacks _ | contextReleased | registered _ | unregistered _ => "context"
  | exposed .. => "object"
  | noted (.evaluating ..) | noted (.compiled _) => "bytecode"
  | noted (.kindResolved _) => "kind"
  | noted .unmappedAsNull => "convert"

def cleanupName : Cleanup → String
  | .finalizer => "Finalizer"
  | .manual => "Manual"

def sizeName : Option Nat → String
  | some n => "Some(" ++ toString n ++ ")"
  | none => "None"

def sourceKindName : Guest.SourceKind → String
  | .script => "Script"
  | .module => "Module"

def boolName (b : Bool) : String := if b then "true" else "false"

def message : Event → String
  | runtimeCreated cleanup limit =>
    "runtime created cleanup=" ++ cleanupName cleanup ++ " memory_limit=" ++ sizeName limit
  | releasingParked n => "releasing parked contexts count=" ++ toString n
  | freedWithOpen n => "runtime freed with open contexts open=" ++ toString n
  | engineReleased => "engine released"
  | runtimeLeaked n =>
    "runtime dropped without free; parked contexts and the engine are leaked parked=" ++ toString n
  | runtimeAbandoned n =>
    "runtime dropped without free; engine released with its last context contexts=" ++ toString n
  | contextCreated => "context created"
  | contextParked => "context dropped without free; parked until the runtime is freed"
  | droppingCallbacks n => "dropping host callbacks callbacks=" ++ toString n
  | contextReleased => "context released"
  | registered h => "registered host callback index=" ++ toString h.index ++ " generation=" ++ toString h.generation
  | unregistered i => "unregistered host callback index=" ++ toString i
  | exposed name i => "host function exposed name=" ++ quoted name ++ " index=" ++ toString i
  | noted (.evaluating kind length compileOnly) =>
    "evaluating source kind=" ++ sourceKindName kind ++ " len=" ++ toString length ++ " compile_only=" ++
      boolName compileOnly
  | noted (.compiled n) => "compiled program len=" ++ toString n
  | noted (.kindResolved k) => "resolved object kind kind=" ++ k.constructorName
  | noted .unmappedAsNull => "opaque host value has no guest form; passing null"

def text (e : Event) : String := e.level.name ++ " tether_script::" ++ e.source ++ ": " ++ e.message

end Event

end Embedding
