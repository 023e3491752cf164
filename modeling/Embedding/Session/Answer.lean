import Embedding.Session.Function
import Embedding.World.Context

namespace Embedding.Session

inductive Problem where
  | error (e : Error)
  | config (f : Json.Failure)
  | unknownName (name : String)
  | busy
  | panicked

namespace Problem

def message : Problem → String
  | error e => e.message
  | config f => f.text
  | unknownName name => "no such name " ++ quoted name
  | busy => "context is busy"
  | panicked => "panic"

end Problem

/-- How a value is shown: either part can fail by itself. -/
structure Shown where
  type : Except Error ValueType
  native : Option (Except Error Native)
  description : Option String := none

structure ViewAnswer where
  view : View
  count : Nat
  contents : Native
  kind : Kind
  item : Option Shown

inductive Answer where
  | nothing
  | bool (b : Bool)
  | text (s : String)
  | native (v : Native)
  | config (c : Config)
  | runtimeState (s : RuntimeState)
  | contextState (s : ContextState)
  | memory (u : MemoryUsage)
  | compiled (b : Bytecode)
  | handle (h : Handle)
  | type (t : ValueType) (isObject : Bool)
  | shown (s : Shown)
  | view (a : ViewAnswer)

inductive Record where
  | call (label : String) (args : List Native)
  | outcome (o : Except Problem Answer)

structure StepResult where
  outcome : Except Problem Answer
  calls : List Record
  log : List Event

def StepResult.problem? (r : StepResult) : Option Problem :=
  match r.outcome with
  | .error p => some p
  | .ok _ => none

end Embedding.Session
