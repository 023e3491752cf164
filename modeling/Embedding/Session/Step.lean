import Embedding.World.Object

namespace Embedding.Session

/-- What a step does with the value that it has got, and how much of it is shown. -/
structure Showing where
  typeOnly : Bool := false
  described : Bool := false
  keepAs : Option String := none
deriving DecidableEq, Inhabited

/-- A program to run: a compiled one by its name, or bytes. -/
inductive ProgramSource where
  | named (name : String)
  | bytes (data : List UInt8)
deriving DecidableEq, Inhabited

inductive ValueStep where
  | type
  | toNative
  | toJson
  | coerceText
  | asObject
  | intoObject
  | describe
  | copy (keepAs : String)
  | drop
  | kind
  | objectToNative
  | get (name : String) (showing : Showing)
  | getIndex (index : Nat) (showing : Showing)
  | set (name : String) (value : Native)
  | setValue (name : String) (value : String)
  | call (name : String) (args : List Native) (showing : Showing)
  | setFunction (name : String) (function : HostFn) (handle : Option String)
  | view (as_ : View) (index : Option Nat) (showing : Showing)
deriving Inhabited

/-- Configurations are given as JSON; without one the default applies. -/
inductive Step where
  | newRuntime (runtime : String) (config : Option String)
  | dropRuntime (runtime : String)
  | freeRuntime (runtime : String)
  | runtimeState (runtime : String)
  | collect (runtime : String)
  | memoryUsage (runtime : String)
  | newContext (runtime context : String)
  | dropContext (context : String)
  | freeContext (context : String)
  | contextState (context : String)
  | evaluate (context source : String) (showing : Showing)
  | compile (context source program : String)
  | evaluateBinary (context : String) (program : ProgramSource) (showing : Showing)
  | globalObject (context : String) (keepAs : Option String)
  | register (context : String) (function : HostFn) (handle : Option String) (keepAs : Option String)
  | unregister (context handle : String)
  | value (name : String) (step : ValueStep)
deriving Inhabited

end Embedding.Session
