import Embedding.Text.Blank

namespace Embedding

/-- A guest exception after it has been taken out of the engine. -/
structure Exception where
  cause : String
  stack : Option String
deriving DecidableEq, Inhabited

namespace Exception

/-- The cause and, on the next lines, the trace without blanks at its end. -/
def message (e : Exception) : String :=
  match e.stack with
  | some s => e.cause ++ "\n" ++ trimEndBlanks s
  | none => e.cause

end Exception

inductive EngineFailure where
  | wrongType (found wanted : String)
  | badText (offset : Nat)
  | noMemory
  | interrupted
deriving DecidableEq, Inhabited

namespace EngineFailure

def message : EngineFailure → String
  | wrongType found wanted => "Error converting from js '" ++ found ++ "' into type '" ++ wanted ++ "'"
  | badText offset =>
    "Conversion from string failed: invalid utf-8 sequence of 1 bytes from index " ++ toString offset
  | noMemory => "Allocation failed while creating object"
  | interrupted => "Interrupted"

end EngineFailure

inductive Resource
  | runtime
  | context
deriving DecidableEq, Inhabited

namespace Resource

def name : Resource → String
  | runtime => "runtime"
  | context => "context"

end Resource

inductive Error where
  | compile (e : Exception)
  | eval (e : Exception)
  | conversion (source target : String)
  | freed (what : Resource)
  | reentrant
  | registryFull (limit : Nat)
  | invalidSource (offset : Nat)
  | engine (why : EngineFailure)
deriving DecidableEq, Inhabited

namespace Error

def message : Error → String
  | compile e => "compile error: " ++ e.message
  | eval e => "uncaught exception: " ++ e.message
  | conversion source target => "cannot convert " ++ source ++ " to " ++ target
  | freed what => what.name ++ " has already been freed"
  | reentrant => "engine is already running; host callbacks cannot re-enter it"
  | registryFull limit => "callback registry is full (" ++ toString limit ++ " live entries)"
  | invalidSource offset => "source contains an interior NUL byte at offset " ++ toString offset
  | engine why => "engine error: " ++ why.message

def chain (e : Error) : List String :=
  match e with
  | engine why => [e.message, why.message]
  | _ => [e.message]

def exception? : Error → Option Exception
  | compile e => some e
  | eval e => some e
  | _ => none

end Error

end Embedding
