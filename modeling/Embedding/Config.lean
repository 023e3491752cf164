import Embedding.Json.Reader

namespace Embedding

inductive Cleanup
  | finalizer
  /-- Only an explicit free tears anything down; a context dropped before is parked. -/
  | manual
deriving DecidableEq, Inhabited

/-- What happens to host values that have no guest form. -/
inductive Unmapped
  | null
  | error
deriving DecidableEq, Inhabited

structure Config where
  cleanup : Cleanup := .finalizer
  unmapped : Unmapped := .null
  memoryLimit : Option Nat := none
  maxStackSize : Option Nat := none
  gcThreshold : Option Nat := none
  maxCallbacks : Nat := 4096
deriving DecidableEq, Inhabited

namespace Cleanup

def name : Cleanup → String
  | finalizer => "finalizer"
  | manual => "manual"

def names : List (String × Cleanup) := [("finalizer", finalizer), ("manual", manual)]

end Cleanup

namespace Unmapped

def name : Unmapped → String
  | null => "null"
  | error => "error"

def names : List (String × Unmapped) := [("null", null), ("error", error)]

end Unmapped

namespace Config

def default : Config := {}

def sizeText : Option Nat → Json.Value
  | none => .null
  | some n => .int n

def members (c : Config) : List (String × Json.Value) :=
  [("cleanup", .string c.cleanup.name),
   ("unmapped", .string c.unmapped.name),
   ("memory_limit", sizeText c.memoryLimit),
   ("max_stack_size", sizeText c.maxStackSize),
   ("gc_threshold", sizeText c.gcThreshold),
   ("max_callbacks", .int c.maxCallbacks)]

def encode (c : Config) : String := (Json.Value.object c.members).text

inductive Field
  | cleanup
  | unmapped
  | memoryLimit
  | maxStackSize
  | gcThreshold
  | maxCallbacks
deriving DecidableEq

namespace Field

def all : List Field := [cleanup, unmapped, memoryLimit, maxStackSize, gcThreshold, maxCallbacks]

def name : Field → String
  | cleanup => "cleanup"
  | unmapped => "unmapped"
  | memoryLimit => "memory_limit"
  | maxStackSize => "max_stack_size"
  | gcThreshold => "gc_threshold"
  | maxCallbacks => "max_callbacks"

def ofName? (s : String) : Option Field := all.find? fun f => f.name == s

open Json.Reader

def read (f : Field) (c : Config) : Json.Reader Config :=
  match f with
  | cleanup => do
    return { c with cleanup := ← variant Cleanup.names "`finalizer` or `manual`" }
  | unmapped => do
    return { c with unmapped := ← variant Unmapped.names "`null` or `error`" }
  | memoryLimit => do return { c with memoryLimit := ← optional size }
  | maxStackSize => do return { c with maxStackSize := ← optional size }
  | gcThreshold => do return { c with gcThreshold := ← optional size }
  | maxCallbacks => do return { c with maxCallbacks := ← size }

end Field

open Json.Reader

/-- Reads the members of an object. A member may be given once; unknown members are passed over. -/
def readMembers : Nat → Bool → List Field → Config → Json.Reader Config
  | 0, _, _, c => pure c
  | n + 1, first, seen, c => do
    if ← anotherMember first then
      advance
      match Field.ofName? (← stringBody) with
      | some f =>
        if f ∈ seen then failLater (.duplicateField f.name)
        else
          colon
          readMembers n false (f :: seen) (← f.read c)
      | none =>
        colon
        skipAny
        readMembers n false seen c
    else return c

def readItems (first : Bool) : List Field → Config → Json.Reader Config
  | [], c => pure c
  | f :: rest, c => do
    if ← anotherItem first then readItems false rest (← f.read c) else return c

def read : Json.Reader Config := do
  match ← peekToken? with
  | none => failNext .endInValue
  | some c =>
    placed do
      if c = '\x7b' then
        advance
        let fuel := (← get).rest.length + 1
        enclosed (readMembers fuel true [] default) closeObject
      else if c = '[' then
        advance
        enclosed (readItems true Field.all default) closeSequence
      else refuse "struct Config"

def decode (s : String) : Except Json.Failure Config := Json.Reader.run read s

/-- The configuration of a process, which its first use settles for good. -/
structure Settled where
  config : Option Config := none
deriving DecidableEq, Inhabited

namespace Settled

/-- The configuration in use; without one it is the default from now on. -/
def current (s : Settled) : Config × Settled :=
  let c := s.config.getD default
  (c, ⟨some c⟩)

/-- Installs a configuration. Once one is settled, the new one is handed back. -/
def install (s : Settled) (c : Config) : Option Config × Settled :=
  match s.config with
  | none => (none, ⟨some c⟩)
  | some _ => (some c, s)

end Settled

end Config

end Embedding
