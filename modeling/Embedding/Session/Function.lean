import Embedding.Session.Step

namespace Embedding.Session

/-- What a host function fails with: its text and those of the causes, the outermost first. -/
structure HostFailure where
  texts : List String
deriving DecidableEq, Inhabited

namespace HostFailure

variable (f : HostFailure)

def message : String := f.texts.headD ""

def chain : String := ": ".intercalate f.texts

def ofError (e : Error) : HostFailure := ⟨e.chain⟩

end HostFailure

inductive Behaviour where
  | echo
  | first
  | count
  | sum
  | numericSum
  | concat
  | flatten
  | shapes
  | setOf
  | const (value : Native)
  /-- Fails with a message that contexts are wrapped around, the last one outermost. -/
  | fail (message : String) (contexts : List String)
  /-- Carries out steps; a strict one fails with the first that fails. -/
  | steps (steps : List Step) (strict : Bool)
deriving Inhabited

structure HostFunction where
  behaviour : Behaviour
  label : Option String := none
deriving Inhabited

namespace Behaviour

def sumDoubles (ds : List Double) : Double := ds.foldl Double.add Double.negativeZero

def answer (args : List Native) : Behaviour → Except HostFailure Native
  | echo => .ok (.array args)
  | first => .ok (args.headD .null)
  | count => .ok (.ofUnsigned args.length.toUInt64)
  | sum => .ok (.int ((args.filterMap Native.int?).foldl (· + ·) 0))
  | numericSum => .ok (.float (sumDoubles (args.filterMap Native.double?)))
  | concat => .ok (.string (String.join (args.filterMap Native.string?)))
  | flatten => .ok (.array (args.filterMap Native.items?).flatten)
  | shapes => .ok (.array (args.map fun a => .string a.shape))
  | setOf => .ok (.set args)
  | const v => .ok v
  | fail message contexts => .error ⟨contexts.reverse ++ [message]⟩
  | steps _ _ => .ok (.bool true)

end Behaviour

end Embedding.Session
