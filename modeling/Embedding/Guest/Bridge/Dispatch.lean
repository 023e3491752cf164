import Embedding.Guest.Bridge.OfNative
import Embedding.Guest.Bridge.ToNative

namespace Embedding.Guest.Bridge

/-- Throws an error that the host has made; it has no trace until it passes guest code. The text is assigned to it, as
guest code would do it. -/
def raiseMessage (message : String) : Act α := do
  let o ← Act.newObject (Intrinsic.errorPrototype .error) .error
  Act.put (.object o) "message" (.ofString message)
  throw (Value.object o)

def orThrow (x : Bridge α) : Act α := do
  match ← x.run with
  | .ok a => return a
  | .error e => raiseMessage e.message

def callHost (h : Handle) (args : List Value) : Act Value := do
  match ← Act.callHost h (args.mapM toNative).run with
  | none => raiseMessage ("host callback #" ++ toString h.index ++ " is no longer registered")
  | some (.error e) => raiseMessage e.message
  | some (.ok (.error message)) => raiseMessage message
  | some (.ok (.ok result)) => orThrow (ofNative result)

end Embedding.Guest.Bridge
