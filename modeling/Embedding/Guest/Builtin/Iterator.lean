import Embedding.Guest.Builtin.Array
import Embedding.Guest.Builtin.Collection
import Embedding.Guest.Builtin.String
import Embedding.Guest.Evaluate.Function

namespace Embedding.Guest.Act

def thisGenerator (this : Value) : Act (ObjectId × GeneratorState) := do
  match this with
  | .object o =>
    match (← object o).payload with
    | .generator state => return (o, state)
    | _ => raiseType "not a generator"
  | _ => raiseType "not a generator"

def collectYields (f : ObjectId) (this : Value) (args : List Value) : Act GeneratorState := do
  match (← object f).payload with
  | .function c =>
    let id ← newCollection
    let collected : Act (List Value) := do
      let vs := ((((← machine).collections)[id]?.getD []).map (·.headD .undefined)).reverse
      clearCollection id
      return vs
    let run : Act Value := inGuestFrame (some f) c.node.info.line do
      let env ← openFunction f c this .undefined args
      runBody { env with yields := some id } c args
    try
      onStop (do
        let r ← run
        return .collected (← collected) r false true) fun why => do
          if why == .suspended then return .collected (← collected) .undefined false false else stop why
    catch e => return .collected (← collected) e true true
  | _ => return .done

def drawValue (o : ObjectId) : GeneratorState → Act Value
  | .fresh .. | .done => iterResult .undefined true
  | .collected (v :: rest) r failed finished => do
    setPayload o (.generator (.collected rest r failed finished))
    iterResult v false
  | .collected [] r failed finished => do
    if !finished then stop .suspended
    setPayload o (.generator .done)
    if failed then throw r else iterResult r true

def generatorNext (this : Value) : Act Value := do
  let (o, state) ← thisGenerator this
  match state with
  | .fresh f this args =>
    setPayload o (.generator .done)
    drawValue o (← holding [.object f, this] (holding args (collectYields f this args)))
  | state => drawValue o state

def iteratorFn (f : IteratorFn) (this : Value) (args : List Value) (_newTarget : Value) : Act Value := do
  match f with
  | .self => return this
  | .arrayNext => arrayIteratorNext this
  | .mapNext => mapIteratorNext this
  | .setNext => setIteratorNext this
  | .textNext => textIteratorNext this
  | .matchNext => matchIteratorNext this
  | .generatorNext => generatorNext this
  | .generatorReturn =>
    let (o, _) ← thisGenerator this
    setPayload o (.generator .done)
    iterResult (arg args 0) true
  | .generatorThrow =>
    let (o, _) ← thisGenerator this
    setPayload o (.generator .done)
    throw (arg args 0)

end Embedding.Guest.Act
