import Embedding.Guest.Builtin.Collection
import Embedding.Guest.Builtin.Date
import Embedding.Guest.Builtin.Global
import Embedding.Guest.Builtin.Iterator
import Embedding.Guest.Builtin.Json
import Embedding.Guest.Builtin.Primitive
import Embedding.Guest.Builtin.Promise
import Embedding.Guest.Builtin.TypedArray

namespace Embedding.Guest.Act

def runBuiltin (b : Builtin) (this : Value) (args : List Value) (newTarget : Value) : Act Value :=
  match b with
  | .globals f => globalFn f this args newTarget
  | .object f => objectFn f this args newTarget
  | .function f => functionFn f this args newTarget
  | .error f => errorFn f this args newTarget
  | .array f => arrayFn f this args newTarget
  | .iterator f => iteratorFn f this args newTarget
  | .string f => stringFn f this args newTarget
  | .number f => numberFn f this args newTarget
  | .primitive f => primitiveFn f this args newTarget
  | .math f => mathFn f this args newTarget
  | .date f => dateFn f this args newTarget
  | .regexp f => regexpFn f this args newTarget
  | .collection f => collectionFn f this args newTarget
  | .buffer f => bufferFn f this args newTarget
  | .typedArray f => typedArrayFn f this args newTarget
  | .promise f => promiseFn f this args newTarget
  | .proxy f => proxyFn f this args newTarget
  | .reflect f => reflectFn f this args newTarget
  | .json f => jsonFn f this args newTarget
  | .species => return this

def inNativeFrame (o : ObjectId) (this : Value) (args : List Value) (x : Act Value) : Act Value := do
  let m ← machine
  if m.depthLimit ≤ m.depth then raise .internal "stack overflow"
  holding (this :: args) (inFrame ⟨some o, true, 0⟩ x)

def callBuiltin (o : ObjectId) (b : Builtin) (this : Value) (args : List Value) : Act Value :=
  inNativeFrame o this args do
    if b.requiresNew then raiseType "must be called with new"
    runBuiltin b this args .undefined

def constructBuiltin (o : ObjectId) (b : Builtin) (args : List Value) (newTarget : Value) : Act Value :=
  inNativeFrame o newTarget args (runBuiltin b .undefined args newTarget)

end Embedding.Guest.Act
