import Embedding.Guest.Builtin.Buffer
import Embedding.Guest.Promise

namespace Embedding.Guest.Act

def thisPromise (this : Value) : Act ObjectId := do
  match this with
  | .object o =>
    match (← object o).payload with
    | .promise _ => return o
    | _ => raiseType "Promise object expected"
  | _ => raiseType "Promise object expected"

def constructPromise (args : List Value) (newTarget : Value) : Act Value := do
  let executor := arg args 0
  if !(← isCallable executor) then raiseType "not a function"
  let p ← newPromise (.pending [] false) (← protoOfTarget newTarget Intrinsic.promisePrototype)
  holding [.object p] do
    let (resolve, reject) ← settlingFunctions p
    try
      let _ ← call executor .undefined [resolve, reject]
    catch e => settlePromise p false e
    return .object p

def combinePromises (this items : Value) (whenEmpty : Option (List Value → Act Value)) : Act Value := do
  let p ← newPromise
  holding [.object p] do
    try
      let resolve ← get this "resolve"
      if !(← isCallable resolve) then raiseType "not a function"
      let (yes, no) ← settlingFunctions p
      let count ← (do
        let vs ← iterableToList items
        for v in vs do
          let q ← call resolve this [v]
          let _ ← invoke q "then" [yes, no]
        return vs.length)
      if count = 0 then
        match whenEmpty with
        | some f => settlePromise p true (← f [])
        | none => pure ()
    catch e => settlePromise p false e
    return .object p

def promiseFn (f : PromiseFn) (this : Value) (args : List Value) (newTarget : Value) : Act Value := do
  let a := arg args 0
  let list (vs : List Value) : Act Value := do return .object (← newArray vs)
  match f with
  | .construct => constructPromise args newTarget
  | .resolve =>
    if !this.isObject then raiseType "not an object"
    resolvedPromise this a
  | .reject =>
    if !this.isObject then raiseType "not an object"
    return .object (← newPromise (.rejected a))
  | .thenDo =>
    let p ← thisPromise this
    let _ ← speciesOf this (.object Intrinsic.promiseConstructor)
    let q ← newPromise
    let (resolve, reject) ← settlingFunctions q
    let handler (v : Value) : Act Value := do return if ← isCallable v then v else .undefined
    react p ⟨← handler a, ← handler (arg args 1), [resolve, reject]⟩
    return .object q
  | .catchWith => invoke this "then" [.undefined, a]
  | .finallyDo =>
    let _ ← speciesOf this (.object Intrinsic.promiseConstructor)
    invoke this "then" [a, a]
  | .all => combinePromises this a (some list)
  | .allSettled => combinePromises this a (some list)
  | .any => combinePromises this a none
  | .race => combinePromises this a none
  | .withResolvers =>
    let p ← newPromise
    let (resolve, reject) ← settlingFunctions p
    let o ← newObject Intrinsic.objectPrototype
    putProperty o "promise" (.plain (.object p))
    putProperty o "resolve" (.plain resolve)
    putProperty o "reject" (.plain reject)
    return .object o
  | .settle p fulfils =>
    settlePromise p fulfils a
    return .undefined

end Embedding.Guest.Act
