import Embedding.Guest.Operator

namespace Embedding.Guest

def Reaction.job (r : Reaction) (fulfilled : Bool) (v : Value) : List Value :=
  (if fulfilled then r.onFulfilled else r.onRejected) :: v :: r.settlers

namespace Act

def newPromise (state : PromiseState := .pending [] false) (proto : ObjectId := Intrinsic.promisePrototype) : Act ObjectId :=
  newObject proto (.promise state)

def enqueue (job : List Value) : Act Unit := modifyMachine fun m => { m with jobs := job :: m.jobs }

/-- Gives a promise that is open its value, or the reason for which it has none. -/
def closePromise (p : ObjectId) (fulfilled : Bool) (v : Value) : Act Unit := do
  match (← object p).payload with
  | .promise (.pending reactions _) =>
    setPayload p (.promise (if fulfilled then .fulfilled v else .rejected v))
    for r in reactions do
      enqueue (r.job fulfilled v)
  | _ => pure ()

/-- Settles a promise that is still open; one that is to follow another stays open. -/
def settlePromise (p : ObjectId) (fulfils : Bool) (v : Value) : Act Unit := do
  match (← object p).payload with
  | .promise (.pending reactions false) =>
    if !fulfils then closePromise p false v
    else if v.isObject then
      setPayload p (.promise (.pending reactions true))
      try
        let f ← get v "then"
        if ← isCallable f then enqueue [.object p, v, f] else closePromise p true v
      catch e => closePromise p false e
    else closePromise p true v
  | _ => pure ()

def settlingFunctions (p : ObjectId) : Act (Value × Value) := do
  let resolve ← newBuiltinFunction (.promise (.settle p true)) "" 1
  let reject ← newBuiltinFunction (.promise (.settle p false)) "" 1
  return (.object resolve, .object reject)

def isPromise (v : Value) : Act Bool := do
  match v with
  | .object o =>
    match (← object o).payload with
    | .promise _ => return true
    | _ => return false
  | _ => return false

def resolvedPromise (ctor v : Value) : Act Value := do
  if ← isPromise v then
    if (← get v "constructor") == ctor then return v
  let p ← newPromise
  settlePromise p true v
  return .object p

def react (p : ObjectId) (r : Reaction) : Act Unit := do
  match (← object p).payload with
  | .promise (.pending reactions resolved) => setPayload p (.promise (.pending (reactions ++ [r]) resolved))
  | .promise (.fulfilled v) => enqueue (r.job true v)
  | .promise (.rejected v) => enqueue (r.job false v)
  | _ => pure ()

/-- Lets a running function wait for a value, with all that it has taken hold of beyond so many roots. It never goes on. -/
def awaitValue (v : Value) (below : Nat) (result : Option ObjectId) : Act α := do
  let q ← resolvedPromise (.object Intrinsic.promiseConstructor) v
  let roots := (← machine).roots
  let held := roots.take (roots.length - below)
  let scopes := held.filterMap fun r =>
    match r with
    | .scope s => some s
    | .value _ => none
  let values := held.filterMap fun r =>
    match r with
    | .scope _ => none
    | .value v => some v
  let o ← alloc { proto := none, payload := .activation scopes (values ++ (result.map Value.object).toList) }
  match q with
  | .object p => react p ⟨.object o, .object o, []⟩
  | _ => pure ()
  stop .suspended

end Act

end Embedding.Guest
