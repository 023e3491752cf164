import Embedding.Guest.Bridge.Dispatch
import Embedding.Guest.Builtin.Dispatch
import Embedding.Guest.Evaluate.Program

namespace Embedding.Guest

namespace Act

def callProxy (f target handler this : Value) (args : List Value) (callable revoked : Bool) : Act Value := do
  if revoked then raiseType "revoked proxy"
  let trap ← get handler "apply"
  if !callable then raiseType "not a function"
  holding [f] do
    if trap.isNullish then call target this args
    else call trap handler [target, this, .object (← newArray args)]

def constructProxy (target handler : Value) (args : List Value) (newTarget : Value) (revoked : Bool) :
    Act Value := do
  if revoked then raiseType "revoked proxy"
  let trap ← get handler "construct"
  if !(← isConstructor target) then raiseType "not a constructor"
  if trap.isNullish then construct target args newTarget
  else
    let r ← call trap handler [target, .object (← newArray args), newTarget]
    if r.isObject then return r else raiseType "not an object"

def callValue (f this : Value) (args : List Value) : Act Value := do
  match f with
  | .object o =>
    match (← object o).payload with
    | .function c => callFunction o c this args
    | .builtin b => callBuiltin o b this args
    | .bound target boundThis boundArgs _ => call target boundThis (boundArgs ++ args)
    | .host h => holding (f :: args) (Bridge.callHost h args)
    | .collector id =>
      modifyMachine fun m => { m with collections := m.collections.modify id fun calls => args :: calls }
      return .undefined
    | .proxy target handler callable _ revoked => callProxy f target handler this args callable revoked
    | _ => raiseType "not a function"
  | _ => raiseType "not a function"

def constructValue (f : Value) (args : List Value) (newTarget : Value) : Act Value := do
  match f with
  | .object o =>
    let x ← object o
    if !x.isConstructor then raiseType "not a constructor"
    match x.payload with
    | .function c => constructFunction o c args newTarget
    | .builtin b => constructBuiltin o b args newTarget
    | .bound target _ boundArgs _ =>
      construct target (boundArgs ++ args) (if newTarget == f then target else newTarget)
    | .proxy target handler _ _ revoked => constructProxy target handler args newTarget revoked
    | _ => raiseType "not a constructor"
  | _ => raiseType "not a constructor"

def unlessProxy (o : ObjectId) (proxyRule : (target handler : Value) → (revoked : Bool) → Act α)
    (plainRule : Object → Act α) : Act α := do
  let x ← object o
  match x.payload with
  | .proxy target handler _ _ revoked => proxyRule target handler revoked
  | _ => plainRule x

def getOwnRule (o : ObjectId) (k : Key) : Act (Option Property) :=
  unlessProxy o (fun t h r => proxyGetOwn t h r k) fun x => plainOwn o x k

def defineRule (o : ObjectId) (k : Key) (d : Descriptor) : Act (Option Refusal) :=
  unlessProxy o (fun t h r => proxyDefine t h r k d) fun _ => plainDefine o k d

def hasRule (o : ObjectId) (k : Key) : Act Bool :=
  unlessProxy o (fun t h r => proxyHas t h r k) fun _ => plainHas o k

def getRule (o : ObjectId) (k : Key) (receiver : Value) : Act Value :=
  unlessProxy o (fun t h r => proxyGet t h r k receiver) fun _ => plainGet o k receiver

def setRule (o : ObjectId) (k : Key) (v receiver : Value) : Act (Option Refusal) :=
  unlessProxy o (fun t h r => proxySet t h r k v receiver) fun _ => plainSet o k v receiver

def deleteRule (o : ObjectId) (k : Key) : Act Bool :=
  unlessProxy o (fun t h r => proxyDelete t h r k) fun _ => plainDelete o k

def ownKeysRule (o : ObjectId) : Act (List Key) :=
  unlessProxy o proxyKeys fun x => return plainKeys x

def prototypeRule (o : ObjectId) : Act (Option ObjectId) :=
  unlessProxy o proxyPrototype fun x => return x.proto

def setPrototypeRule (o : ObjectId) (p : Option ObjectId) : Act (Option Refusal) :=
  unlessProxy o (fun t h r => proxySetPrototype t h r p) fun _ => plainSetPrototype o p

def isExtensibleRule (o : ObjectId) : Act Bool :=
  unlessProxy o proxyIsExtensible fun x => return x.extensible

def preventExtensionsRule (o : ObjectId) : Act Bool :=
  unlessProxy o proxyPreventExtensions fun _ => do
    modifyObject o fun x => { x with extensible := false }
    return true

def isArrayRule (o : ObjectId) : Act Bool :=
  unlessProxy o
    (fun target _ revoked => do
      if revoked then raiseType "revoked proxy"
      match target with
      | .object t => isArray t
      | _ => return false)
    fun x => return x.isArray

end Act

namespace Engine

open Act

def idle : Engine where
  call _ _ _ := .stop .exhausted
  construct _ _ _ := .stop .exhausted
  getOwn _ _ := .stop .exhausted
  define _ _ _ := .stop .exhausted
  has _ _ := .stop .exhausted
  get _ _ _ := .stop .exhausted
  set _ _ _ _ := .stop .exhausted
  delete _ _ := .stop .exhausted
  ownKeys _ := .stop .exhausted
  prototype _ := .stop .exhausted
  setPrototype _ _ := .stop .exhausted
  isExtensible _ := .stop .exhausted
  preventExtensions _ := .stop .exhausted
  isArray _ := .stop .exhausted
  eval _ _ := .stop .exhausted
  link _ _ := .stop .exhausted
  bind _ _ _ _ := .stop .exhausted
  exec _ _ := .stop .exhausted
  program _ _ := .stop .exhausted

def overflow : Deed α := raise .internal "stack overflow" idle

def ofLevel : Nat → Engine
  | 0 => {
      call := fun _ _ _ => overflow
      construct := fun _ _ _ => overflow
      getOwn := fun _ _ => overflow
      define := fun _ _ _ => overflow
      has := fun _ _ => overflow
      get := fun _ _ _ => overflow
      set := fun _ _ _ _ => overflow
      delete := fun _ _ => overflow
      ownKeys := fun _ => overflow
      prototype := fun _ => overflow
      setPrototype := fun _ _ => overflow
      isExtensible := fun _ => overflow
      preventExtensions := fun _ => overflow
      isArray := fun _ => overflow
      eval := fun _ _ => overflow
      link := fun _ _ => overflow
      bind := fun _ _ _ _ => overflow
      exec := fun _ _ => overflow
      program := fun _ _ => overflow }
  | n + 1 => {
      call := fun f this args => callValue f this args (ofLevel n)
      construct := fun f args newTarget => constructValue f args newTarget (ofLevel n)
      getOwn := fun o k => getOwnRule o k (ofLevel n)
      define := fun o k d => defineRule o k d (ofLevel n)
      has := fun o k => hasRule o k (ofLevel n)
      get := fun o k receiver => getRule o k receiver (ofLevel n)
      set := fun o k v receiver => setRule o k v receiver (ofLevel n)
      delete := fun o k => deleteRule o k (ofLevel n)
      ownKeys := fun o => ownKeysRule o (ofLevel n)
      prototype := fun o => prototypeRule o (ofLevel n)
      setPrototype := fun o p => setPrototypeRule o p (ofLevel n)
      isExtensible := fun o => isExtensibleRule o (ofLevel n)
      preventExtensions := fun o => preventExtensionsRule o (ofLevel n)
      isArray := fun o => isArrayRule o (ofLevel n)
      eval := fun env x => evalExpr env x (ofLevel n)
      link := fun env x => evalLink env x (ofLevel n)
      bind := fun env how pattern v => bindTo env how pattern v (ofLevel n)
      exec := fun env s => execStmt env s (ofLevel n)
      program := fun source env => evaluateText source env (ofLevel n) }

def standard : Engine := ofLevel 1000000

end Engine

end Embedding.Guest
