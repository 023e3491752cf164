import Embedding.Guest.Evaluate.Function

namespace Embedding.Guest

inductive Reference where
  | name (id : String) (line : Nat)
  | property (object key : Value) (line : Nat)
  | hidden (object : Value) (name : String) (line : Nat)
  | super (home this key : Value) (line : Nat)
deriving Inhabited

def Reference.values : Reference → List Value
  | .property o k _ => [o, k]
  | .hidden o _ _ => [o]
  | .super h t k _ => [h, t, k]
  | .name _ _ => []

namespace Act

def superHome (env : Env) : Act Value := do
  match home? env.scope with
  | some (.object h) =>
    match ← prototype h with
    | some p => return .object p
    | none => return .null
  | _ => return .undefined

def reference (env : Env) (e : Expr) : Act Reference := do
  match e with
  | .name id line => return .name id line
  | .property o k line =>
    let o ← eval env o
    return .property o (.text k) line
  | .index o k line =>
    let o ← eval env o
    let k ← holding [o] (eval env k)
    return .property o k line
  | .hiddenProperty o n line =>
    let o ← eval env o
    return .hidden o n line
  | .superProperty k line =>
    let this ← thisValue env
    let home ← superHome env
    let k ← holding [this, home] (eval env k)
    return .super home this k line
  | _ => raiseType "invalid assignment left-hand side"

def hiddenPart (env : Env) (o : Value) (name : String) : Act (ObjectId × Symbol × Property) := do
  match hiddenSymbol? name env.scope with
  | none => raise .syntaxError ("undefined private field '#" ++ name ++ "'")
  | some s =>
    match o with
    | .object id =>
      match (← object id).property? (.symbol s) with
      | some p => return (id, s, p)
      | none => raiseType ("private class field '#" ++ shownName name ++ "' does not exist")
    | _ => raiseType "not an object"

def readHidden (env : Env) (o : Value) (name : String) : Act Value := do
  let (_, _, p) ← hiddenPart env o name
  match p.slot with
  | .data v _ => return v
  | .accessor g _ => if g.isUndefined then raiseType "not a function" else call g o []
  | .lazyPrototype => return .undefined

def writeHidden (env : Env) (o : Value) (name : String) (v : Value) : Act Unit := do
  let (id, s, p) ← hiddenPart env o name
  match p.slot with
  | .data _ true => putProperty id s { p with slot := .data v true }
  | .data _ false => raiseReadOnly ("#" ++ name)
  | .accessor _ f =>
    if f.isUndefined then raiseType "not a function"
    let _ ← call f o [v]
  | .lazyPrototype => pure ()

def readReference (env : Env) (r : Reference) : Act Value := do
  match r with
  | .name id line =>
    atLine line
    readName env id
  | .property o k line =>
    atLine line
    get o (← holding [o] (toKey k))
  | .hidden o n line =>
    atLine line
    readHidden env o n
  | .super home this k line =>
    atLine line
    let k ← holding [home, this] (toKey k)
    match home with
    | .object h => getFrom h k this
    | _ => get home k

def writeReference (env : Env) (r : Reference) (v : Value) : Act Unit := do
  match r with
  | .name id line =>
    atLine line
    writeName env id v
  | .property o k line =>
    atLine line
    let k ← holding [o, v] (toKey k)
    holding [o, v] (put o k v env.isStrict)
  | .hidden o n line =>
    atLine line
    writeHidden env o n v
  | .super home this k line =>
    atLine line
    let k ← holding [home, this, v] (toKey k)
    match home with
    | .object h => if env.isStrict then insist k (setOn h k v this) else let _ ← setOn h k v this
    | _ => put home k v

/-- The target of a part of a pattern, evaluated before the part is looked up. -/
def partTarget (env : Env) (how : Binding) (p : Expr) : Act (Option Reference) := do
  if how != .assign then return none
  else
    let target := match p with
      | .withDefault t _ => t
      | t => t
    match target with
    | .property .. | .index .. | .hiddenProperty .. | .superProperty .. => return some (← reference env target)
    | _ => return none

def defaulted (env : Env) (p : Expr) (v : Value) : Act Value := do
  match p with
  | .withDefault _ d => if v.isUndefined then eval env d else return v
  | _ => return v

def storePart (env : Env) (how : Binding) (target : Option Reference) (p : Expr) (v : Value) : Act Unit := do
  match target with
  | some r => do
    let v ← holding r.values (defaulted env p v)
    writeReference env r v
  | none => bindPattern env how p v

def bindArray (env : Env) (how : Binding) (items : List Expr) (line : Nat) (v : Value) : Act Unit := do
  atLine line
  let it ← beginIteration v
  holding [it.iterator, it.next] do
    let done ← go it items false
    if !done then it.close
where
  go (it : Iteration) : List Expr → Bool → Act Bool
    | [], done => return done
    | p :: rest, done => do
      let (isRest, target) := match p with
        | .spread t => (true, t)
        | t => (false, t)
      let r ← it.guarding (partTarget env how target)
      if isRest then
        let values ← if done then pure [] else remaining it
        it.guarding (storePart env how r target (.object (← newArray values)))
        return true
      else
        let (v, done) ← do
          if done then pure (Value.undefined, true)
          else
            match ← holding (r.map Reference.values |>.getD []) it.step with
            | some v => pure (v, false)
            | none => pure (Value.undefined, true)
        match p with
        | .hole => pure ()
        | _ =>
          let store := holding [v] (storePart env how r p v)
          if done then store else it.guarding store
        go it rest done
  remaining (it : Iteration) : Act (List Value) :=
    repeating (fun (acc : List Value) => do
      match ← it.step with
      | none => return .inr acc.reverse
      | some x =>
        hold x
        return .inl (x :: acc)) []

/-- The own enumerable properties of a value, some keys left out, in a new object. -/
def copyProperties (target : ObjectId) (source : Value) (without : List Key) : Act Unit := do
  if source.isNullish then return ()
  let o ← toObject source
  for k in ← ownKeys o do
    if !without.contains k then
      match ← getOwn o k with
      | some p => if p.enumerable then createProperty target k (← getFrom o k (.object o))
      | none => pure ()

def bindObject (env : Env) (how : Binding) (members : List Expr) (line : Nat) (v : Value) : Act Unit := do
  atLine line
  if v.isNullish then raiseType "cannot convert to object"
  go members []
where
  go : List Expr → List Key → Act Unit
    | [], _ => pure ()
    | .spread t :: _, seen => do
      let r ← partTarget env how t
      let o ← newObject Intrinsic.objectPrototype
      copyProperties o v seen
      storePart env how r t (.object o)
    | .member _ _ k t :: rest, seen => do
      let k ← toKey (← eval env k)
      let r ← partTarget env how t
      let part ← get v k
      holding [v, part] (storePart env how r t part)
      go rest (k :: seen)
    | _ :: rest, seen => go rest seen

def bindTo (env : Env) (how : Binding) (pattern : Expr) (v : Value) : Act Unit := do
  match pattern with
  | .name id line =>
    atLine line
    assignName env how id v
  | .withDefault p d =>
    let v ← if v.isUndefined then eval env d else pure v
    bindPattern env how p v
  | .array items line => holding [v] (bindArray env how items line v)
  | .object members line => holding [v] (bindObject env how members line v)
  | .hole => pure ()
  | e =>
    let r ← holding [v] (reference env e)
    writeReference env r v

end Act

end Embedding.Guest
