import Embedding.Guest.Evaluate.Reference

namespace Embedding.Guest.Act

structure ClassParts where
  instance_ : List InstancePart := []
  static_ : List (Option Key × Value) := []

def closureNode? : Expr → Option FunctionNode
  | .function info params functions body => some ⟨info, params, functions, body⟩
  | _ => none

def makeMethod (env : Env) (f : Expr) (home : ObjectId) (k : Key) (before : String) : Act ObjectId := do
  match closureNode? f with
  | some node =>
    let o ← makeFunction env node (.object home)
    nameFunction o k before
    return o
  | none => newObject Intrinsic.functionPrototype

def joinAccessor (old : Option Property) (isGetter : Bool) (f : Value) (enumerable : Bool) : Property :=
  let (g, s) := match old with
    | some ⟨.accessor g s, _, _⟩ => (g, s)
    | _ => (.undefined, .undefined)
  ⟨if isGetter then .accessor f s else .accessor g f, enumerable, true⟩

def defineMethod (o : ObjectId) (k : Key) (kind : MemberKind) (f : Value) (enumerable : Bool) : Act Unit :=
  match kind with
  | .getter => insist k (define o k { get := some f, enumerable := some enumerable, configurable := some true })
  | .setter => insist k (define o k { set := some f, enumerable := some enumerable, configurable := some true })
  | _ =>
    insist k (define o k
      { value := some f, writable := some true, enumerable := some enumerable, configurable := some true })

def accessorWord : MemberKind → String
  | .getter => "get "
  | .setter => "set "
  | _ => ""

def classElement (env : Env) (ctor proto : ObjectId) (parts : ClassParts) (e : Expr) : Act ClassParts := do
  match e with
  | .member isStatic kind key value =>
    let target := if isStatic then ctor else proto
    match kind, key with
    | .field, .hole =>
      let o ← makeMethod env value ctor (.text Text.empty) ""
      return { parts with static_ := (none, .object o) :: parts.static_ }
    | .field, _ =>
      let k ← match key with
        | .hidden n =>
          pure (match hiddenSymbol? n env.scope with
            | some s => Key.symbol s
            | none => Key.ofString n)
        | _ => toKey (← eval env key)
      let initial ← match value with
        | .hole => pure Value.undefined
        | f =>
          match closureNode? f with
          | some node => pure (.object (← makeFunction env node (.object target)))
          | none => pure .undefined
      if isStatic then return { parts with static_ := (some k, initial) :: parts.static_ }
      else return { parts with instance_ := .field k initial :: parts.instance_ }
    | _, .hidden n =>
      match hiddenSymbol? n env.scope with
      | none => return parts
      | some s =>
        let f ← makeMethod env value target (.symbol s) (accessorWord kind)
        let property (old : Option Property) : Property :=
          match kind with
          | .getter => joinAccessor old true (.object f) false
          | .setter => joinAccessor old false (.object f) false
          | _ => ⟨.data (.object f) false, false, false⟩
        if isStatic then
          let old := (← object ctor).property? (.symbol s)
          putProperty ctor s (property old)
          return parts
        else
          let same (p : InstancePart) : Bool := match p with
            | .hiddenMember t _ => t == s
            | _ => false
          let old := parts.instance_.findSome? fun p =>
            match p with
            | .hiddenMember t q => if t == s then some q else none
            | _ => none
          let rest := parts.instance_.filter fun p => !same p
          return { parts with instance_ := rest ++ [.hiddenMember s (property old)] }
    | _, _ =>
      let k ← toKey (← eval env key)
      let f ← makeMethod env value target k (accessorWord kind)
      defineMethod target k kind (.object f) false
      return parts
  | _ => return parts

def classParents (superclass : Option Value) : Act (ObjectId × Option ObjectId) := do
  match superclass with
  | none => return (Intrinsic.functionPrototype, some Intrinsic.objectPrototype)
  | some .null => return (Intrinsic.functionPrototype, none)
  | some v =>
    if !(← isConstructor v) then raiseType "parent class must be constructor"
    let p ← get v "prototype"
    let parent := v.objectId?.getD Intrinsic.functionPrototype
    match p with
    | .object p => return (parent, some p)
    | .null => return (parent, none)
    | _ => raiseType "parent prototype must be an object or null"
def addHidden (env : Env) (names : List String) : Act Env :=
  names.foldlM (fun env n => do
    let s ← newSymbol (some (Text.ofString ("#" ++ n))) true
    return { env with scope := .hidden n s :: env.scope }) env

def runStatic (ctor : ObjectId) : List (Option Key × Value) → Act Unit
  | [] => pure ()
  | (none, f) :: rest => do
    let _ ← call f (.object ctor) []
    runStatic ctor rest
  | (some k, initial) :: rest => do
    addParts ctor [.field k initial]
    runStatic ctor rest

def evalClass (env : Env) (info : ClassInfo) (superclass construct : Expr) (elements : List Expr) :
    Act Value := do
  let env := { env with isStrict := true }
  let outer ← match info.name with
    | some n => addCell env n none .constant
    | none => pure env
  let parent? ← match superclass with
    | .hole => pure none
    | e => do pure (some (← eval outer e))
  atLine info.line
  let (parent, protoParent) ← classParents parent?
  let inner ← addHidden outer info.hidden
  let proto ← alloc { proto := protoParent }
  let node := (closureNode? construct).getD default
  let node : FunctionNode := { node with info := { node.info with name := info.label, source := info.source } }
  let ctor ← makeFunction inner node (.object proto)
  modifyObject ctor fun x => { x with proto := some parent }
  putProperty ctor "prototype" ⟨.data (.object proto) false, false, false⟩
  putProperty proto "constructor" (.method (.object ctor))
  holding [.object ctor, .object proto] <| holdingScope inner.scope do
    let parts ← elements.foldlM (classElement inner ctor proto) {}
    let hiddenFirst := parts.instance_.reverse.partition fun p =>
      match p with
      | .hiddenMember .. => true
      | .field .. => false
    modifyObject ctor fun x =>
      match x.payload with
      | .function c => { x with payload := .function { c with parts := hiddenFirst.1 ++ hiddenFirst.2 } }
      | _ => x
    match info.name with
    | some n => beginName inner n (.object ctor)
    | none => pure ()
    runStatic ctor parts.static_.reverse
    return .object ctor

end Embedding.Guest.Act
