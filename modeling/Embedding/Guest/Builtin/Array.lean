import Embedding.Guest.Builtin.Object
import Embedding.Guest.Builtin.Sort

namespace Embedding.Guest.Act

def item (o : ObjectId) (i : Nat) : Act Value := getFrom o (.ofNat i) (.object o)

def item? (o : ObjectId) (i : Nat) : Act (Option Value) := do
  let x ← object o
  match x.payload with
  | .array elements _ _ =>
    match elements.getD i none with
    | some v => return some v
    | none => slow
  | _ => slow
where
  slow : Act (Option Value) := do
    let k := Key.ofNat i
    if ← has o k then return some (← getFrom o k (.object o)) else return none

def putItem (o : ObjectId) (i : Nat) (v : Value) : Act Unit := put (.object o) (.ofNat i) v

def putLength (o : ObjectId) (n : Nat) : Act Unit := put (.object o) "length" (.ofNat n)

def deleteItem (o : ObjectId) (i : Nat) : Act Unit := do
  if !(← delete o (.ofNat i)) then raiseType "could not delete property"

def moveItem (o : ObjectId) (source target : Nat) : Act Unit := do
  match ← item? o source with
  | some v => putItem o target v
  | none => deleteItem o target

/-- The array that a method makes out of an object: one of the same class. -/
def arrayLike (o : ObjectId) (length : Nat) : Act ObjectId := do
  if !(← isArray o) then return (← plain)
  let c ← getFrom o "constructor" (.object o)
  let c ← if c.isObject then get c Symbol.species else pure c
  if c.isNullish || c == .object Intrinsic.arrayConstructor then plain
  else
    match ← construct c [.ofNat length] c with
    | .object r => return r
    | _ => raiseType "not an object"
where
  plain : Act ObjectId := newObject Intrinsic.arrayPrototype (.array #[] length false)

def requireCallable (f : Value) : Act Unit := do
  if !(← isCallable f) then raiseType "not a function"

/-- Calls `f` on each item that is there, in order, until `stop` says so. -/
def visitItems (o : ObjectId) (length : Nat) (f thisArg : Value)
    (each : Nat → Value → Value → Act (Option Value)) (final : Value) : Act Value := do
  requireCallable f
  repeating (fun (i : Nat) => do
    if length ≤ i then return .inr final
    match ← item? o i with
    | none => return .inl (i + 1)
    | some v =>
      let r ← holding [v] (call f thisArg [v, .ofNat i, .object o])
      match ← each i v r with
      | some out => return .inr out
      | none => return .inl (i + 1)) 0

/-- Folds the items from one end; the first item starts if nothing else does. -/
def reduceItems (o : ObjectId) (length : Nat) (args : List Value) (backward : Bool) : Act Value := do
  let f := arg args 0
  requireCallable f
  let position (n : Nat) : Nat := if backward then length - 1 - n else n
  let start : Option Value × Nat ←
    if 1 < args.length then pure (some (arg args 1), 0)
    else
      repeating (fun (n : Nat) => do
        if length ≤ n then return .inr (none, n)
        match ← item? o (position n) with
        | some v => return .inr (some v, n + 1)
        | none => return .inl (n + 1)) 0
  match start with
  | (none, _) => raiseType "empty array"
  | (some v, n) =>
    repeating (fun (s : Value × Nat) => do
      let (acc, n) := s
      if length ≤ n then return .inr acc
      match ← item? o (position n) with
      | none => return .inl (acc, n + 1)
      | some v =>
        let acc ← holding [acc, v] (call f .undefined [acc, v, .ofNat (position n), .object o])
        return .inl (acc, n + 1)) (v, n)

def findItem (o : ObjectId) (length : Nat) (f thisArg : Value) (backward : Bool) :
    Act (Option (Nat × Value)) := do
  requireCallable f
  repeating (fun (n : Nat) => do
    if length ≤ n then return .inr none
    let i := if backward then length - 1 - n else n
    let v ← item o i
    let r ← holding [v] (call f thisArg [v, .ofNat i, .object o])
    if r.isTruthy then return .inr (some (i, v)) else return .inl (n + 1)) 0

def itemsOf (o : ObjectId) : Act (List Value) := do
  let n ← lengthOf o
  (List.range n).mapM fun i => item o i

def joinItems (o : ObjectId) (separator : Text) (localized : Bool) : Act Value := do
  let n ← lengthOf o
  let texts ← (List.range n).mapM fun i => do
    let v ← item o i
    if v.isNullish then pure Text.empty
    else if localized then toText (← invoke v "toLocaleString" [])
    else toText v
  newText (Text.join separator texts)

def isSpreadable (v : Value) : Act Bool := do
  match v with
  | .object o =>
    let s ← get v Symbol.isConcatSpreadable
    if s.isUndefined then isArray o else return s.isTruthy
  | _ => return false

def concatItems (o : ObjectId) (args : List Value) : Act Value := do
  let r ← arrayLike o 0
  let n ← holding [.object r] <| (Value.object o :: args).foldlM (fun n v => do
    if ← isSpreadable v then
      let source := v.objectId?.getD 0
      let length ← lengthOf source
      if 2 ^ 53 - 1 < n + length then raiseType "Array loo long"
      for i in List.range length do
        match ← item? source i with
        | some x => createProperty r (.ofNat (n + i)) x
        | none => pure ()
      return n + length
    else
      createProperty r (.ofNat n) v
      return n + 1) 0
  putLength r n
  return .object r

def flattenItems : Nat → ObjectId → Act (List Value)
  | depth, o => go depth o
where
  go : Nat → ObjectId → Act (List Value)
    | 0, o => present o
    | depth + 1, o => do
      let vs ← present o
      let parts ← vs.mapM fun v => do
        match v with
        | .object p => if ← isArray p then go depth p else return [v]
        | _ => return [v]
      return parts.flatten
  present (o : ObjectId) : Act (List Value) := do
    let n ← lengthOf o
    let vs ← (List.range n).mapM fun i => item? o i
    return vs.filterMap id

def sortItems (o : ObjectId) (f : Value) : Act Unit := do
  if !f.isUndefined && !(← isCallable f) then raiseType "not a function"
  let n ← lengthOf o
  let all ← (List.range n).mapM fun i => item? o i
  let present := all.filterMap id
  let undefinedCount := (present.filter (·.isUndefined)).length
  let sorted ← holding present (sortValues f (present.filter fun v => !v.isUndefined))
  let out := sorted ++ List.replicate undefinedCount .undefined
  for (v, i) in out.zipIdx do
    putItem o i v
  for i in List.range' out.length (n - out.length) do
    if ← has o (.ofNat i) then deleteItem o i

def spliceItems (o : ObjectId) (args : List Value) : Act Value := do
  let n ← lengthOf o
  let start ← toRelativeIndex (arg args 0) n
  let count ←
    if args.isEmpty then pure 0
    else if args.length = 1 then pure (n - start)
    else do pure (clampInt (← toInteger (arg args 1)) 0 (n - start : Nat)).toNat
  let added := args.drop 2
  let removed ← arrayLike o count
  for i in List.range count do
    match ← item? o (start + i) with
    | some v => createProperty removed (.ofNat i) v
    | none => pure ()
  putLength removed count
  if added.length < count then
    for i in List.range (n - count - start) do
      moveItem o (start + count + i) (start + added.length + i)
    for i in (List.range (count - added.length)).reverse do
      deleteItem o (n - count + added.length + i)
  else if count < added.length then
    for i in (List.range (n - count - start)).reverse do
      moveItem o (start + count + i) (start + added.length + i)
  for (v, i) in added.zipIdx do
    putItem o (start + i) v
  putLength o (n - count + added.length)
  return .object removed

/-- Makes an array of another kind with `from` and `of`: through the constructor it is called on. -/
def constructedArray (ctor : Value) (length : Option Nat) : Act ObjectId := do
  if ← isConstructor ctor then
    match ← construct ctor (length.toList.map .ofNat) ctor with
    | .object o => return o
    | _ => raiseType "not an object"
  else newObject Intrinsic.arrayPrototype (.array #[] (length.getD 0) false)

def arrayFrom (ctor : Value) (args : List Value) : Act Value := do
  let (items, f, thisArg) := (arg args 0, arg args 1, arg args 2)
  if !f.isUndefined then requireCallable f
  let mapped (v : Value) (i : Nat) : Act Value :=
    if f.isUndefined then return v else call f thisArg [v, .ofNat i]
  let method ← get items Symbol.iterator
  if !method.isNullish then
    if !(← isCallable method) then raiseType "value is not iterable"
    let r ← constructedArray ctor none
    let it ← beginIteration items
    let n ← holding [.object r, it.iterator, it.next] <| repeating (fun (i : Nat) => do
      match ← it.step with
      | none => return .inr i
      | some v =>
        it.guarding do
          let v ← holding [v] (mapped v i)
          createProperty r (.ofNat i) v
        return .inl (i + 1)) 0
    putLength r n
    return .object r
  else
    let source ← toObject items
    let n ← lengthOf source
    let r ← constructedArray ctor (some n)
    holding [.object r] <| repeating (fun (i : Nat) => do
      if n ≤ i then return .inr ()
      let v ← item source i
      let v ← holding [v] (mapped v i)
      createProperty r (.ofNat i) v
      return .inl (i + 1)) 0
    putLength r n
    return .object r

def newArrayObject (newTarget : Value) (args : List Value) : Act Value := do
  let proto ← match newTarget with
    | .object n =>
      if n == Intrinsic.arrayConstructor then pure Intrinsic.arrayPrototype
      else
        match ← get newTarget "prototype" with
        | .object p => pure p
        | _ => pure Intrinsic.arrayPrototype
    | _ => pure Intrinsic.arrayPrototype
  match args with
  | [.number d] =>
    match d.toInt? with
    | some n =>
      if 0 ≤ n && n < 2 ^ 32 then return .object (← newObject proto (.array #[] n.toNat false))
      else raiseRange "invalid array length"
    | none => raiseRange "invalid array length"
  | _ =>
    charge (16 * args.length)
    return .object (← newObject proto (.array (args.map some).toArray args.length false))

def newArrayIterator (o : ObjectId) (kind : IterationKind) : Act Value := do
  return .object (← newObject Intrinsic.arrayIteratorPrototype (.arrayIterator (.object o) kind 0))

def searchItems (o : ObjectId) (n : Nat) (indices : List Nat) (v : Value) (holes : Bool) : Act (Option Nat) := do
  for i in indices do
    if holes then
      if sameValueZero (← item o i) v then return some i
    else
      match ← item? o i with
      | some x => if strictEquals x v then return some i
      | none => pure ()
  let _ := n
  return none

def copyWithinItems (o : ObjectId) (args : List Value) : Act Unit := do
  let n ← lengthOf o
  let target ← toRelativeIndex (arg args 0) n
  let start ← toRelativeIndex (arg args 1) n
  let stop ← if (arg args 2).isUndefined then pure n else toRelativeIndex (arg args 2) n
  let count := min (stop - start) (n - target)
  let indices := List.range count
  let indices := if start < target && target < start + count then indices.reverse else indices
  for i in indices do
    moveItem o (start + i) (target + i)

def optionalIndex (v : Value) (n fallback : Nat) : Act Nat :=
  if v.isUndefined then return fallback else toRelativeIndex v n

def arrayFn (f : ArrayFn) (this : Value) (args : List Value) (newTarget : Value) : Act Value := do
  let a := arg args 0
  match f with
  | .construct => newArrayObject newTarget args
  | .isArray =>
    match a with
    | .object o => return .bool (← isArray o)
    | _ => return .bool false
  | .fromIterable => arrayFrom this args
  | .of =>
    let r ← constructedArray this (some args.length)
    for (v, i) in args.zipIdx do
      createProperty r (.ofNat i) v
    putLength r args.length
    return .object r
  | _ =>
    let o ← toObject this
    match f with
    | .at =>
      let n ← lengthOf o
      let i ← toInteger a
      let i := if i < 0 then i + n else i
      if i < 0 || (n : Int) ≤ i then return .undefined else item o i.toNat
    | .withItem =>
      let n ← lengthOf o
      let i ← toInteger a
      let i := if i < 0 then i + n else i
      if i < 0 || (n : Int) ≤ i then raiseRange "invalid array index"
      let vs ← itemsOf o
      return .object (← newArray (vs.set i.toNat (arg args 1)))
    | .concat => concatItems o args
    | .every =>
      let n ← lengthOf o
      visitItems o n a (arg args 1) (fun _ _ r => return if r.isTruthy then none else some (.bool false)) (.bool true)
    | .some =>
      let n ← lengthOf o
      visitItems o n a (arg args 1) (fun _ _ r => return if r.isTruthy then some (.bool true) else none) (.bool false)
    | .forEach =>
      let n ← lengthOf o
      visitItems o n a (arg args 1) (fun _ _ _ => return none) .undefined
    | .map =>
      let n ← lengthOf o
      requireCallable a
      let r ← arrayLike o n
      holding [.object r] <| visitItems o n a (arg args 1)
        (fun i _ v => do
          createProperty r (.ofNat i) v
          return none) (.object r)
    | .filter =>
      let n ← lengthOf o
      requireCallable a
      let r ← arrayLike o 0
      holding [.object r] <| visitItems o n a (arg args 1)
        (fun _ v keep => do
          if keep.isTruthy then createProperty r (.ofNat (← lengthOf r)) v
          return none) (.object r)
    | .reduce => do reduceItems o (← lengthOf o) args false
    | .reduceRight => do reduceItems o (← lengthOf o) args true
    | .fill =>
      let n ← lengthOf o
      let start ← optionalIndex (arg args 1) n 0
      let stop ← optionalIndex (arg args 2) n n
      for i in List.range' start (stop - start) do
        putItem o i a
      return .object o
    | .find => do
      match ← findItem o (← lengthOf o) a (arg args 1) false with
      | some (_, v) => return v
      | none => return .undefined
    | .findIndex => do
      match ← findItem o (← lengthOf o) a (arg args 1) false with
      | some (i, _) => return .ofNat i
      | none => return .ofInt (-1)
    | .findLast => do
      match ← findItem o (← lengthOf o) a (arg args 1) true with
      | some (_, v) => return v
      | none => return .undefined
    | .findLastIndex => do
      match ← findItem o (← lengthOf o) a (arg args 1) true with
      | some (i, _) => return .ofNat i
      | none => return .ofInt (-1)
    | .indexOf =>
      let n ← lengthOf o
      let start ← optionalIndex (arg args 1) n 0
      match ← searchItems o n (List.range' start (n - start)) a false with
      | some i => return .ofNat i
      | none => return .ofInt (-1)
    | .lastIndexOf =>
      let n ← lengthOf o
      let last ←
        if args.length < 2 then pure ((n : Int) - 1)
        else do
          let i ← toInteger (arg args 1)
          pure (if i < 0 then i + n else min i (n - 1))
      match ← searchItems o n (List.range (last + 1).toNat).reverse a false with
      | some i => return .ofNat i
      | none => return .ofInt (-1)
    | .includes =>
      let n ← lengthOf o
      let start ← optionalIndex (arg args 1) n 0
      return .bool (← searchItems o n (List.range' start (n - start)) a true).isSome
    | .join =>
      let separator ← if a.isUndefined then pure (Text.ofString ",") else toText a
      joinItems o separator false
    | .toString =>
      let join ← getFrom o "join" (.object o)
      if ← isCallable join then call join (.object o) [] else objectToString (.object o)
    | .toLocaleString => joinItems o "," true
    | .pop =>
      let n ← lengthOf o
      if n = 0 then
        putLength o 0
        return .undefined
      else
        let v ← item o (n - 1)
        deleteItem o (n - 1)
        putLength o (n - 1)
        return v
    | .push =>
      let n ← lengthOf o
      if 2 ^ 53 - 1 < n + args.length then raiseType "Array loo long"
      for (v, i) in args.zipIdx do
        putItem o (n + i) v
      putLength o (n + args.length)
      return .ofNat (n + args.length)
    | .shift =>
      let n ← lengthOf o
      if n = 0 then
        putLength o 0
        return .undefined
      else
        let v ← item o 0
        for i in List.range (n - 1) do
          moveItem o (i + 1) i
        deleteItem o (n - 1)
        putLength o (n - 1)
        return v
    | .unshift =>
      let n ← lengthOf o
      if !args.isEmpty then
        for i in (List.range n).reverse do
          moveItem o i (i + args.length)
        for (v, i) in args.zipIdx do
          putItem o i v
      putLength o (n + args.length)
      return .ofNat (n + args.length)
    | .reverse =>
      let n ← lengthOf o
      for i in List.range (n / 2) do
        let j := n - 1 - i
        let x ← item? o i
        let y ← item? o j
        match y with
        | some y => putItem o i y
        | none => if x.isSome then deleteItem o i
        match x with
        | some x => putItem o j x
        | none => if y.isSome then deleteItem o j
      return .object o
    | .toReversed => return .object (← newArray (← itemsOf o).reverse)
    | .sort =>
      sortItems o a
      return .object o
    | .toSorted =>
      if !a.isUndefined && !(← isCallable a) then raiseType "not a function"
      let r ← newArray (← itemsOf o)
      sortItems r a
      return .object r
    | .slice =>
      let n ← lengthOf o
      let start ← optionalIndex a n 0
      let stop ← optionalIndex (arg args 1) n n
      let r ← arrayLike o (stop - start)
      for i in List.range (stop - start) do
        match ← item? o (start + i) with
        | some v => createProperty r (.ofNat i) v
        | none => pure ()
      putLength r (stop - start)
      return .object r
    | .splice => spliceItems o args
    | .toSpliced =>
      let r ← newArray (← itemsOf o)
      let _ ← spliceItems r args
      return .object r
    | .copyWithin =>
      copyWithinItems o args
      return .object o
    | .flatMap =>
      let n ← lengthOf o
      requireCallable a
      let mapped ← newArray []
      let _ ← visitItems o n a (arg args 1)
        (fun _ _ v => do
          createProperty mapped (.ofNat (← lengthOf mapped)) v
          return none) .undefined
      return .object (← newArray (← flattenItems 1 mapped))
    | .flat =>
      let depth ← if a.isUndefined then pure 1 else toInteger a
      return .object (← newArray (← flattenItems (min depth 1000).toNat o))
    | .values => newArrayIterator o .values
    | .keys => newArrayIterator o .keys
    | .entries => newArrayIterator o .entries
    | .construct | .isArray | .fromIterable | .of => return .undefined

def iteratedLength (o : ObjectId) : Act Nat := do
  match (← object o).payload with
  | .typedArray _ _ _ n => return n
  | _ => lengthOf o

def arrayIteratorNext (this : Value) : Act Value := do
  match this with
  | .object id =>
    match (← object id).payload with
    | .arrayIterator .undefined _ _ => iterResult .undefined true
    | .arrayIterator (.object o) kind i =>
      let n ← iteratedLength o
      if n ≤ i then
        setPayload id (.arrayIterator .undefined kind i)
        iterResult .undefined true
      else
        setPayload id (.arrayIterator (.object o) kind (i + 1))
        match kind with
        | .keys => iterResult (.ofNat i) false
        | .values => do iterResult (← item o i) false
        | .entries => do iterResult (.object (← newArray [.ofNat i, ← item o i])) false
    | _ => raiseType "Array Iterator object expected"
  | _ => raiseType "Array Iterator object expected"

end Embedding.Guest.Act
