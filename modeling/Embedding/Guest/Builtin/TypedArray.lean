import Embedding.Guest.Builtin.Array
import Embedding.Guest.Builtin.Buffer

namespace Embedding.Guest.Act

structure Row where
  id : ObjectId
  element : ArrayElement
  buffer : ObjectId
  offset : Nat
  length : Nat

def rowOf? (v : Value) : Act (Option Row) := do
  match v with
  | .object o =>
    match (← object o).payload with
    | .typedArray element buffer offset length => return some ⟨o, element, buffer, offset, length⟩
    | _ => return none
  | _ => return none

def thisRow (this : Value) : Act Row := do
  match ← rowOf? this with
  | some r => return r
  | none => raiseType "not a TypedArray"

def zeroRow (t : ArrayElement) (length : Nat) (proto : ObjectId) : Act ObjectId := do
  let buffer ← zeroBuffer (length * t.width) Intrinsic.bufferPrototype
  newObject proto (.typedArray t buffer 0 length)

def fillRow (o : ObjectId) (vs : List Value) : Act Unit := do
  for (v, i) in vs.zipIdx do
    put (.object o) (.ofNat i) v

def constructRow (t : ArrayElement) (args : List Value) (newTarget : Value) : Act Value := do
  let source := arg args 0
  let fallback := Intrinsic.elementPrototype t
  match source with
  | .object o =>
    match ← anyBuffer? source with
    | some buffer =>
      let offset ← toBufferIndex (arg args 1)
      let size := (← bufferBytes buffer).size
      if offset % t.width != 0 || size < offset then raiseRange "invalid offset"
      let length ←
        if (arg args 2).isUndefined then
          if (size - offset) % t.width != 0 then raiseRange "invalid length"
          pure ((size - offset) / t.width)
        else do
          let n ← toBufferIndex (arg args 2)
          if size < offset + n * t.width then raiseRange "invalid length"
          pure n
      let proto ← protoOfTarget newTarget fallback
      return .object (← newObject proto (.typedArray t buffer offset length))
    | none =>
      match ← rowOf? source with
      | some r =>
        let proto ← protoOfTarget newTarget fallback
        let new ← zeroRow t r.length proto
        for i in List.range r.length do
          put (.object new) (.ofNat i) (← readElement r.element r.buffer r.offset i)
        return .object new
      | none =>
        let method ← get source Symbol.iterator
        let items ←
          if method.isNullish then do
            let n ← lengthOf o
            if 2 ^ 31 - 1 < n * t.width then raiseRange "invalid array buffer length"
            (List.range n).mapM fun i => getFrom o (.ofNat i) source
          else iterableToList source
        holding items do
          let proto ← protoOfTarget newTarget fallback
          let new ← zeroRow t items.length proto
          fillRow new items
          return .object new
  | _ =>
    let n ← toBufferIndex source
    let proto ← protoOfTarget newTarget fallback
    return .object (← zeroRow t n proto)

/-- Makes a typed array through a constructor and checks what came of it. -/
def createRow (ctor : Value) (args : List Value) (needed : Option Nat) : Act Row := do
  let v ← construct ctor args ctor
  let r ← thisRow v
  match needed with
  | some n => if r.length < n then raiseType "TypedArray length is too small"
  | none => pure ()
  return r

def derivedRow (r : Row) (args : List Value) (needed : Option Nat) : Act Row := do
  let c ← speciesOf (.object r.id) (.object (Intrinsic.elementConstructor r.element))
  createRow c args needed

def rowFrom (ctor : Value) (args : List Value) : Act Value := do
  let (items, f, thisArg) := (arg args 0, arg args 1, arg args 2)
  if !(← isConstructor ctor) then raiseType "not a constructor"
  if !f.isUndefined then requireCallable f
  let method ← get items Symbol.iterator
  let vs ←
    if method.isNullish then do itemsOf (← toObject items)
    else do
      if !(← isCallable method) then raiseType "value is not iterable"
      iterableToList items
  holding vs do
    let new ← createRow ctor [.ofNat vs.length] (some vs.length)
    for (v, i) in vs.zipIdx do
      let v ← if f.isUndefined then pure v else call f thisArg [v, .ofNat i]
      put (.object new.id) (.ofNat i) v
    return .object new.id

def setRow (r : Row) (args : List Value) : Act Unit := do
  let source := arg args 0
  let offset ← toInteger (arg args 1)
  if offset < 0 then raiseRange "invalid array length"
  let start := offset.toNat
  let items ← match ← rowOf? source with
    | some s =>
      if r.length < start + s.length then raiseRange "offset out of bounds"
      (List.range s.length).mapM fun i => readElement s.element s.buffer s.offset i
    | none =>
      let o ← toObject source
      let n ← lengthOf o
      if r.length < start + n then raiseRange "offset out of bounds"
      (List.range n).mapM fun i => item o i
  for (v, i) in items.zipIdx do
    put (.object r.id) (.ofNat (start + i)) v

/-- The order of numbers in a typed array: negative zero before zero, not-a-number last. -/
def numberAfter (a b : Value) : Bool :=
  match a, b with
  | .bigint x, .bigint y => y < x
  | .number x, .number y =>
    if x.isNaN then !y.isNaN
    else if y.isNaN then false
    else if x.isZero && y.isZero then y.isNegative && !x.isNegative
    else y.lt x
  | _, _ => false

def sortRow (r : Row) (f : Value) : Act Unit := do
  if !f.isUndefined then requireCallable f
  let vs ← (List.range r.length).mapM fun i => item r.id i
  let sorted ←
    if f.isUndefined then mergeSort (fun a b => return numberAfter a b) vs.length vs else sortValues f vs
  fillRow r.id sorted

def rowValues (r : Row) : Act (List Value) := (List.range r.length).mapM fun i => item r.id i

def copyWithinRow (r : Row) (args : List Value) : Act Unit := do
  let target ← toRelativeIndex (arg args 0) r.length
  let start ← toRelativeIndex (arg args 1) r.length
  let stop ← optionalIndex (arg args 2) r.length r.length
  let count := min (stop - start) (r.length - target)
  let vs ← (List.range count).mapM fun i => item r.id (start + i)
  for (v, i) in vs.zipIdx do
    put (.object r.id) (.ofNat (target + i)) v

def typedArrayFn (f : TypedArrayFn) (this : Value) (args : List Value) (newTarget : Value) : Act Value := do
  let (a, b) := (arg args 0, arg args 1)
  match f with
  | .construct t => constructRow t args newTarget
  | .constructAbstract => raiseType "cannot be called"
  | .fromIterable => rowFrom this args
  | .of =>
    let new ← createRow this [.ofNat args.length] (some args.length)
    fillRow new.id args
    return .object new.id
  | .toStringTag =>
    match ← rowOf? this with
    | some r => return .ofString r.element.name
    | none => return .undefined
  | _ =>
    let r ← thisRow this
    let o := r.id
    let n := r.length
    match f with
    | .length => return .ofNat n
    | .buffer => return .object r.buffer
    | .byteLength => return .ofNat (n * r.element.width)
    | .byteOffset => return .ofNat r.offset
    | .at =>
      let i ← toInteger a
      let i := if i < 0 then i + n else i
      if i < 0 || (n : Int) ≤ i then return .undefined else item o i.toNat
    | .withItem =>
      let i ← toInteger a
      let i := if i < 0 then i + n else i
      if i < 0 || (n : Int) ≤ i then raiseRange "invalid array index"
      let vs ← rowValues r
      let new ← zeroRow r.element n (Intrinsic.elementPrototype r.element)
      fillRow new (vs.set i.toNat b)
      return .object new
    | .set =>
      setRow r args
      return .undefined
    | .subarray =>
      let start ← toRelativeIndex a n
      let stop ← optionalIndex b n n
      let new ← derivedRow r
        [.object r.buffer, .ofNat (r.offset + start * r.element.width), .ofNat (stop - start)] none
      return .object new.id
    | .values => newArrayIterator o .values
    | .keys => newArrayIterator o .keys
    | .entries => newArrayIterator o .entries
    | .copyWithin =>
      copyWithinRow r args
      return this
    | .every =>
      visitItems o n a b (fun _ _ v => return if v.isTruthy then none else some (.bool false)) (.bool true)
    | .some =>
      visitItems o n a b (fun _ _ v => return if v.isTruthy then some (.bool true) else none) (.bool false)
    | .forEach => visitItems o n a b (fun _ _ _ => return none) .undefined
    | .map =>
      requireCallable a
      let new ← derivedRow r [.ofNat n] (some n)
      holding [.object new.id] <| visitItems o n a b
        (fun i _ v => do
          put (.object new.id) (.ofNat i) v
          return none) (.object new.id)
    | .filter =>
      requireCallable a
      let kept ← newArray []
      holding [.object kept] do
        let _ ← visitItems o n a b
          (fun _ v keep => do
            if keep.isTruthy then createProperty kept (.ofNat (← lengthOf kept)) v
            return none) .undefined
        let vs ← itemsOf kept
        let new ← derivedRow r [.ofNat vs.length] (some vs.length)
        fillRow new.id vs
        return .object new.id
    | .reduce => reduceItems o n args false
    | .reduceRight => reduceItems o n args true
    | .fill =>
      let bits ← bitsOfElement r.element a
      let start ← optionalIndex b n 0
      let stop ← optionalIndex (arg args 2) n n
      for i in List.range' start (stop - start) do
        writeElement r.element r.buffer r.offset i bits
      return this
    | .find => do
      match ← findItem o n a b false with
      | some (_, v) => return v
      | none => return .undefined
    | .findIndex => do
      match ← findItem o n a b false with
      | some (i, _) => return .ofNat i
      | none => return .ofInt (-1)
    | .findLast => do
      match ← findItem o n a b true with
      | some (_, v) => return v
      | none => return .undefined
    | .findLastIndex => do
      match ← findItem o n a b true with
      | some (i, _) => return .ofNat i
      | none => return .ofInt (-1)
    | .reverse =>
      fillRow o (← rowValues r).reverse
      return this
    | .toReversed =>
      let vs ← rowValues r
      let new ← zeroRow r.element n (Intrinsic.elementPrototype r.element)
      fillRow new vs.reverse
      return .object new
    | .slice =>
      let start ← toRelativeIndex a n
      let stop ← optionalIndex b n n
      let new ← derivedRow r [.ofNat (stop - start)] (some (stop - start))
      for i in List.range (stop - start) do
        put (.object new.id) (.ofNat i) (← item o (start + i))
      return .object new.id
    | .sort =>
      sortRow r a
      return this
    | .toSorted =>
      let vs ← rowValues r
      let new ← zeroRow r.element n (Intrinsic.elementPrototype r.element)
      fillRow new vs
      sortRow { r with id := new } a
      return .object new
    | .join =>
      let separator ← if a.isUndefined then pure (Text.ofString ",") else toText a
      let texts ← (List.range n).mapM fun i => do toText (← item o i)
      newText (Text.join separator texts)
    | .indexOf =>
      let start ← optionalIndex b n 0
      match ← searchItems o n (List.range' start (n - start)) a false with
      | some i => return .ofNat i
      | none => return .ofInt (-1)
    | .lastIndexOf =>
      let last ←
        if args.length < 2 then pure ((n : Int) - 1)
        else do
          let i ← toInteger b
          pure (if i < 0 then i + n else min i (n - 1))
      match ← searchItems o n (List.range (last + 1).toNat).reverse a false with
      | some i => return .ofNat i
      | none => return .ofInt (-1)
    | .includes =>
      let start ← optionalIndex b n 0
      return .bool (← searchItems o n (List.range' start (n - start)) a true).isSome
    | _ => return .undefined

end Embedding.Guest.Act
