import Embedding.Guest.Builtin.RegExp

namespace Embedding.Guest.Act

def bufferName (shared : Bool) : String := if shared then "SharedArrayBuffer" else "ArrayBuffer"

def isBufferOf (shared : Bool) (v : Value) : Act (Option ObjectId) := do
  match v with
  | .object o =>
    match (← object o).payload with
    | .buffer _ s => return if s == shared then some o else none
    | _ => return none
  | _ => return none

def thisBuffer (shared : Bool) (this : Value) : Act ObjectId := do
  match ← isBufferOf shared this with
  | some o => return o
  | none => raiseType (bufferName shared ++ " object expected")

def anyBuffer? (v : Value) : Act (Option ObjectId) := do
  match ← isBufferOf false v with
  | some o => return some o
  | none => isBufferOf true v

def zeroBuffer (length : Nat) (proto : ObjectId) (shared : Bool := false) : Act ObjectId := do
  if 2 ^ 31 - 1 < length then raiseRange "invalid array buffer length"
  charge length
  newObject proto (.buffer (Array.replicate length 0) shared)

def protoOfTarget (newTarget : Value) (fallback : ObjectId) : Act ObjectId := do
  match newTarget with
  | .object _ =>
    match ← get newTarget "prototype" with
    | .object p => return p
    | _ => return fallback
  | _ => return fallback

def sliceBuffer (shared : Bool) (this : Value) (args : List Value) : Act Value := do
  let o ← thisBuffer shared this
  let bytes ← bufferBytes o
  let start ← toRelativeIndex (arg args 0) bytes.size
  let stop ← if (arg args 1).isUndefined then pure bytes.size else toRelativeIndex (arg args 1) bytes.size
  let count := stop - start
  let c ← speciesOf this .undefined
  let new ←
    if c.isUndefined then
      pure (Value.object (← zeroBuffer count (if shared then Intrinsic.sharedBufferPrototype else Intrinsic.bufferPrototype) shared))
    else construct c [.ofNat count] c
  let target ← thisBuffer shared new
  if target == o then raiseType "cannot use identical ArrayBuffer"
  let room ← bufferBytes target
  if room.size < count then raiseType "new ArrayBuffer is too small"
  setBufferBytes target (bytes.extract start (start + count) ++ room.extract count room.size)
  return new

structure View where
  buffer : ObjectId
  offset : Nat
  length : Nat

def thisView (this : Value) (message : String := "DataView object expected") : Act View := do
  match this with
  | .object o =>
    match (← object o).payload with
    | .dataView buffer offset length => return ⟨buffer, offset, length⟩
    | _ => raiseType message
  | _ => raiseType message

def constructView (args : List Value) (newTarget : Value) : Act Value := do
  match ← anyBuffer? (arg args 0) with
  | none => raiseType "ArrayBuffer object expected"
  | some buffer =>
    let offset ← toBufferIndex (arg args 1)
    let size := (← bufferBytes buffer).size
    if size < offset then raiseRange "invalid byteOffset"
    let length ←
      if (arg args 2).isUndefined then pure (size - offset)
      else do
        let n ← toBufferIndex (arg args 2)
        if size - offset < n then raiseRange "invalid byteLength"
        pure n
    let proto ← protoOfTarget newTarget Intrinsic.dataViewPrototype
    return .object (← newObject proto (.dataView buffer offset length))

def orderedBytes (t : ElementType) (bits : Nat) (lowFirst : Bool) : List UInt8 :=
  let bytes := littleEndian t.width bits
  if lowFirst then bytes else bytes.reverse

def bufferFn (f : BufferFn) (this : Value) (args : List Value) (newTarget : Value) : Act Value := do
  let a := arg args 0
  match f with
  | .construct shared =>
    let n ← toBufferIndex a
    let proto ← protoOfTarget newTarget (if shared then Intrinsic.sharedBufferPrototype else Intrinsic.bufferPrototype)
    return .object (← zeroBuffer n proto shared)
  | .isView =>
    match a with
    | .object o =>
      match (← object o).payload with
      | .typedArray .. | .dataView .. => return .bool true
      | _ => return .bool false
    | _ => return .bool false
  | .byteLength shared => do return .ofNat (← bufferBytes (← thisBuffer shared this)).size
  | .slice shared => sliceBuffer shared this args
  | .constructView => constructView args newTarget
  | .viewBuffer => do return .object (← thisView this "not a DataView").buffer
  | .viewByteLength => do return .ofNat (← thisView this "not a DataView").length
  | .viewByteOffset => do return .ofNat (← thisView this "not a DataView").offset
  | .viewGet t =>
    let view ← thisView this
    let i ← toBufferIndex a
    let lowFirst := (arg args 1).isTruthy
    if view.length < i + t.width then raiseRange "out of bound"
    let bytes := ((← bufferBytes view.buffer).extract (view.offset + i) (view.offset + i + t.width)).toList
    return valueOfBits t (ofLittleEndian (if lowFirst then bytes else bytes.reverse))
  | .viewSet t =>
    let view ← thisView this
    let i ← toBufferIndex a
    let bits ← bitsOfValue t (arg args 1)
    let lowFirst := (arg args 2).isTruthy
    if view.length < i + t.width then raiseRange "out of bound"
    let bytes ← bufferBytes view.buffer
    let new := ((orderedBytes t bits lowFirst).zipIdx).foldl
      (fun bs (b, k) => bs.setIfInBounds (view.offset + i + k) b) bytes
    setBufferBytes view.buffer new
    return .undefined

end Embedding.Guest.Act
