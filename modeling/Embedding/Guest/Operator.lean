import Embedding.Guest.Property

namespace Embedding.Guest

def powerOf (a b : Double) : Double :=
  if !b.isFinite && a.abs == Double.ofInt 1 then Double.nan
  else Double.ofFloat (a.toFloat.pow b.toFloat)

def floorDivPow (n : Int) (bits : Nat) : Int := n.fdiv (2 ^ bits)

namespace Act

def strictEquals (a b : Value) : Bool :=
  match a, b with
  | .number x, .number y => x.numericEq y
  | _, _ => a == b

def sameValueZero (a b : Value) : Bool :=
  match a, b with
  | .number x, .number y => x.numericEq y || (x.isNaN && y.isNaN)
  | _, _ => a == b

/-- How a big integer compares with a double; not at all with a not-a-number. -/
def compareBigInt (n : Int) (d : Double) : Option Ordering :=
  if d.isNaN then none
  else if d.isInfinite then some (if d.isNegative then .gt else .lt)
  else
    let (num, den) := d.ratio
    let signed : Int := if d.isNegative then -(num : Int) else num
    some (compare (n * den) signed)

/-- Equality of two values of which at most one still has to be converted. -/
def looseEqualsPrimitive (a b : Value) : Act Bool := do
  match a, b with
  | .bigint n, .text t =>
    match bigIntOfText? t with
    | some m => return n == m
    | none => return false
  | .text t, .bigint n =>
    match bigIntOfText? t with
    | some m => return n == m
    | none => return false
  | .bigint n, .number d => return compareBigInt n d == some .eq
  | .number d, .bigint n => return compareBigInt n d == some .eq
  | .symbol _, _ | _, .symbol _ => return a == b
  | _, _ =>
    if a.isNullish || b.isNullish then return a.isNullish && b.isNullish
    else
      match a, b with
      | .bigint n, _ => return compareBigInt n (← primitiveToDouble b) == some .eq
      | _, .bigint n => return compareBigInt n (← primitiveToDouble a) == some .eq
      | .text s, .text t => return s == t
      | _, _ => return (← primitiveToDouble a).numericEq (← primitiveToDouble b)

def looseEquals (a b : Value) : Act Bool := do
  match a, b with
  | .object _, .object _ => return a == b
  | .object _, _ =>
    if b.isNullish then return false else looseEqualsPrimitive (← toPrimitive a .default) b
  | _, .object _ =>
    if a.isNullish then return false else looseEqualsPrimitive a (← toPrimitive b .default)
  | _, _ => looseEqualsPrimitive a b

def compareValues (a b : Value) : Act (Option Ordering) := do
  let a ← holding [b] (toPrimitive a .number)
  let b ← holding [a] (toPrimitive b .number)
  match a, b with
  | .text s, .text t => return some (s.compare t)
  | .bigint n, .text t => return (bigIntOfText? t).map (compare n ·)
  | .text t, .bigint n => return (bigIntOfText? t).map (compare · n)
  | .bigint n, .bigint m => return some (compare n m)
  | .bigint n, _ => return compareBigInt n (← primitiveToDouble b)
  | _, .bigint m => return (compareBigInt m (← primitiveToDouble a)).map Ordering.swap
  | _, _ =>
    let x ← primitiveToDouble a
    let y ← primitiveToDouble b
    if x.isNaN || y.isNaN then return none
    else return some (if x.lt y then .lt else if y.lt x then .gt else .eq)

def bigIntOperation (op : BinaryOp) (a b : Int) : Act Int := do
  match op with
  | .add => return a + b
  | .sub => return a - b
  | .mul => return a * b
  | .div => if b == 0 then raiseRange "division by zero" else return a.tdiv b
  | .rem => if b == 0 then raiseRange "division by zero" else return a.tmod b
  | .pow =>
    if b < 0 then raiseRange "invalid operation"
    else if 1 < a.natAbs && 100000000 < b * (Nat.log2 a.natAbs + 1 : Nat) then raiseOutOfMemory
    else return a ^ b.toNat
  | .shiftLeft => shift a b
  | .shiftRight => shift a (-b)
  | .shiftRightUnsigned => raiseType "bigint operands are forbidden for >>>"
  | .bitAnd => return bitwise (· &&& ·) a b
  | .bitOr => return bitwise (· ||| ·) a b
  | .bitXor => return bitwise (· ^^^ ·) a b
  | _ => return 0
where
  shift (a b : Int) : Act Int :=
    if b < 0 then
      return (if (-b) < 1000000 then floorDivPow a (-b).toNat else if a < 0 then -1 else 0)
    else if a == 0 then return 0
    else if 100000000 < b then raiseOutOfMemory
    else return a * 2 ^ b.toNat
  bitwise (f : Nat → Nat → Nat) (a b : Int) : Int :=
    let bits := max (Nat.log2 a.natAbs) (Nat.log2 b.natAbs) + 2
    let r := f (a % 2 ^ bits).toNat (b % 2 ^ bits).toNat
    signedOf bits r

def doubleOperation (op : BinaryOp) (a b : Double) : Double :=
  let int32 (d : Double) : Int := signedOf 32 (d.modPow 32)
  let word (d : Double) : Nat := d.modPow 32
  let ofBits (n : Nat) : Double := Double.ofInt (signedOf 32 (n % 2 ^ 32))
  match op with
  | .add => a.add b
  | .sub => a.sub b
  | .mul => a.mul b
  | .div => a.div b
  | .rem => a.rem b
  | .pow => powerOf a b
  | .shiftLeft => ofBits (word a * 2 ^ (word b % 32))
  | .shiftRight => Double.ofInt (floorDivPow (int32 a) (word b % 32))
  | .shiftRightUnsigned => Double.ofInt (word a / 2 ^ (word b % 32) : Nat)
  | .bitAnd => ofBits (word a &&& word b)
  | .bitOr => ofBits (word a ||| word b)
  | .bitXor => ofBits (word a ^^^ word b)
  | _ => a

def numericOperation (op : BinaryOp) (a b : Value) : Act Value := do
  match a, b with
  | .number x, .number y => return .number (doubleOperation op x y)
  | _, _ => return .bigint (← bigIntOperation op (← primitiveToBigInt' a) (← primitiveToBigInt' b))
where
  primitiveToBigInt' : Value → Act Int
    | .bigint n => return n
    | _ => raiseType "cannot convert to BigInt"

def addValues (a b : Value) : Act Value := do
  match a, b with
  | .number x, .number y => return .number (x.add y)
  | .text s, .text t => newText (s ++ t)
  | _, _ =>
    let a ← holding [b] (toPrimitive a .default)
    let b ← holding [a] (toPrimitive b .default)
    match a, b with
    | .text s, _ => newText (s ++ (← primitiveToText b))
    | _, .text t => newText ((← primitiveToText a) ++ t)
    | _, _ => numericOperation .add (← toNumeric a) (← toNumeric b)

/-- Whether an object comes from a constructor, by the prototypes alone. -/
def ordinaryInstance (f v : Value) : Act Bool := do
  match f with
  | .object o =>
    let x ← object o
    match x.payload with
    | .bound target _ _ _ => instanceOf target v
    | _ =>
      if !x.isCallable then return false
      else
        match v with
        | .object p =>
          match ← get f "prototype" with
          | .object proto => climb proto p
          | _ => raiseType "operand 'prototype' property is not an object"
        | _ => return false
  | _ => return false
where
  instanceOf (target v : Value) : Act Bool := do
    let m ← get target Symbol.hasInstance
    return (← call m target [v]).isTruthy
  climb (proto start : ObjectId) : Act Bool := do
    let m ← machine
    let rec go : Nat → ObjectId → Act Bool
      | 0, _ => return false
      | n + 1, o => do
        match ← prototype o with
        | none => return false
        | some p => if p == proto then return true else go n p
    go (m.objects.size + 1000) start

def instanceOf (v f : Value) : Act Bool := do
  if !f.isObject then raiseType "invalid 'instanceof' right operand"
  let method ← get f Symbol.hasInstance
  if !method.isNullish then return (← call method f [v]).isTruthy
  if !(← isCallable f) then raiseType "invalid 'instanceof' right operand"
  ordinaryInstance f v

def binaryOperation (op : BinaryOp) (a b : Value) : Act Value := do
  match op with
  | .add => addValues a b
  | .strictEq => return .bool (strictEquals a b)
  | .strictNe => return .bool (!strictEquals a b)
  | .eq => return .bool (← looseEquals a b)
  | .ne => return .bool (!(← looseEquals a b))
  | .lt => return .bool ((← compareValues a b) == some .lt)
  | .gt => return .bool ((← compareValues a b) == some .gt)
  | .le =>
    let r ← compareValues a b
    return .bool (r == some .lt || r == some .eq)
  | .ge =>
    let r ← compareValues a b
    return .bool (r == some .gt || r == some .eq)
  | .instanceOf => return .bool (← instanceOf a b)
  | .contained =>
    match b with
    | .object o => return .bool (← has o (← toKey a))
    | _ => raiseType "invalid 'in' operand"
  | _ =>
    let a ← holding [b] (toNumeric a)
    let b ← toNumeric b
    numericOperation op a b

def unaryOperation (op : UnaryOp) (v : Value) : Act Value := do
  match op with
  | .not => return .bool (!v.isTruthy)
  | .void => return .undefined
  | .plus =>
    match ← toPrimitive v .number with
    | .bigint _ => raiseType "bigint argument with unary +"
    | p => return .number (← primitiveToDouble p)
  | .negate =>
    match ← toNumeric v with
    | .bigint n => return .bigint (-n)
    | .number d => return .number d.neg
    | v => return v
  | .bitNot =>
    match ← toNumeric v with
    | .bigint n => return .bigint (-n - 1)
    | .number d => return .number (Double.ofInt (-(signedOf 32 (d.modPow 32)) - 1))
    | v => return v

def roundLimit : Nat := 2 ^ 53

def repeatUpTo : Nat → (β → Act (β ⊕ γ)) → β → Act γ
  | 0, _, _ => stop .exhausted
  | n + 1, step, b => do
    match ← step b with
    | .inl b => repeatUpTo n step b
    | .inr c => return c

def repeating (step : β → Act (β ⊕ γ)) (b : β) : Act γ := repeatUpTo roundLimit step b

structure Iteration where
  iterator : Value
  next : Value

def beginIteration (v : Value) : Act Iteration := do
  let method ← get v Symbol.iterator
  if !(← isCallable method) then raiseType "value is not iterable"
  let iterator ← call method v []
  if !iterator.isObject then raiseType "not an object"
  return ⟨iterator, ← get iterator "next"⟩

namespace Iteration

variable (it : Iteration)

def step : Act (Option Value) := do
  let r ← call it.next it.iterator []
  if !r.isObject then raiseType "iterator must return an object"
  if (← get r "done").isTruthy then return none else return some (← get r "value")

def close : Act Unit := do
  let f ← Act.get it.iterator "return"
  if !f.isNullish then
    let r ← call f it.iterator []
    if !r.isObject then raiseType "not an object"

/-- Closes the iterator on the way out of an error, whatever that comes to. -/
def closeQuietly : Act Unit := do
  try
    let f ← Act.get it.iterator "return"
    if !f.isNullish then
      let _ ← call f it.iterator []
  catch _ => pure ()

def guarding (x : Act α) : Act α := do
  try x
  catch v =>
    if ← inGuestCode then traceIfLacking v
    holding [v] it.closeQuietly
    throw v

end Iteration

def forEachValue (v : Value) (f : Value → Act Unit) : Act Unit := do
  let it ← beginIteration v
  holding [it.iterator, it.next] <| repeating (fun (_ : Unit) => do
    match ← it.step with
    | none => return .inr ()
    | some x =>
      it.guarding (holding [x] (f x))
      return .inl ()) ()

def iterableToList (v : Value) : Act (List Value) := do
  let it ← beginIteration v
  holding [it.iterator, it.next] <| repeating (fun (acc : List Value) => do
    match ← it.step with
    | none => return .inr acc.reverse
    | some x =>
      charge 16
      hold x
      return .inl (x :: acc)) []

def iterResult (v : Value) (done : Bool) : Act Value := do
  let o ← newObject Intrinsic.objectPrototype
  putProperty o "value" (.plain v)
  putProperty o "done" (.plain (.bool done))
  return .object o

end Act

end Embedding.Guest
