import Embedding.Guest.Builtin.Number

namespace Embedding.Guest.Act

/-- The big integer that a value converts to when it is asked to become one. -/
def bigIntOfValue (v : Value) : Act Int := do
  match ← toPrimitive v .number with
  | .number d =>
    if !d.isFinite then raiseRange "cannot convert NaN or Infinity to BigInt"
    match d.toInt? with
    | some n => return n
    | none => raiseRange "cannot convert to BigInt: not an integer"
  | p => primitiveToBigInt p

def thisPrimitive (this : Value) (accept : Value → Bool) (message : String) : Act Value := do
  if accept this then return this
  match this with
  | .object o =>
    match (← object o).payload with
    | .primitive v => if accept v then return v else raiseType message
    | _ => raiseType message
  | _ => raiseType message

def thisBoolean (this : Value) : Act Value := thisPrimitive this (fun v =>
  match v with
  | .bool _ => true
  | _ => false) "not a boolean"

def thisSymbol (this : Value) : Act Value := thisPrimitive this (fun v =>
  match v with
  | .symbol _ => true
  | _ => false) "not a symbol"

def thisBigInt (this : Value) : Act Value := thisPrimitive this (fun v =>
  match v with
  | .bigint _ => true
  | _ => false) "not a bigint"

def symbolText (s : Symbol) : Text :=
  Text.ofString "Symbol(" ++ s.description.getD Text.empty ++ Text.ofString ")"

def sharedSymbol (t : Text) : Act Symbol := do
  match (← machine).sharedSymbols.lookup t with
  | some s => return s
  | none =>
    let s ← newSymbol (some t)
    modifyMachine fun m => { m with sharedSymbols := (t, s) :: m.sharedSymbols }
    return s

def primitiveFn (f : PrimitiveFn) (this : Value) (args : List Value) (newTarget : Value) : Act Value := do
  let a := arg args 0
  match f with
  | .constructBoolean => wrapped newTarget Intrinsic.booleanPrototype (.bool a.isTruthy)
  | .booleanToString => do
    match ← thisBoolean this with
    | .bool b => return .ofString (if b then "true" else "false")
    | v => return v
  | .booleanValueOf => thisBoolean this
  | .constructSymbol =>
    if !newTarget.isUndefined then raiseType "not a constructor"
    let description ← if a.isUndefined then pure none else do pure (some (← toText a))
    return .symbol (← newSymbol description)
  | .symbolFor => return .symbol (← sharedSymbol (← toText a))
  | .symbolKeyFor =>
    match a with
    | .symbol s =>
      match (← machine).sharedSymbols.find? fun e => e.2 == s with
      | some (t, _) => return .text t
      | none => return .undefined
    | _ => raiseType "not a symbol"
  | .symbolToString => do
    match ← thisSymbol this with
    | .symbol s => return .text (symbolText s)
    | v => return v
  | .symbolValueOf => thisSymbol this
  | .symbolToPrimitive => thisSymbol this
  | .symbolDescription => do
    match ← thisSymbol this with
    | .symbol s => return match s.description with
      | some t => .text t
      | none => .undefined
    | v => return v
  | .constructBigInt =>
    if !newTarget.isUndefined then raiseType "not a constructor"
    return .bigint (← bigIntOfValue a)
  | .asUintN =>
    let bits ← toBufferIndex a
    let n ← toBigInt (arg args 1)
    if 1000000 < bits then return .bigint n else return .bigint (n % 2 ^ bits)
  | .asIntN =>
    let bits ← toBufferIndex a
    let n ← toBigInt (arg args 1)
    if bits = 0 then return .bigint 0
    else if 1000000 < bits then return .bigint n
    else return .bigint (signedOf bits (n % 2 ^ bits).toNat)
  | .bigintToString => do
    match ← thisBigInt this with
    | .bigint n => newText (intText (← radixArgument a) n)
    | v => return v
  | .bigintValueOf => thisBigInt this

end Embedding.Guest.Act
