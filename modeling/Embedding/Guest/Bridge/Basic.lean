import Embedding.Guest.Collect
import Embedding.Guest.Operator

namespace Embedding.Guest

abbrev Bridge (α : Type) := ExceptT Error Act α

namespace Bridge

def ofGuest (x : Act α) : Bridge α := ExceptT.mk do return .ok (← x)

def ofExcept (x : Except Error α) : Bridge α := ExceptT.mk (pure x)

def holding (vs : List Value) (x : Bridge α) : Bridge α := ExceptT.mk (Act.holding vs x.run)

def deeper (x : Bridge α) : Bridge α := ExceptT.mk (Act.deeper x.run)

def borrowing (x : Bridge α) : Bridge α := ExceptT.mk (Act.borrowing x.run)

def hostText (t : Text) : Except Error String :=
  match t.toString? with
  | .ok s => .ok s
  | .error offset => .error (.engine (.badText offset))

def textOrNone (v : Value) : Act (Option String) := do
  tryCatch (do return (hostText (← Act.toText v)).toOption) fun _ => return none

/-- The exception that a thrown value stands for. Looking at it may run guest code. -/
def exceptionOf (v : Value) : Act Exception := Act.holding [v] do
  let cause := (← textOrNone v).getD "<unprintable exception>"
  match v with
  | .object o =>
    let stack ← tryCatch (Act.getFrom o "stack" v) fun _ => return .undefined
    return ⟨cause, ← if stack.isUndefined then pure none else textOrNone stack⟩
  | _ => return ⟨cause, none⟩

def check (x : Act α) : Bridge α := ExceptT.mk do
  tryCatch (do return .ok (← x)) fun v => do return .error (.eval (← exceptionOf v))

def ask (q : Query) (hq : ∀ call, q ≠ .dropCall call := by nofun) : Bridge q.Reply := ofGuest (Act.ask q hq)

def report (n : Note) : Bridge Unit := ask (.report n)

def requireLive : Bridge Unit := do
  if ← ask .isReleased then throw (.freed .context)

def engineType (v : Value) : Act String := do
  match v with
  | .undefined => return "undefined"
  | .null => return "null"
  | .bool _ => return "bool"
  | .number d =>
    match d.toInt? with
    | some n => return if -(2 ^ 31) ≤ n && n < 2 ^ 31 && !d.isNegativeZero then "int" else "float"
    | none => return "float"
  | .bigint _ => return "bigint"
  | .text _ => return "string"
  | .symbol _ => return "symbol"
  | .object o =>
    let x ← Act.object o
    if ← tryCatch (Act.isArray o) fun _ => return true then return "array"
    else if x.isConstructor then return "constructor"
    else if x.isCallable then return "function"
    else
      match x.payload with
      | .promise _ => return "promise"
      | .error => return "exception"
      | _ => return "object"

def wrongType (v : Value) (wanted : String) : Bridge α := do
  throw (.engine (.wrongType (← ofGuest (engineType v)) wanted))

def asDouble (v : Value) : Bridge Double :=
  match v with
  | .number d => return d
  | _ => wrongType v "f64"

def coerceText (v : Value) : Bridge String := do
  let t ← check (Act.toText v)
  ofExcept (hostText t)

def getProperty (o : ObjectId) (name : String) : Bridge Value := check (Act.getFrom o name (.object o))

def wordLimit : Int := 2 ^ 64 - 1

def addWords (a b : Nat) : Bridge Nat :=
  if a + b ≤ wordLimit.toNat then return a + b else ofGuest Act.panic

def countOf (o : ObjectId) (property : String) : Bridge Nat := do
  let d ← asDouble (← getProperty o property)
  return (d.clamp 0 wordLimit).toNat

def callMethod (o : ObjectId) (name : String) (args : List Value) : Bridge Value := do
  let f ← getProperty o name
  if !(← ofGuest (Act.isCallable f)) then wrongType f "function"
  check (Act.holding (f :: .object o :: args) (Act.call f (.object o) args))

def caught (x : Bridge α) : Bridge α := ExceptT.mk do
  tryCatch x.run fun v => do return .error (.eval (← exceptionOf v))

def pin (v : Value) : Bridge Nat := ask (.pin v)

def pinned (id : Nat) : Bridge Value := do return (← ask (.pinned id)).getD .undefined

def hold (v : Value) : Bridge Unit := ofGuest (Act.hold v)

end Bridge

end Embedding.Guest
