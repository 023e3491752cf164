import Embedding.Guest.Machine

namespace Embedding.Guest

/-- A name inside an error message: long names with other characters than ASCII are cut. -/
def shownName (t : Text) : String :=
  let s := t.toStringLossy
  if s.toList.all fun c => c.toNat < 128 then s
  else
    let go := s.toList.foldl (fun (acc : List Char × Nat) c =>
      if 58 ≤ acc.2 then acc else (c :: acc.1, acc.2 + c.utf8Size)) ([], 0)
    String.ofList go.1.reverse

def Key.shown : Key → String
  | .text t => shownName t
  | .symbol s => shownName (s.description.getD Text.empty)

namespace Act

def newObject (proto : ObjectId) (payload : Payload := .ordinary) : Act ObjectId :=
  alloc { proto := some proto, payload }

def frameName (m : Machine) (f : Frame) : String :=
  match f.function with
  | none => "<eval>"
  | some id =>
    match (m.objects.getD id default).property? "name" with
    | some ⟨.data (.text t) _, _, _⟩ => if t.isEmpty then "<anonymous>" else t.toStringLossy
    | _ => "<anonymous>"

def frameText (m : Machine) (f : Frame) : String :=
  "    at " ++ frameName m f ++
    (if f.isNative then " (native)\n" else " (<input>:" ++ toString f.line ++ ")\n")

def stackText (m : Machine) (frames : List Frame) : String :=
  String.join (frames.map (frameText m))

def traceError (o : ObjectId) (skipFirst : Bool := false) : Act Unit := do
  let m ← machine
  let frames := if skipFirst then m.frames.tail else m.frames
  putProperty o "stack" ⟨.data (Value.ofString (stackText m frames)) true, false, true⟩

def lacksTrace (v : Value) : Act Bool := do
  match v with
  | .object o =>
    let x ← object o
    return x.isError && (x.property? "stack").isNone
  | _ => return false

def traceIfLacking (v : Value) : Act Unit := do
  if ← lacksTrace v then
    match v with
    | .object o => traceError o
    | _ => pure ()

def messageLimit : Nat := 255

def cutMessage (s : String) : String :=
  if s.utf8ByteSize ≤ messageLimit then s
  else
    let go := s.toList.foldl (fun (acc : List Char × Nat × Bool) c =>
      if acc.2.2 || messageLimit < acc.2.1 + c.utf8Size then (acc.1, acc.2.1, true)
      else (c :: acc.1, acc.2.1 + c.utf8Size, false)) ([], 0, false)
    String.ofList go.1.reverse

def newError (kind : ErrorKind) (message : String) : Act ObjectId := do
  let o ← newObject (Intrinsic.errorPrototype kind) .error
  putProperty o "message" (.method (Value.ofString (cutMessage message)))
  return o

def inGuestCode : Act Bool := do
  match (← machine).frames with
  | f :: _ => return !f.isNative
  | [] => return false

/-- Throws an error of a kind. In guest code it gets its trace when it passes. -/
def raise (kind : ErrorKind) (message : String) : Act α := do
  let o ← newError kind message
  if !(← inGuestCode) then traceError o
  throw (Value.object o)

def raiseType (message : String) : Act α := raise .type message

def raiseRange (message : String) : Act α := raise .range message

/-- A source that cannot be read: the trace begins with the place in it. -/
def raiseSyntax (message : String) (line : Option Nat) : Act α := do
  let o ← newError .syntaxError message
  let m ← machine
  let place := match line with
    | some n => "    at <input>:" ++ toString n ++ "\n"
    | none => ""
  if let some n := line then
    putProperty o "fileName" (.method (Value.ofString "<input>"))
    putProperty o "lineNumber" (.method (Value.ofNat n))
  putProperty o "stack" ⟨.data (Value.ofString (place ++ stackText m m.frames)) true, false, true⟩
  throw (Value.object o)

def raiseNotDefined (name : String) : Act α :=
  raise .reference ("'" ++ shownName name ++ "' is not defined")

def raiseUninitialized (name : String) : Act α :=
  raise .reference (shownName name ++ " is not initialized")

def raiseOutOfMemory : Act α := do
  let o ← newError .internal "out of memory"
  throw (Value.object o)

/-- Takes memory for large data; the run fails when the limit of the machine is passed. -/
def charge (bytes : Nat) : Act Unit := do
  let m ← machine
  let total := m.memory + bytes
  match m.memoryLimit with
  | some limit =>
    if limit < total then raiseOutOfMemory else modifyMachine fun m => { m with memory := total }
  | none => modifyMachine fun m => { m with memory := total }

end Act

end Embedding.Guest
