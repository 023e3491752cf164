import Embedding.Session.Answer

namespace Embedding.Session

abbrev Names (α : Type) := List (String × α)

namespace Names

variable (names : Names α)

def erase (name : String) : Names α := names.filter fun e => e.1 != name

def put (name : String) (x : α) : Names α := (name, x) :: Names.erase names name

end Names

structure State where
  runtimes : Names RuntimeId := []
  contexts : Names ContextId := []
  values : Names ValueRef := []
  programs : Names Bytecode := []
  handles : Names Handle := []
  functions : Array HostFunction := #[]
  busy : List ContextId := []
  /-- What has happened in the callbacks of the step, the last first. -/
  records : List Record := []
deriving Inhabited

abbrev StepWork := ExceptT Problem (Work State)

def state : StepWork State := getThe State

def modifyState (f : State → State) : StepWork Unit := modifyThe State f

def world : StepWork World := getThe World

def modifyWorld (f : World → World) : StepWork Unit := modifyThe World f

def attempt (x : Attempt State α) : StepWork α := ExceptT.mk do
  match ← x.run with
  | .ok a => return .ok a
  | .error e => return .error (.error e)

def perform (x : Work State α) : StepWork α := ExceptT.mk do return .ok (← x)

def record (r : Record) : Work State Unit := modifyThe State fun s => { s with records := r :: s.records }

def find (names : Names α) (name : String) : StepWork α :=
  match names.lookup name with
  | some x => return x
  | none => throw (.unknownName name)

def findRuntime (name : String) : StepWork RuntimeId := do find (← state).runtimes name

def findContext (name : String) : StepWork ContextId := do
  let s ← state
  let c ← find s.contexts name
  if c ∈ s.busy then throw .busy
  return c

def findValue (name : String) : StepWork ValueRef := do find (← state).values name

def storeRuntime (name : String) (r : RuntimeId) : StepWork Unit := do
  let old := (← state).runtimes.lookup name
  modifyState fun s => { s with runtimes := s.runtimes.put name r }
  if let some old := old then modifyWorld fun w => w.dropRuntime old

def storeContext (name : String) (c : ContextId) : StepWork Unit := do
  let old := (← state).contexts.lookup name
  modifyState fun s => { s with contexts := s.contexts.put name c }
  if let some old := old then modifyWorld fun w => w.dropContext old

def storeValue (name : String) (v : ValueRef) : StepWork Unit := do
  let old := (← state).values.lookup name
  modifyState fun s => { s with values := s.values.put name v }
  if let some old := old then modifyWorld fun w => w.drop old

def keepOrDrop (name : Option String) (v : ValueRef) : StepWork Unit :=
  match name with
  | some name => storeValue name v
  | none => modifyWorld fun w => w.drop v

def storeHandle (name : Option String) (h : Handle) : StepWork Unit :=
  match name with
  | some name => modifyState fun s => { s with handles := s.handles.put name h }
  | none => pure ()

end Embedding.Session
