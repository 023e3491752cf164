import Embedding.Native.Render
import Embedding.Session.State

namespace Embedding.Session

def shown (v : ValueRef) (showing : Showing) : StepWork Shown := perform do
  let type ← (v.type : Attempt State ValueType).run
  let native ← if showing.typeOnly then pure none else some <$> (v.toNative : Attempt State Native).run
  return { type, native }

/-- Shows a value that is in nobody else's hands, and keeps it or lets go of it. -/
def showOwned (v : ValueRef) (showing : Showing) : StepWork Answer := do
  let s ← shown v showing
  keepOrDrop showing.keepAs v
  return .shown s

def describePending (v : ValueRef) : StepWork String := do
  return "Pending(" ++ (← perform v.description) ++ ")"

def showPending (v : ValueRef) (showing : Showing) : StepWork Answer := do
  let s ← shown v showing
  let description ← if showing.described then some <$> describePending v else pure none
  if let some name := showing.keepAs then storeValue name (← perform v.copy)
  return .shown { s with description }

/-- Carries out an evaluation and shows its result; the context is busy until then. -/
def evaluating (c : ContextId) (x : Attempt State ValueRef) (showing : Showing) : StepWork Answer := do
  let before := (← state).busy
  modifyState fun s => { s with busy := c :: before }
  let answer : Except Problem Answer ← perform (do showPending (← attempt x) showing).run
  modifyState fun s => { s with busy := before }
  ExceptT.mk (pure answer)

def takeObject (v : ValueRef) : StepWork Unit := attempt v.requireObject

def describeObject (v : ValueRef) : StepWork String := do
  return "Object \x7b value: " ++ (← perform v.description) ++ " \x7d"

def viewAnswer (v : ValueRef) (view : View) (index : Option Nat) (showing : Showing) : StepWork Answer := do
  attempt (v.requireView view)
  let count ← attempt (v.countIn view)
  if view.countProperty? = some "length" || view = .buffer then
    let _ ← attempt (v.countIn view)
  let contents ← attempt (v.contentsIn view)
  let kind ← attempt v.kind
  let item ←
    match view, index with
    | .array, some i => do
      let item ← attempt (v.getIndex i)
      let s ← shown item showing
      keepOrDrop showing.keepAs item
      pure (some s)
    | _, _ => pure none
  return .view { view, count, contents, kind, item }

namespace ValueStep

def run (v : ValueRef) : ValueStep → StepWork Answer
  | type => do
    let t ← attempt v.type
    let object ← perform v.asObject?
    return .type t object.isSome
  | toNative => do return .native (← attempt v.toNative)
  | toJson => do return .text (← attempt v.toNative).toJson.text
  | coerceText => do return .text (← attempt v.coerceText)
  | asObject => do return .bool (← perform v.asObject?).isSome
  | intoObject => do
    takeObject v
    return .text (← perform v.description)
  | describe => do return .text (← perform v.description)
  | copy keepAs => do
    storeValue keepAs (← perform v.copy)
    return .nothing
  | drop => do
    modifyWorld fun w => w.drop v
    return .bool true
  | kind => do
    takeObject v
    return .text (← attempt v.kind).constructorName
  | objectToNative => do
    takeObject v
    return .native (← attempt v.objectToNative)
  | get name showing => do
    takeObject v
    showOwned (← attempt (v.get name)) showing
  | getIndex index showing => do
    takeObject v
    showOwned (← attempt (v.getIndex index)) showing
  | set name value => do
    takeObject v
    attempt (v.set name value)
    return .nothing
  | setValue name value => do
    takeObject v
    let x ← findValue value
    attempt (v.setValue name x)
    return .nothing
  | call name args showing => do
    takeObject v
    showOwned (← attempt (v.call name args)) showing
  | setFunction name f handle => do
    takeObject v
    let h ← attempt (v.setFunction name f)
    storeHandle handle h
    return .handle h
  | view as_ index showing => do
    takeObject v
    viewAnswer v as_ index showing

end ValueStep

def readConfig (config : Option String) : StepWork Config :=
  match config with
  | none => return {}
  | some text =>
    match Config.decode text with
    | .ok c => return c
    | .error f => throw (.config f)

def programOf : ProgramSource → StepWork Bytecode
  | .named name => do find (← state).programs name
  | .bytes data => return ⟨data⟩

namespace Step

def run : Step → StepWork Answer
  | newRuntime name config => do
    let config ← readConfig config
    let r ← perform (modifyGetThe World fun w => w.newRuntime config)
    storeRuntime name r
    return .config config
  | dropRuntime name => do
    match (← state).runtimes.lookup name with
    | none => return .bool false
    | some r =>
      modifyState fun s => { s with runtimes := s.runtimes.erase name }
      modifyWorld fun w => w.dropRuntime r
      return .bool true
  | freeRuntime name => do
    let r ← findRuntime name
    modifyWorld fun w => w.freeRuntime r
    return .nothing
  | runtimeState name => do
    let r ← findRuntime name
    return .runtimeState ((← world).runtime r)
  | collect name => do
    let r ← findRuntime name
    attempt r.collect
    return .nothing
  | memoryUsage name => do
    let r ← findRuntime name
    return .memory (← attempt r.memoryUsage)
  | newContext runtime name => do
    let r ← findRuntime runtime
    let c ← attempt r.newContext
    storeContext name c
    return .nothing
  | dropContext name => do
    if ((← state).contexts.lookup name).isNone then return .bool false
    let c ← findContext name
    modifyState fun s => { s with contexts := s.contexts.erase name }
    modifyWorld fun w => w.dropContext c
    return .bool true
  | freeContext name => do
    let c ← findContext name
    modifyWorld fun w => w.freeContext c
    return .nothing
  | contextState name => do
    let c ← findContext name
    return .contextState ((← world).context c)
  | evaluate name source showing => do
    let c ← findContext name
    evaluating c (c.evaluate source) showing
  | compile name source program => do
    let c ← findContext name
    let b ← attempt (c.compile source)
    modifyState fun s => { s with programs := s.programs.put program b }
    return .compiled b
  | evaluateBinary name program showing => do
    let c ← findContext name
    let b ← programOf program
    evaluating c (c.evaluateBinary b) showing
  | globalObject name keepAs => do
    let c ← findContext name
    let v ← attempt c.globalObject
    let description ← describeObject v
    keepOrDrop keepAs v
    return .text description
  | register name f handle keepAs => do
    let c ← findContext name
    let (h, v) ← attempt (c.register f)
    keepOrDrop keepAs v
    storeHandle handle h
    return .handle h
  | unregister name handle => do
    let c ← findContext name
    let h ← find (← state).handles handle
    let found ← perform (modifyGetThe World fun w => w.unregister c h)
    return .bool found
  | value name step => do
    match step, (← state).values.lookup name with
    | .drop, none => return .bool false
    | .drop, some v =>
      modifyState fun s => { s with values := s.values.erase name }
      step.run v
    | _, some v => step.run v
    | _, none => throw (.unknownName name)

end Step

/-- Carries out steps inside a callback and records their outcomes. A strict callback fails with the first
error of an operation, which is not recorded. -/
def runInCallback (strict : Bool) : List Step → Work State (Except HostFailure Native)
  | [] => return .ok (.bool true)
  | step :: rest => do
    let outcome ← step.run.run
    match strict, outcome with
    | true, .error (.error e) => return .error (HostFailure.ofError e)
    | _, _ => do
      record (.outcome outcome)
      runInCallback strict rest

def callFunction (f : HostFunction) (args : List Native) : Work State (Except HostFailure Native) := do
  if let some label := f.label then record (.call label args)
  match f.behaviour with
  | .steps steps strict => runInCallback strict steps
  | b => return b.answer args

/-- The handler of the host functions of a session, for callbacks that are nested no deeper than so many
levels. The functions own nothing, so nothing goes with them. -/
def handler : Nat → Handler State
  | 0 => ⟨fun _ _ => return .error "callbacks are nested too deeply", fun _ => pure ()⟩
  | depth + 1 => {
      call := fun f args => do
        let table := (← getThe State).functions
        match table[f.id]? with
        | none => return .error "no such function"
        | some function =>
          match ← (callFunction function args).run (handler depth) with
          | .ok v => return .ok v
          | .error e => return .error e.chain
      drop := fun _ => pure () }

def nestingLimit : Nat := 64

def runStep (step : Step) : StateT World (StateM State) StepResult := do
  modifyThe State fun s => { s with records := [] }
  modify fun w => { w with events := [] }
  let outcome ← step.run.run.run (handler nestingLimit)
  return ⟨outcome, (← getThe State).records.reverse, (← get).events.reverse⟩

def runSteps : List Step → StateT World (StateM State) (List StepResult)
  | [] => return []
  | s :: rest => do
    let r ← runStep s
    return r :: (← runSteps rest)

/-- A session: it starts with a runtime and a context in it, unless it is bare. -/
structure Script where
  bare : Bool := false
  config : Option String := none
  functions : Array HostFunction := #[]
  steps : List Step

namespace Script

def opening (s : Script) : List Step :=
  if s.bare then [] else [.newRuntime "r" s.config, .newContext "r" "c"]

/-- The results of the steps, or the problem with which the session could not start. Of a session that panics there are
no results. -/
def run (s : Script) : Except Problem (List StepResult) :=
  let session : StateT World (StateM State) (Except Problem (List StepResult)) := do
    match (← runSteps s.opening).findSome? StepResult.problem? with
    | some p => return .error p
    | none =>
      let results ← runSteps s.steps
      return if (← get).hasPanicked then .error .panicked else .ok results
  ((session.run {}).run { functions := s.functions }).1.1

end Script

def callAlone (functions : Array HostFunction) (f : HostFn) (args : List Native) : Except HostFailure Native :=
  let function := functions.getD f.id { behaviour := .echo }
  ((((callFunction function args).run (handler nestingLimit)).run {}).run { functions }).1.1

end Embedding.Session
