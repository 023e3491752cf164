namespace Embedding.CommandLine

inductive Command where
  | run (file : String)
  | eval (code : String)
  | compile (file output : String)
  | exec (bytecode : String)
deriving DecidableEq, Inhabited

structure Arguments where
  config : Option String := none
  log : String := "warn"
  command : Command
deriving DecidableEq, Inhabited

inductive Topic
  | all
  | run
  | eval
  | compile
  | exec
  | help
deriving DecidableEq, Inhabited

inductive Refusal where
  | help (topic : Topic)
  | version
  | nothingGiven
  | missingSubcommand
  | invalidSubcommand
  | missingArgument
  | unknownArgument
  | invalidValue
  | repeated
  | tooManyValues
deriving DecidableEq, Inhabited

inductive OptionName
  | config
  | log
  | output
deriving DecidableEq, Inhabited

inductive Slot
  | option (name : OptionName)
  | place
deriving DecidableEq, Inhabited

/-- What a command takes. Options without a value are those for help and for the version. -/
structure Grammar where
  topic : Topic
  hasSubcommands : Bool := false
  hasVersion : Bool := false
  places : Nat := 0
  placesArePaths : Bool := true
  takesOutput : Bool := false
deriving Inhabited

namespace Grammar

def main : Grammar := { topic := .all, hasSubcommands := true, hasVersion := true }

variable (g : Grammar)

def longOption? (name : String) : Option OptionName :=
  if name = "config" then some .config
  else if name = "log" then some .log
  else if name = "output" && g.takesOutput then some .output
  else none

def isPath : Slot → Bool
  | .option .log => false
  | .option _ => true
  | .place => g.placesArePaths

end Grammar

inductive Subcommand
  | run
  | eval
  | compile
  | exec
  | help
deriving DecidableEq, Inhabited

namespace Subcommand

def ofName? (name : String) : Option Subcommand :=
  [("run", run), ("eval", eval), ("compile", compile), ("exec", exec), ("help", help)].lookup name

def topic : Subcommand → Topic
  | run => .run
  | eval => .eval
  | compile => .compile
  | exec => .exec
  | help => .help

def grammar (c : Subcommand) : Grammar :=
  { topic := c.topic, places := 1, placesArePaths := c != eval, takesOutput := c == compile }

end Subcommand

structure Scan where
  found : List (Slot × String) := []
  /-- The argument that is not settled yet, without a value where one is still to come. -/
  pending : Option (Slot × Option String) := none
  placed : Nat := 0
  onlyPlaces : Bool := false
deriving Inhabited

namespace Scan

def store (g : Grammar) (s : Scan) (slot : Slot) (value : String) : Except Refusal Scan :=
  if slot != .place && (s.found.lookup slot).isSome then .error .repeated
  else if value.isEmpty && g.isPath slot then .error .invalidValue
  else .ok { s with found := (slot, value) :: s.found, pending := none }

def settle (g : Grammar) (s : Scan) : Except Refusal Scan :=
  match s.pending with
  | none => .ok s
  | some (_, none) => .error .invalidValue
  | some (slot, some value) => { s with pending := none }.store g slot value

def awaits (s : Scan) : Bool :=
  match s.pending with
  | some (_, none) => true
  | _ => false

def fill (s : Scan) (value : String) : Scan :=
  { s with pending := s.pending.map fun p => (p.1, some value) }

def beginOption (g : Grammar) (s : Scan) (name : OptionName) (attached : Option String) : Except Refusal Scan := do
  let s ← s.settle g
  match attached with
  | some value => s.store g (.option name) value
  | none => return { s with pending := some (.option name, none) }

def long (g : Grammar) (s : Scan) (text : String) : Except Refusal Scan :=
  let name := String.ofList (text.toList.takeWhile (· != '='))
  let attached := if text.contains '=' then some (String.ofList ((text.toList.dropWhile (· != '=')).drop 1)) else none
  match g.longOption? name with
  | some o => s.beginOption g o attached
  | none =>
    if name = "help" || (name = "version" && g.hasVersion) then
      if attached.isSome then .error .tooManyValues
      else do
        let _ ← s.settle g
        .error (if name = "help" then .help g.topic else .version)
    else .error .unknownArgument

def short (g : Grammar) (s : Scan) (text : List Char) : Except Refusal Scan :=
  match text with
  | 'h' :: _ => do
    let _ ← s.settle g
    .error (.help g.topic)
  | 'V' :: _ => if g.hasVersion then do let _ ← s.settle g; .error .version else .error .unknownArgument
  | 'o' :: rest =>
    if g.takesOutput then
      let attached := match rest with
        | [] => none
        | '=' :: value => some (String.ofList value)
        | value => some (String.ofList value)
      s.beginOption g .output attached
    else .error .unknownArgument
  | _ => .error .unknownArgument

def place (g : Grammar) (s : Scan) (text : String) : Except Refusal Scan :=
  if s.placed < g.places then do
    let s ← s.settle g
    return { s with pending := some (.place, some text), placed := s.placed + 1 }
  else if s.onlyPlaces && g.hasSubcommands && (Subcommand.ofName? text).isSome then .error .unknownArgument
  else if g.hasSubcommands then .error .invalidSubcommand
  else .error .unknownArgument

def argument (g : Grammar) (s : Scan) (text : String) : Except Refusal Scan :=
  if s.onlyPlaces then s.place g text
  else if text = "--" then .ok { s with onlyPlaces := true }
  else
    match text.toList with
    | '-' :: '-' :: rest => s.long g (String.ofList rest)
    | '-' :: c :: rest => s.short g (c :: rest)
    | _ => if s.awaits then .ok (s.fill text) else s.place g text

def arguments (g : Grammar) (s : Scan) : List String → Except Refusal (Scan × Option (Subcommand × List String))
  | [] => .ok (s, none)
  | text :: rest =>
    match if g.hasSubcommands && !s.onlyPlaces && !s.awaits then Subcommand.ofName? text else none with
    | some c => .ok (s, some (c, rest))
    | none => do
      let s ← s.argument g text
      arguments g s rest

def value? (s : Scan) (slot : Slot) : Option String := s.found.lookup slot

end Scan

def readCommand (c : Subcommand) (args : List String) : Except Refusal (Scan × Command) := do
  let (s, _) ← Scan.arguments c.grammar {} args
  let s ← s.settle c.grammar
  match c, s.value? .place, s.value? (.option .output) with
  | .run, some file, _ => return (s, .run file)
  | .eval, some code, _ => return (s, .eval code)
  | .compile, some file, some output => return (s, .compile file output)
  | .exec, some file, _ => return (s, .exec file)
  | _, _, _ => throw .missingArgument

def helpTopic : List String → Refusal
  | [] => .help .all
  | [name] =>
    match Subcommand.ofName? name with
    | some c => .help c.topic
    | none => .invalidSubcommand
  | _ => .invalidSubcommand

/-- Reads the arguments of the program. Options that stand behind the command go before those in front of
it. -/
def Arguments.ofList (args : List String) : Except Refusal Arguments := do
  let g := Grammar.main
  let (s, sub) ← Scan.arguments g {} args
  match sub with
  | none =>
    let s ← s.settle g
    throw (if s.found.isEmpty then .nothingGiven else .missingSubcommand)
  | some (.help, rest) => throw (helpTopic rest)
  | some (c, rest) =>
    let (inner, command) ← readCommand c rest
    let s ← s.settle g
    let pick (o : OptionName) := (inner.value? (.option o)).or (s.value? (.option o))
    return { config := pick .config, log := (pick .log).getD "warn", command }

end Embedding.CommandLine
