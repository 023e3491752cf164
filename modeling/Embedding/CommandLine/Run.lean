import Embedding.CommandLine.Help
import Embedding.Console

namespace Embedding.CommandLine

inductive Failure where
  | console (f : Console.Failure)
  | config (path : String) (f : Json.Failure)
  | installed
deriving Inhabited

namespace Failure

/-- The text of the failure and those of its causes, the outermost first. -/
def texts : Failure → List String
  | console f => f.texts
  | config path f => ["invalid config " ++ path, f.text]
  | installed => ["embedding config was already installed"]

def indented (width : Nat) (s : String) : String :=
  let pad := String.ofList (List.replicate width ' ')
  "\n".intercalate ((s.splitOn "\n").map fun line => if line.isEmpty then line else pad ++ line)

/-- The causes below the text of the failure. They are numbered when there are several. -/
def report (f : Failure) : String :=
  match f.texts with
  | [] => "Error: \n"
  | [s] => "Error: " ++ s ++ "\n"
  | [s, cause] => "Error: " ++ s ++ "\n\nCaused by:\n" ++ indented 4 cause ++ "\n"
  | s :: causes =>
    "Error: " ++ s ++ "\n\nCaused by:\n" ++
      "\n".intercalate (causes.zipIdx.map fun (cause, i) => "    " ++ toString i ++ ": " ++ cause) ++ "\n"

end Failure

structure Outcome where
  exit : Nat
  stdout : String
  stderr : String
deriving DecidableEq, Inhabited

section

variable {m : Type → Type} [Monad m] (files : FileAccess m)

def readConfig : Option String → m (Except Failure Config)
  | none => return .ok {}
  | some path => do
    match ← files.read path with
    | .error why => return .error (.console (.read path why))
    | .ok bytes =>
      match textOfBytes bytes with
      | .error why => return .error (.console (.read path why))
      | .ok text =>
        match Config.decode text with
        | .ok c => return .ok c
        | .error f => return .error (.config path f)

def Command.perform (order : Native → Native := id) : Command → Console.FileWork m Native
  | .run file => Console.evaluateFile files file order
  | .eval code => Console.console (Console.evaluate code order)
  | .exec file => Console.executeFile files file order
  | .compile file output => do
    let _ ← Console.compileFile files file output order
    return .null

def resultText (v : Native) : String := if v.isNull then "" else v.toJson.text ++ "\n"

/-- Carries out a command and frees the console, which is left as it is where the command fails. -/
def Command.conclude (order : Native → Native := id) (c : Command) : Console.FileWork m String := do
  let v ← c.perform files order
  Console.console do
    Console.free
    return .ok (resultText (order v))

def execute (a : Arguments) (order : Native → Native := id) : m Outcome := do
  match ← readConfig files a.config with
  | .error f => return ⟨1, "", f.report⟩
  | .ok config =>
    match ({} : Config.Settled).install config with
    | (some _, _) => return ⟨1, "", Failure.installed.report⟩
    | (none, settled) =>
      match Console.open_ settled.current.1 order with
      | .error e => return ⟨1, "", (Failure.console (.error e)).report⟩
      | .ok console =>
        match ← ((a.command.conclude files order).run).run console with
        | (.ok line, console) => return ⟨0, console.output ++ line, ""⟩
        | (.error f, console) => return ⟨1, console.output, (Failure.console f).report⟩

def run (args : List String) (order : Native → Native := id) : m Outcome := do
  match Arguments.ofList args with
  | .ok a => execute files a order
  | .error r =>
    match r.answer? with
    | some text => return ⟨0, text, ""⟩
    | none => return ⟨2, "", ""⟩

end

end Embedding.CommandLine
