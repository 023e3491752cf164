import Embedding.Bytecode
import Embedding.Guest.Bridge.Basic
import Embedding.Guest.Evaluate.Program

namespace Embedding.Guest.Bridge

/-- Tells the kind of a source and reports what is about to be done with it. -/
def beginSource (source : String) (compileOnly : Bool) : Bridge SourceKind := do
  let kind ← ofExcept (SourceKind.ofSource source)
  report (.evaluating kind source.utf8ByteSize compileOnly)
  return kind

def evaluate (source : String) : Bridge Value := do
  let kind ← beginSource source false
  check do
    let p ← Act.prepare kind source
    Act.runGlobal p (← Act.newProgram)

def asCompileError : Error → Error
  | .eval e => .compile e
  | e => e

variable [Bytecode.Format]

def bytesCompiled (kind : SourceKind) (source : String) : Bridge (List UInt8) := do
  let p ← check (Act.prepare kind source)
  match Bytecode.Format.write p with
  | .ok bytes => return bytes
  | .error message => check (Act.raise .internal message)

def compile (source : String) : Bridge Bytecode := do
  let kind ← beginSource source true
  let bytes ← tryCatch (bytesCompiled kind source) fun e => throw (asCompileError e)
  if bytes.isEmpty then throw (.compile { cause := "serialization produced no bytecode", stack := none })
  report (.compiled bytes.length)
  return ⟨bytes⟩

/-- Runs a compiled program. How its functions were written is forgotten. -/
def evaluateBinary (b : Bytecode) : Bridge Value :=
  check do
    match Bytecode.Format.read b.bytes with
    | .error message => Act.raise .syntaxError message
    | .ok p =>
      Act.resolveRequests p
      let program ← Act.newProgram
      Act.ask (.forgetTexts program)
      Act.runGlobal p program

end Embedding.Guest.Bridge
