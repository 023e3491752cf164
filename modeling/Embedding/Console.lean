import Embedding.File
import Embedding.Native.Render
import Embedding.World.Context
import Embedding.World.Object

namespace Embedding

structure Console where
  world : World
  runtime : RuntimeId
  context : ContextId
  output : String := ""
deriving Inhabited

namespace Console

inductive Failure where
  | error (e : Error)
  | read (path : String) (why : FileFailure)
  | write (path : String) (why : FileFailure)
deriving Inhabited

namespace Failure

/-- The text of the failure and those of its causes, the outermost first. -/
def texts : Failure → List String
  | error e => e.chain
  | read path why => ["could not read " ++ path, why.message]
  | write path why => ["could not write " ++ path, why.message]

end Failure

def printed (args : List Native) (order : Native → Native := id) : String :=
  " ".intercalate (args.map fun v => (order v).display) ++ "\n"

def handler (order : Native → Native := id) : Handler String where
  call _ args := do
    modifyThe String fun s => s ++ printed args order
    return .ok .null
  drop _ := pure ()

/-- Carries out work on a world; what is printed goes behind the output so far. -/
def perform (world : World) (output : String) (x : Attempt String α) (order : Native → Native := id) :
    (Except Error α × World) × String :=
  ((x.run.run (handler order)).run world).run output

def open_ (config : Config) (order : Native → Native := id) : Except Error Console :=
  let (runtime, world) := World.newRuntime {} config
  let start : Attempt String ContextId := do
    let context ← runtime.newContext
    let global ← context.globalObject
    let _ ← global.setFunction "print" default
    modifyThe World fun w => w.drop global
    return context
  match perform world "" start order with
  | ((.ok context, world), output) => .ok { world, runtime, context, output }
  | ((.error e, _), _) => .error e

def work (x : ContextId → Attempt String α) (order : Native → Native := id) : StateM Console (Except Error α) := do
  let c ← get
  let ((r, world), output) := perform c.world c.output (x c.context) order
  set { c with world, output }
  return r

def evaluate (source : String) (order : Native → Native := id) : StateM Console (Except Error Native) :=
  work (fun c => do (← c.evaluate source).toNative) order

def execute [Bytecode.Format] (b : Bytecode) (order : Native → Native := id) : StateM Console (Except Error Native) :=
  work (fun c => do (← c.evaluateBinary b).toNative) order

def compile [Bytecode.Format] (source : String) (order : Native → Native := id) : StateM Console (Except Error Bytecode) :=
  work (fun c => c.compile source) order

def free : StateM Console Unit := modify fun c =>
  { c with world := (c.world.freeContext c.context).freeRuntime c.runtime }

section Files

variable {m : Type → Type} [Monad m] (files : FileAccess m)

abbrev FileWork (m : Type → Type) := ExceptT Failure (StateT Console m)

def console (x : StateM Console (Except Error α)) : FileWork m α := ExceptT.mk do
  match ← modifyGet fun c => x.run c with
  | .ok a => return .ok a
  | .error e => return .error (.error e)

def readBytes (path : String) : FileWork m (List UInt8) := ExceptT.mk do
  match ← (files.read path : m _) with
  | .ok bytes => return .ok bytes
  | .error why => return .error (.read path why)

def readText (path : String) : FileWork m String := do
  match textOfBytes (← readBytes files path) with
  | .ok s => return s
  | .error why => throw (.read path why)

def evaluateFile (path : String) (order : Native → Native := id) : FileWork m Native := do
  console (evaluate (← readText files path) order)

def executeFile [Bytecode.Format] (path : String) (order : Native → Native := id) : FileWork m Native := do
  console (execute ⟨← readBytes files path⟩ order)

def compileFile [Bytecode.Format] (path target : String) (order : Native → Native := id) : FileWork m Nat := do
  let b ← console (compile (← readText files path) order)
  match ← (files.write target b.bytes : m _) with
  | .ok () => return b.size
  | .error why => throw (.write target why)

end Files

end Console

end Embedding
