import Embedding.CommandLine.Run

namespace Embedding.Main

def failureOf : IO.Error → FileFailure
  | .noFileOrDirectory .. => .missing
  | .inappropriateType .. => .isDirectory
  | e => .other (toString e)

def systemFiles : FileAccess IO where
  read path := do
    try return .ok (← IO.FS.readBinFile path).toList
    catch e => return .error (failureOf e)
  write path bytes := do
    try
      IO.FS.writeBinFile path ⟨bytes.toArray⟩
      return .ok ()
    catch e => return .error (failureOf e)

end Embedding.Main

def main (args : List String) : IO UInt32 := do
  let outcome ← Embedding.CommandLine.run Embedding.Main.systemFiles args
  IO.print outcome.stdout
  IO.eprint outcome.stderr
  return outcome.exit.toUInt32
