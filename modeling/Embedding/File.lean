import Embedding.Text.Units

namespace Embedding

inductive FileFailure where
  | missing
  | notDirectory
  | isDirectory
  | badText
  | other (text : String)
deriving DecidableEq, Inhabited

namespace FileFailure

def message : FileFailure → String
  | missing => "No such file or directory (os error 2)"
  | notDirectory => "Not a directory (os error 20)"
  | isDirectory => "Is a directory (os error 21)"
  | badText => "stream did not contain valid UTF-8"
  | other text => text

end FileFailure

structure FileAccess (m : Type → Type) where
  read : String → m (Except FileFailure (List UInt8))
  write : String → List UInt8 → m (Except FileFailure Unit)

def textOfBytes (bytes : List UInt8) : Except FileFailure String :=
  match String.fromUTF8? ⟨bytes.toArray⟩ with
  | some s => .ok s
  | none => .error .badText

abbrev Directory := List (String × List UInt8)

namespace Directory

inductive Target
  | directory
  | file (name : String)
deriving DecidableEq

/-- What the parts of a path lead to; a name that is followed by more must be that of a directory, and there is
none but the directory itself. -/
def walk (d : Directory) : List String → Except FileFailure Target
  | [] => .ok .directory
  | "" :: rest => walk d rest
  | "." :: rest => walk d rest
  | [name] => if name = ".." then .error .missing else .ok (.file name)
  | name :: _ :: _ => .error (if (d.lookup name).isSome then .notDirectory else .missing)

def resolve (d : Directory) (path : String) : Except FileFailure Target :=
  if path.isEmpty || path.startsWith "/" then .error .missing else walk d (path.splitOn "/")

def read (d : Directory) (path : String) : Except FileFailure (List UInt8) := do
  match ← d.resolve path with
  | .directory => throw .isDirectory
  | .file name =>
    match d.lookup name with
    | some bytes => return bytes
    | none => throw .missing

def put (d : Directory) (name : String) (bytes : List UInt8) : Directory :=
  (name, bytes) :: d.filter fun e => e.1 != name

def write (d : Directory) (path : String) (bytes : List UInt8) : Except FileFailure Directory := do
  match ← d.resolve path with
  | .directory => throw .isDirectory
  | .file name => return d.put name bytes

def names (d : Directory) : List String := (d.map (·.1)).mergeSort fun a b => decide (a ≤ b)

def access : FileAccess (StateM Directory) where
  read path := do return (← get).read path
  write path bytes := do
    match (← get).write path bytes with
    | .ok d =>
      set d
      return .ok ()
    | .error e => return .error e

end Directory

end Embedding
