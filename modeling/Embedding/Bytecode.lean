import Embedding.Bytecode.Serial
import Embedding.Error
import Embedding.Guest.Syntax.Detect

namespace Embedding

structure Bytecode where
  bytes : List UInt8
deriving DecidableEq, Inhabited

namespace Bytecode

variable (b : Bytecode)

def size : Nat := b.bytes.length

def isEmpty : Bool := b.bytes.isEmpty

def description : String := "Bytecode(" ++ toString b.size ++ " bytes)"

/-- How an engine writes programs, and reads them. Each can fail with a message. -/
class Format where
  write : Guest.Program → Except String (List UInt8)
  read : List UInt8 → Except String Guest.Program

/-- An engine reads what it has written, and does not read without bytes. -/
class Format.Faithful [Format] : Prop where
  exists_write : ∀ p : Guest.Program, ∃ bytes, Format.write p = .ok bytes ∧ Format.read bytes = .ok p
  read_nil : ∀ p : Guest.Program, Format.read [] ≠ .ok p

def version : UInt8 := 67

def endMessage : String := "read after the end of the buffer"

instance : Format where
  write p := .ok (version :: writeProgram p)
  read
    | [] => .error endMessage
    | v :: rest =>
      if v != version then
        .error ("invalid version (" ++ toString v.toNat ++ " expected=" ++ toString version.toNat ++ ")")
      else
        match readProgram? rest with
        | some p => .ok p
        | none => .error endMessage

end Bytecode

/-- Whether a source is a script or a module. A source with a NUL byte is neither. -/
def Guest.SourceKind.ofSource (source : String) : Except Error Guest.SourceKind :=
  match source.toUTF8.toList.findIdx? (· == 0) with
  | some offset => .error (.invalidSource offset)
  | none => .ok (Guest.SourceKind.detect source)

end Embedding
