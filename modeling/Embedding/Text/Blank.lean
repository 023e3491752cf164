import Embedding.Text.Units

namespace Embedding

def isUnicodeBlank (n : Nat) : Bool :=
  (9 ≤ n && n ≤ 13) || n == 0x20 || n == 0x85 || n == 0xA0 || n == 0x1680 ||
  (0x2000 ≤ n && n ≤ 0x200A) || n == 0x2028 || n == 0x2029 || n == 0x202F || n == 0x205F ||
  n == 0x3000

/-- A guest program's blanks: those of Unicode and the byte-order mark, without next-line. -/
def isGuestBlank (n : Nat) : Bool := (isUnicodeBlank n && n != 0x85) || n == 0xFEFF

def isJsonBlank (n : Nat) : Bool := n == 0x20 || n == 0x0A || n == 0x0D || n == 0x09

def trimEndBlanks (s : String) : String :=
  String.ofList (s.toList.reverse.dropWhile fun c => isUnicodeBlank c.toNat).reverse

namespace Text

variable (t : Text)

def trimStart : Text :=
  ⟨(t.units.toList.dropWhile fun u => isGuestBlank u.toNat).toArray⟩

def trimEnd : Text :=
  ⟨(t.units.toList.reverse.dropWhile fun u => isGuestBlank u.toNat).reverse.toArray⟩

def trim : Text := t.trimStart.trimEnd

end Text

end Embedding
