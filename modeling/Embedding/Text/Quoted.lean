import Embedding.Text.Normal

namespace Embedding

def hiddenRanges : List (Nat × Nat) :=
  [(0, 31), (127, 160), (0xAD, 0xAD), (0x300, 0x36F), (0x600, 0x605), (0x61C, 0x61C), (0x6DD, 0x6DD), (0x70F, 0x70F),
   (0x1680, 0x1680), (0x180E, 0x180E), (0x2000, 0x200F), (0x2028, 0x202F), (0x205F, 0x206F), (0x3000, 0x3000),
   (0xE000, 0xF8FF), (0xFE00, 0xFE0F), (0xFEFF, 0xFEFF), (0xFFF0, 0xFFFB), (0xE0000, 0x10FFFF)]

def isShown (n : Nat) : Bool :=
  combiningClass n == 0 && !hiddenRanges.any fun r => r.1 ≤ n && n ≤ r.2

def hexDigits (n : Nat) : String := String.ofList (Nat.toDigits 16 n)

def quotedChar (c : Char) : String :=
  if c == '"' then "\\\""
  else if c == '\\' then "\\\\"
  else if c == '\n' then "\\n"
  else if c == '\r' then "\\r"
  else if c == '\t' then "\\t"
  else if c.toNat == 0 then "\\0"
  else if isShown c.toNat then String.singleton c
  else "\\u\x7b" ++ hexDigits c.toNat ++ "\x7d"

def quoted (s : String) : String := "\"" ++ String.join (s.toList.map quotedChar) ++ "\""

end Embedding
