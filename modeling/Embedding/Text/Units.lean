namespace Embedding

structure Text where
  units : Array UInt16
deriving DecidableEq, Inhabited, Hashable

namespace Text

def empty : Text := ⟨#[]⟩

def isHighSurrogate (u : UInt16) : Bool := 0xD800 ≤ u.toNat && u.toNat < 0xDC00

def isLowSurrogate (u : UInt16) : Bool := 0xDC00 ≤ u.toNat && u.toNat < 0xE000

def isSurrogate (u : UInt16) : Bool := 0xD800 ≤ u.toNat && u.toNat < 0xE000

def unitsOfCodePoint (n : Nat) : List UInt16 :=
  if n < 0x10000 then [UInt16.ofNat n]
  else
    let rest := n - 0x10000
    [UInt16.ofNat (0xD800 + rest / 0x400), UInt16.ofNat (0xDC00 + rest % 0x400)]

def ofCodePoint (n : Nat) : Text := ⟨(unitsOfCodePoint n).toArray⟩

def ofChars (cs : List Char) : Text :=
  ⟨(cs.flatMap fun c => unitsOfCodePoint c.toNat).toArray⟩

def ofString (s : String) : Text := ofChars s.toList

instance : Coe String Text := ⟨ofString⟩

def codePointOfPair (high low : UInt16) : Nat :=
  0x10000 + (high.toNat - 0xD800) * 0x400 + (low.toNat - 0xDC00)

/-- The code points of the units; a surrogate without its partner stands for itself. -/
def codePointsOfUnits : List UInt16 → List Nat
  | [] => []
  | [u] => [u.toNat]
  | u :: v :: rest =>
    if isHighSurrogate u && isLowSurrogate v then codePointOfPair u v :: codePointsOfUnits rest
    else u.toNat :: codePointsOfUnits (v :: rest)

variable (t : Text)

def length : Nat := t.units.size

def isEmpty : Bool := t.units.isEmpty

def codePoints : List Nat := codePointsOfUnits t.units.toList

def isScalar (n : Nat) : Bool := n < 0xD800 || (0xDFFF < n && n < 0x110000)

/-- The host string, or the byte offset at which the text stops being encodable. -/
def toString? : Except Nat String :=
  let rec go (offset : Nat) (done : List Char) : List Nat → Except Nat String
    | [] => .ok (String.ofList done.reverse)
    | n :: rest =>
      if isScalar n then
        let c := Char.ofNat n
        go (offset + c.utf8Size) (c :: done) rest
      else .error offset
  go 0 [] t.codePoints

/-- The host string with a replacement character for each surrogate without its partner. -/
def toStringLossy : String :=
  String.ofList (t.codePoints.map fun n => if isScalar n then Char.ofNat n else Char.ofNat 0xFFFD)

def append (a b : Text) : Text := ⟨a.units ++ b.units⟩

instance : Append Text := ⟨append⟩

def slice (start stop : Nat) : Text := ⟨t.units.extract start stop⟩

def unit? (i : Nat) : Option UInt16 := t.units[i]?

def codePointAt? (i : Nat) : Option Nat :=
  match t.units[i]? with
  | none => none
  | some u =>
    match t.units[i + 1]? with
    | some v => if isHighSurrogate u && isLowSurrogate v then some (codePointOfPair u v) else some u.toNat
    | none => some u.toNat

def matchesAt (pattern : Text) (i : Nat) : Bool :=
  i + pattern.length ≤ t.length && t.slice i (i + pattern.length) == pattern

def indexOf? (pattern : Text) (start : Nat) : Option Nat :=
  if t.length < pattern.length then none
  else
    (List.range' start (t.length - pattern.length + 1 - start)).find? fun i => t.matchesAt pattern i

def lastIndexOf? (pattern : Text) (start : Nat) : Option Nat :=
  if t.length < pattern.length then none
  else
    let last := min start (t.length - pattern.length)
    (List.range (last + 1)).reverse.find? fun i => t.matchesAt pattern i

def compareUnits : List UInt16 → List UInt16 → Ordering
  | [], [] => .eq
  | [], _ :: _ => .lt
  | _ :: _, [] => .gt
  | a :: as, b :: bs => (compare a b).then (compareUnits as bs)

def compare (a b : Text) : Ordering := compareUnits a.units.toList b.units.toList

def repeated (n : Nat) : Text :=
  ⟨Nat.fold n (fun _ _ acc => acc ++ t.units) (Array.mkEmpty (n * t.length))⟩

def join (separator : Text) : List Text → Text
  | [] => empty
  | [t] => t
  | t :: rest => rest.foldl (fun acc x => acc ++ separator ++ x) t

/-- The array index that the text spells: a decimal below `2 ^ 32 - 1` without a leading zero. -/
def toIndex? : Option Nat :=
  let isDigit (u : UInt16) : Bool := 48 ≤ u.toNat && u.toNat ≤ 57
  if t.length = 0 || 10 < t.length then none
  else if t.units[0]? == some 48 then (if t.length = 1 then some 0 else none)
  else if t.units.all isDigit then
    let n := t.units.foldl (fun acc u => acc * 10 + (u.toNat - 48)) 0
    if n < 2 ^ 32 - 1 then some n else none
  else none

def ofNat (n : Nat) : Text := ofString (toString n)

def ofInt (n : Int) : Text := ofString (toString n)

end Text

end Embedding
