import Embedding.Double.Basic

namespace Embedding.Double

structure Decimal where
  digits : Nat
  scale : Int
deriving DecidableEq, Inhabited

namespace Decimal

variable (x : Decimal)

def digitString : String := toString x.digits

def leadingPower : Int := x.scale + x.digitString.length - 1

def stripped (x : Decimal) : Decimal := go x.digitString.length x
where
  go : Nat → Decimal → Decimal
    | 0, y => y
    | n + 1, y => if y.digits != 0 && y.digits % 10 == 0 then go n ⟨y.digits / 10, y.scale + 1⟩ else y

end Decimal

def floorLog10 (num den : Nat) : Int :=
  let guess : Int := (floorLog2 num den * 30103).fdiv 100000
  let reached (p : Int) : Bool :=
    if p < 0 then den ≤ num * 10 ^ (-p).toNat else den * 10 ^ p.toNat ≤ num
  if reached (guess + 1) then guess + 1 else if reached guess then guess else guess - 1

/-- The integer part and the remainder of `num / den` counted in units of `10 ^ scale`. -/
def countUnits (num den : Nat) (scale : Int) : Nat × Nat × Nat :=
  let n := if scale < 0 then num * 10 ^ (-scale).toNat else num
  let d := if scale < 0 then den else den * 10 ^ scale.toNat
  (n / d, n % d, d)

inductive Choice
  | anyThatReadsBack
  | correctlyRounded
deriving DecidableEq

def readsBack (magnitude : Double) (x : Decimal) : Bool :=
  ofDecimal false x.digits x.scale == magnitude

/-- The decimal with `count` digits that `choice` admits, if it reads back. -/
def decimalOfLength? (choice : Choice) (magnitude : Double) (count : Nat) : Option Decimal :=
  let (num, den) := magnitude.ratio
  let scale := floorLog10 num den - (count - 1 : Int)
  let (q, r, d) := countUnits num den scale
  let low : Decimal := ⟨q, scale⟩
  let high : Decimal := ⟨q + 1, scale⟩
  let nearLow := 2 * r < d || (2 * r == d && q % 2 == 0)
  let (near, far) := if nearLow then (low, high) else (high, low)
  if readsBack magnitude near then some near
  else match choice with
    | .correctlyRounded => none
    | .anyThatReadsBack => if readsBack magnitude far then some far else none

/-- The fewest digits that read back, for a finite number other than zero. -/
def shortest (choice : Choice) (d : Double) : Decimal :=
  let magnitude := d.abs
  match (List.range 17).findSome? fun n => decimalOfLength? choice magnitude (n + 1) with
  | some x => x.stripped
  | none => ⟨0, 0⟩

structure Layout where
  choice : Choice
  /-- The least and the greatest leading power written without an exponent; `none` for all. -/
  positional : Option (Int × Int)
  pointKept : Bool
  zeroSigned : Bool

namespace Layout

def guest : Layout := ⟨.correctlyRounded, some (-7 + 1, 20), false, false⟩

def json : Layout := ⟨.anyThatReadsBack, some (-5, 15), true, true⟩

def plain : Layout := ⟨.anyThatReadsBack, none, false, true⟩

end Layout

def zeros (n : Nat) : String := String.ofList (List.replicate n '0')

def positionalText (x : Decimal) (pointKept : Bool) : String :=
  let s := x.digitString
  let n := s.length
  if 0 ≤ x.scale then
    s ++ zeros x.scale.toNat ++ (if pointKept then ".0" else "")
  else
    let places := (-x.scale).toNat
    if places < n then
      String.ofList (s.toList.take (n - places)) ++ "." ++ String.ofList (s.toList.drop (n - places))
    else "0." ++ zeros (places - n) ++ s

def exponentText (p : Int) : String :=
  "e" ++ (if p < 0 then "-" else "+") ++ toString p.natAbs

/-- One digit, the others after a point, and the power of the first digit. -/
def exponentialText (x : Decimal) : String :=
  match x.digitString.toList with
  | [] => ""
  | [c] => String.singleton c ++ exponentText x.leadingPower
  | c :: rest => String.singleton c ++ "." ++ String.ofList rest ++ exponentText x.leadingPower

def format (layout : Layout) (d : Double) : String :=
  if d.isNaN then "NaN"
  else
    let magnitude :=
      if d.isInfinite then "Infinity"
      else if d.isZero then (if layout.pointKept then "0.0" else "0")
      else
        let x := d.shortest layout.choice
        let short := match layout.positional with
          | none => true
          | some (lo, hi) => lo ≤ x.leadingPower && x.leadingPower ≤ hi
        if short then positionalText x layout.pointKept else exponentialText x
    if d.isNegative && (layout.zeroSigned || !d.isZero) then "-" ++ magnitude else magnitude

def roundedUnits (d : Double) (scale : Int) : Nat :=
  let (num, den) := d.ratio
  let (q, r, unit) := countUnits num den scale
  if unit ≤ 2 * r then q + 1 else q

def signText (d : Double) : String := if d.isNegative && !d.isZero then "-" else ""

def fixed (d : Double) (places : Nat) : String :=
  let units := d.roundedUnits (-places)
  let digits := toString units
  let padded := zeros (places + 1 - digits.length) ++ digits
  let whole := padded.length - places
  let text := String.ofList (padded.toList.take whole)
  let sign := if d.isNegative && (!d.isZero) then "-" else ""
  sign ++ (if places = 0 then text else text ++ "." ++ String.ofList (padded.toList.drop whole))

/-- The decimal with exactly `count` digits nearest to a finite number other than zero. -/
def decimalOfSize (d : Double) (count : Nat) : Decimal :=
  let (num, den) := d.ratio
  let scale := floorLog10 num den - (count - 1 : Int)
  let units := d.roundedUnits scale
  if units = 10 ^ count then ⟨10 ^ (count - 1), scale + 1⟩ else ⟨units, scale⟩

def scientific (d : Double) (count : Nat) : String :=
  if d.isZero then
    (if count ≤ 1 then "0" else "0." ++ zeros (count - 1)) ++ "e+0"
  else d.signText ++ exponentialText (d.decimalOfSize count)

/-- `count` digits, with an exponent only for powers below -6 or from `count` on. -/
def significant (d : Double) (count : Nat) : String :=
  if d.isZero then (if count ≤ 1 then "0" else "0." ++ zeros (count - 1))
  else
    let x := d.decimalOfSize count
    let p := x.leadingPower
    d.signText ++ (if p < -6 || (count : Int) ≤ p then exponentialText x else positionalText x false)

def digitsValue (base : Nat) (digits : List Nat) : Nat :=
  digits.foldl (fun acc x => acc * base + x) 0

end Embedding.Double
