-- Powers are the same ones in all modules, whichever algebra is in scope.
attribute [instance(10000), default_instance 20000] instPowNat

namespace Embedding

structure Double where
  bits : UInt64
deriving DecidableEq, Inhabited

namespace Double

def nan : Double := ⟨0x7ff8000000000000⟩

def zero : Double := ⟨0⟩

def negativeZero : Double := ⟨0x8000000000000000⟩

def infinity : Double := ⟨0x7ff0000000000000⟩

def negativeInfinity : Double := ⟨0xfff0000000000000⟩

variable (d : Double)

def isNegative : Bool := d.bits.toNat ≥ 2 ^ 63

def biasedExponent : Nat := d.bits.toNat / 2 ^ 52 % 2 ^ 11

def fraction : Nat := d.bits.toNat % 2 ^ 52

def isNaN : Bool := d.biasedExponent == 0x7ff && d.fraction != 0

def isInfinite : Bool := d.biasedExponent == 0x7ff && d.fraction == 0

def isFinite : Bool := d.biasedExponent != 0x7ff

def isZero : Bool := d.bits.toNat % 2 ^ 63 == 0

def isNegativeZero : Bool := d.isZero && d.isNegative

def significand : Nat :=
  if d.biasedExponent = 0 then d.fraction else 2 ^ 52 + d.fraction

def exponent : Int := (max 1 d.biasedExponent : Nat) - 1075

def ratio : Nat × Nat :=
  if d.exponent < 0 then (d.significand, 2 ^ (-d.exponent).toNat)
  else (d.significand * 2 ^ d.exponent.toNat, 1)

def withSign (negative : Bool) (magnitude : Nat) : Double :=
  ⟨UInt64.ofNat (if negative then 2 ^ 63 + magnitude else magnitude)⟩

def neg : Double := withSign (!d.isNegative) (d.bits.toNat % 2 ^ 63)

def abs : Double := withSign false (d.bits.toNat % 2 ^ 63)

/-- The quotient rounded to the nearest natural; a tie goes to the even one. -/
def roundDivEven (num den : Nat) : Nat :=
  let q := num / den
  let r := num % den
  if 2 * r < den then q
  else if den < 2 * r then q + 1
  else q + q % 2

def floorLog2 (num den : Nat) : Int :=
  let guess : Int := (num.log2 : Int) - den.log2
  let reached :=
    if guess < 0 then den ≤ num * 2 ^ (-guess).toNat else den * 2 ^ guess.toNat ≤ num
  if reached then guess else guess - 1

/-- The magnitude bits of the number nearest to `num / den`; too large a quotient is infinite.
The exponent field and the significand share one sum, so a carry out of the significand moves
to the next exponent by itself. -/
def magnitudeOfRatio (num den : Nat) : Nat :=
  if num = 0 then 0
  else
    let e := max (floorLog2 num den - 52) (-1074)
    let q :=
      if e < 0 then roundDivEven (num * 2 ^ (-e).toNat) den
      else roundDivEven num (den * 2 ^ e.toNat)
    min ((e + 1074).toNat * 2 ^ 52 + q) (0x7ff * 2 ^ 52)

def ofRatio (negative : Bool) (num den : Nat) : Double :=
  withSign negative (magnitudeOfRatio num den)

def ofInt (n : Int) : Double := ofRatio (n < 0) n.natAbs 1

def ofDecimal (negative : Bool) (digits : Nat) (scale : Int) : Double :=
  if digits = 0 then withSign negative 0
  else if 400 < scale then withSign negative (0x7ff * 2 ^ 52)
  else if scale < 0 then ofRatio negative digits (10 ^ (-scale).toNat)
  else ofRatio negative (digits * 10 ^ scale.toNat) 1

def truncated? : Option Int :=
  if d.isFinite then
    let magnitude : Int := (d.ratio.1 / d.ratio.2 : Nat)
    some (if d.isNegative then -magnitude else magnitude)
  else none

def isIntegral : Bool := d.isFinite && d.ratio.1 % d.ratio.2 == 0

def toInt? : Option Int := if d.isIntegral then d.truncated? else none

/-- The integer part clamped to `lo … hi`; infinities go to the bounds, not-a-number to zero. -/
def clamp (lo hi : Int) : Int :=
  match d.truncated? with
  | some n => max lo (min hi n)
  | none => if d.isNaN then 0 else if d.isNegative then lo else hi

/-- Equality of numbers: not-a-number differs from itself and the two zeros are equal. -/
def numericEq (a b : Double) : Bool :=
  !a.isNaN && !b.isNaN && (a.bits == b.bits || (a.isZero && b.isZero))

/-- A key that orders the numbers other than not-a-number; the two zeros share one key. -/
def orderKey : Int :=
  let magnitude : Int := (d.bits.toNat % 2 ^ 63 : Nat)
  if d.isNegative then -magnitude else magnitude

def lt (a b : Double) : Bool := !a.isNaN && !b.isNaN && a.orderKey < b.orderKey

def le (a b : Double) : Bool := !a.isNaN && !b.isNaN && a.orderKey ≤ b.orderKey

def toFloat : Float := Float.ofBits d.bits

def ofFloat (f : Float) : Double := if f.isNaN then nan else ⟨f.toBits⟩

def add (a b : Double) : Double := ofFloat (a.toFloat + b.toFloat)

def sub (a b : Double) : Double := ofFloat (a.toFloat - b.toFloat)

def mul (a b : Double) : Double := ofFloat (a.toFloat * b.toFloat)

def div (a b : Double) : Double := ofFloat (a.toFloat / b.toFloat)

/-- The exact remainder of the division toward zero; it takes the sign of the dividend. -/
def rem (a b : Double) : Double :=
  if a.isNaN || b.isNaN || a.isInfinite || b.isZero then nan
  else if b.isInfinite then a
  else
    let (an, ad) := a.ratio
    let (bn, bd) := b.ratio
    ofRatio a.isNegative (an * bd % (bn * ad)) (ad * bd)

def floor : Double :=
  match d.truncated? with
  | some n =>
    if d.isIntegral then d
    else if d.isNegative then ofInt (n - 1)
    else ofInt n
  | none => d

def trunc : Double :=
  match d.truncated? with
  | some n => if d.isIntegral then d else if n = 0 && d.isNegative then negativeZero else ofInt n
  | none => d

def ceil : Double := d.neg.floor.neg

/-- The value modulo `2 ^ width`, as an unsigned number; what is not finite counts as zero. -/
def modPow (width : Nat) : Nat :=
  match d.truncated? with
  | some n => (n % (2 ^ width : Nat)).toNat
  | none => 0

end Double

structure Single where
  bits : UInt32
deriving DecidableEq, Inhabited

namespace Single

variable (s : Single)

def isNegative : Bool := s.bits.toNat ≥ 2 ^ 31

def biasedExponent : Nat := s.bits.toNat / 2 ^ 23 % 2 ^ 8

def fraction : Nat := s.bits.toNat % 2 ^ 23

def isNaN : Bool := s.biasedExponent == 0xff && s.fraction != 0

def toDouble : Double :=
  if s.isNaN then Double.nan
  else if s.biasedExponent = 0xff then Double.withSign s.isNegative (0x7ff * 2 ^ 52)
  else
    let significand := if s.biasedExponent = 0 then s.fraction else 2 ^ 23 + s.fraction
    let e : Int := (max 1 s.biasedExponent : Nat) - 150
    if e < 0 then Double.ofRatio s.isNegative significand (2 ^ (-e).toNat)
    else Double.ofRatio s.isNegative (significand * 2 ^ e.toNat) 1

def ofDouble (d : Double) : Single :=
  let signed (magnitude : Nat) : Single :=
    ⟨UInt32.ofNat (if d.isNegative then 2 ^ 31 + magnitude else magnitude)⟩
  if d.isNaN then ⟨0x7fc00000⟩
  else if d.isInfinite then signed (0xff * 2 ^ 23)
  else
    let (num, den) := d.ratio
    if num = 0 then signed 0
    else
      let e := max (Double.floorLog2 num den - 23) (-149)
      let q :=
        if e < 0 then Double.roundDivEven (num * 2 ^ (-e).toNat) den
        else Double.roundDivEven num (den * 2 ^ e.toNat)
      signed (min ((e + 149).toNat * 2 ^ 23 + q) (0xff * 2 ^ 23))

def numericEq (a b : Single) : Bool := a.toDouble.numericEq b.toDouble

end Single

end Embedding
