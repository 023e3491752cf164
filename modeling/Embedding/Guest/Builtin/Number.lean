import Embedding.Guest.Builtin.Object

namespace Embedding.Guest

def roundHalfUp (d : Double) : Double :=
  if d.isIntegral || !d.isFinite then d
  else
    let (num, den) := d.ratio
    let whole := num / den
    let r := 2 * (num % den)
    let up := if d.isNegative then den < r else den ≤ r
    let n := if up then whole + 1 else whole
    if d.isNegative then (Double.ofInt n).neg else Double.ofInt n

namespace Act

def raiseNotNumber : Act α := raiseType "not a number"

def thisNumber (this : Value) : Act Double := do
  match this with
  | .number d => return d
  | .object o =>
    match (← object o).payload with
    | .primitive (.number d) => return d
    | _ => raiseNotNumber
  | _ => raiseNotNumber

def raiseDigitCount : Act α := raiseRange "invalid number of digits"

def radixArgument (v : Value) : Act Nat := do
  if v.isUndefined then return 10
  let n ← toInteger v
  if n < 2 || 36 < n then raiseRange "radix must be between 2 and 36"
  return n.toNat

/-- The prototype that a constructor gives when it was called with `new`. -/
def wrapped (newTarget : Value) (fallback : ObjectId) (v : Value) : Act Value := do
  match newTarget with
  | .object _ =>
    let p ← match ← get newTarget "prototype" with
      | .object p => pure p
      | _ => pure fallback
    return .object (← newObject p (.primitive v))
  | _ => return v

def numberFn (f : NumberFn) (this : Value) (args : List Value) (newTarget : Value) : Act Value := do
  let a := arg args 0
  let asDouble : Option Double := match a with
    | .number d => some d
    | _ => none
  let holds (p : Double → Bool) : Value := .bool ((asDouble.map p).getD false)
  match f with
  | .construct =>
    let d ← if args.isEmpty then pure Double.zero
      else do
        match ← toNumeric a with
        | .bigint n => pure (Double.ofInt n)
        | .number d => pure d
        | _ => pure Double.nan
    wrapped newTarget Intrinsic.numberPrototype (.number d)
  | .isNaN => return holds Double.isNaN
  | .isFinite => return holds Double.isFinite
  | .isInteger => return holds Double.isIntegral
  | .isSafeInteger => return holds fun d => d.isIntegral && d.abs.le (Double.ofInt (2 ^ 53 - 1))
  | .valueOf => return .number (← thisNumber this)
  | .toString =>
    let d ← thisNumber this
    let radix ← radixArgument a
    return .text (numberTextIn radix d)
  | .toLocaleString => return .text (numberText (← thisNumber this))
  | .toFixed =>
    let d ← thisNumber this
    let n ← toInteger a
    if n < 0 || 100 < n then raiseDigitCount
    if !d.isFinite || (Double.ofDecimal false 1 21).le d.abs then return .text (numberText d)
    else return .ofString (d.fixed n.toNat)
  | .toExponential =>
    let d ← thisNumber this
    let n ← toInteger a
    if !d.isFinite then return .text (numberText d)
    else if a.isUndefined then
      if d.isZero then return .ofString "0e+0"
      else return .ofString (d.signText ++ Double.exponentialText (d.shortest .correctlyRounded))
    else
      if n < 0 || 100 < n then raiseDigitCount
      return .ofString (d.scientific (n.toNat + 1))
  | .toPrecision =>
    let d ← thisNumber this
    if a.isUndefined then return .text (numberText d)
    let n ← toInteger a
    if !d.isFinite then return .text (numberText d)
    if n < 1 || 100 < n then raiseDigitCount
    return .ofString (d.significant n.toNat)

/-- The greater of two numbers; a not-a-number wins, and zero is greater than negative zero. -/
def greater (a b : Double) : Double :=
  if a.isNaN || b.isNaN then Double.nan
  else if a.isZero && b.isZero then (if a.isNegative then b else a)
  else if a.lt b then b else a

def lesser (a b : Double) : Double := (greater a.neg b.neg).neg

def throughFloat (f : Float → Float) (d : Double) : Double := Double.ofFloat (f d.toFloat)

def expMinusOne (x : Float) : Float :=
  let u := x.exp
  if u == 1 then x
  else if u - 1 == -1 then -1
  else if u.isInf then u
  else (u - 1) * x / u.log

def logOnePlus (x : Float) : Float :=
  let u := 1 + x
  if u == 1 then x else if u.isInf then u.log else u.log * x / (u - 1)

def norm (ds : List Double) : Double :=
  if ds.any Double.isInfinite then Double.infinity
  else if ds.any Double.isNaN then Double.nan
  else
    let largest := ds.foldl (fun acc d => greater acc d.abs) Double.zero
    if largest.isZero then Double.zero
    else
      let exact := ds.foldl (fun acc (d : Double) => acc + d.toFloat * d.toFloat) 0
      if exact.isFinite && exact > 1e-280 then Double.ofFloat exact.sqrt
      else
        let scaled := ds.foldl (fun acc (d : Double) =>
          let q := d.toFloat / largest.toFloat
          acc + q * q) 0
        Double.ofFloat (scaled.sqrt * largest.toFloat)

def mathFn (f : MathFn) (_this : Value) (args : List Value) (_newTarget : Value) : Act Value := do
  let a := arg args 0
  let unary (g : Double → Double) : Act Value := do return .number (g (← toDouble a))
  match f with
  | .min =>
    let ds ← args.mapM toDouble
    return .number (ds.foldl lesser Double.infinity)
  | .max =>
    let ds ← args.mapM toDouble
    return .number (ds.foldl greater Double.negativeInfinity)
  | .abs => unary Double.abs
  | .floor => unary Double.floor
  | .ceil => unary Double.ceil
  | .round => unary roundHalfUp
  | .trunc => unary Double.trunc
  | .sign => unary fun d =>
      if d.isNaN || d.isZero then d else Double.ofInt (if d.isNegative then -1 else 1)
  | .sqrt => unary (throughFloat Float.sqrt)
  | .acos => unary (throughFloat Float.acos)
  | .asin => unary (throughFloat Float.asin)
  | .atan => unary (throughFloat Float.atan)
  | .cos => unary (throughFloat Float.cos)
  | .exp => unary (throughFloat Float.exp)
  | .log => unary (throughFloat Float.log)
  | .sin => unary (throughFloat Float.sin)
  | .tan => unary (throughFloat Float.tan)
  | .cosh => unary (throughFloat Float.cosh)
  | .sinh => unary (throughFloat Float.sinh)
  | .tanh => unary (throughFloat Float.tanh)
  | .acosh => unary (throughFloat Float.acosh)
  | .asinh => unary (throughFloat Float.asinh)
  | .atanh => unary (throughFloat Float.atanh)
  | .expm1 => unary (throughFloat expMinusOne)
  | .log1p => unary (throughFloat logOnePlus)
  | .log2 => unary (throughFloat Float.log2)
  | .log10 => unary (throughFloat Float.log10)
  | .cbrt => unary (throughFloat Float.cbrt)
  | .fround => unary fun d => (Single.ofDouble d).toDouble
  | .clz32 =>
    let n ← toModulo a 32
    return .ofNat (if n = 0 then 32 else 31 - n.log2)
  | .imul =>
    let x ← toModulo a 32
    let y ← toModulo (arg args 1) 32
    return .ofInt (signedOf 32 (x * y % 2 ^ 32))
  | .atan2 =>
    let y ← toDouble a
    let x ← toDouble (arg args 1)
    return .number (Double.ofFloat (y.toFloat.atan2 x.toFloat))
  | .pow =>
    let x ← toDouble a
    let y ← toDouble (arg args 1)
    return .number (powerOf x y)
  | .hypot =>
    let ds ← args.mapM toDouble
    return .number (norm ds)
  | .random => return .number (Double.ofRatio false 1 2)

end Act

end Embedding.Guest
