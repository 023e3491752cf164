import Embedding.Double.Decimal

namespace Embedding

structure Instant where
  seconds : Int
  nanoseconds : Nat
deriving DecidableEq, Inhabited

/-- A day of the calendar, the months counted from one. -/
structure Civil where
  year : Int
  month : Nat
  day : Nat
deriving DecidableEq, Inhabited

namespace Civil

/-- Days since 1970 of a day of the calendar; the months may run past twelve. -/
def toDays (c : Civil) : Int :=
  let y := if c.month ≤ 2 then c.year - 1 else c.year
  let era := y.fdiv 400
  let yearOfEra := y - era * 400
  let shifted : Int := (c.month + 9) % 12
  let dayOfYear := (153 * shifted + 2) / 5 + c.day - 1
  let dayOfEra := yearOfEra * 365 + yearOfEra / 4 - yearOfEra / 100 + dayOfYear
  era * 146097 + dayOfEra - 719468

def ofDays (days : Int) : Civil :=
  let z := days + 719468
  let era := z.fdiv 146097
  let dayOfEra := z - era * 146097
  let yearOfEra := (dayOfEra - dayOfEra / 1460 + dayOfEra / 36524 - dayOfEra / 146096) / 365
  let dayOfYear := dayOfEra - (365 * yearOfEra + yearOfEra / 4 - yearOfEra / 100)
  let shifted := (5 * dayOfYear + 2) / 153
  let day := dayOfYear - (153 * shifted + 2) / 5 + 1
  let month := if shifted < 10 then shifted + 3 else shifted - 9
  let year := yearOfEra + era * 400 + (if month ≤ 2 then 1 else 0)
  ⟨year, month.toNat, day.toNat⟩

end Civil

def padded (width n : Nat) : String :=
  let s := toString n
  String.ofList (List.replicate (width - s.length) '0') ++ s

namespace Instant

variable (i : Instant)

def milliseconds : Int := i.seconds * 1000 + (i.nanoseconds / 1000000 : Nat)

def ofMilliseconds (ms : Int) : Instant :=
  ⟨ms.fdiv 1000, (ms.fmod 1000).toNat * 1000000⟩

def leastMilliseconds : Int := -8334601228800000

def greatestMilliseconds : Int := 8210266876799999

def ofMilliseconds? (ms : Int) : Option Instant :=
  if leastMilliseconds ≤ ms ∧ ms ≤ greatestMilliseconds then some (ofMilliseconds ms) else none

def yearText (y : Int) : String :=
  if 0 ≤ y ∧ y ≤ 9999 then padded 4 y.toNat
  else (if y < 0 then "-" else "+") ++ padded 4 y.natAbs

/-- No places, or three, six or nine of them: the fewest that hold the nanoseconds. -/
def fractionText (nanoseconds : Nat) : String :=
  if nanoseconds = 0 then ""
  else if nanoseconds % 1000000 = 0 then "." ++ padded 3 (nanoseconds / 1000000)
  else if nanoseconds % 1000 = 0 then "." ++ padded 6 (nanoseconds / 1000)
  else "." ++ padded 9 nanoseconds

def text : String :=
  let day := i.seconds.fdiv 86400
  let rest := (i.seconds.fmod 86400).toNat
  let c := Civil.ofDays day
  yearText c.year ++ "-" ++ padded 2 c.month ++ "-" ++ padded 2 c.day ++ "T" ++
    padded 2 (rest / 3600) ++ ":" ++ padded 2 (rest / 60 % 60) ++ ":" ++ padded 2 (rest % 60) ++
    fractionText i.nanoseconds ++ "+00:00"

end Instant

end Embedding
