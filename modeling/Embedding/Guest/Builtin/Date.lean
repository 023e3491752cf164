import Embedding.Guest.Builtin.Object
import Embedding.Instant

namespace Embedding.Guest

def dayNames : List String := ["Sun", "Mon", "Tue", "Wed", "Thu", "Fri", "Sat"]

def monthNames : List String :=
  ["Jan", "Feb", "Mar", "Apr", "May", "Jun", "Jul", "Aug", "Sep", "Oct", "Nov", "Dec"]

/-- The parts of a point in time; the months are counted from zero. -/
structure DateParts where
  year : Int
  month : Nat
  day : Nat
  hour : Nat
  minute : Nat
  second : Nat
  millisecond : Nat
  weekday : Nat

namespace DateParts

def ofTime (d : Double) : Option DateParts :=
  match d.toInt? with
  | none => none
  | some ms =>
    let days := ms.fdiv 86400000
    let rest := (ms.fmod 86400000).toNat
    let c := Civil.ofDays days
    some ⟨c.year, c.month - 1, c.day, rest / 3600000, rest / 60000 % 60, rest / 1000 % 60, rest % 1000,
      ((days + 4).fmod 7).toNat⟩

variable (p : DateParts)

def toList : List Double :=
  [p.year, p.month, p.day, p.hour, p.minute, p.second, p.millisecond].map fun (n : Int) => Double.ofInt n

def get : DateField → Int
  | .year => p.year
  | .month => p.month
  | .date => p.day
  | .hours => p.hour
  | .minutes => p.minute
  | .seconds => p.second
  | .milliseconds => p.millisecond
  | .day => p.weekday

end DateParts

/-- Where a field stands in the list of parts, and where the arguments of its setter end. -/
def DateField.range : DateField → Nat × Nat
  | .year => (0, 3)
  | .month => (1, 3)
  | .date => (2, 3)
  | .hours => (3, 7)
  | .minutes => (4, 7)
  | .seconds => (5, 7)
  | .milliseconds => (6, 7)
  | .day => (7, 7)

/-- A time within a hundred million days of 1970, in whole milliseconds. -/
def clipTime (d : Double) : Double :=
  if d.isFinite && d.abs.le (Double.ofInt 8640000000000000) then
    let time := d.trunc
    if time.isZero then Double.zero else time
  else Double.nan

def isShortYear (y : Double) : Bool := Double.zero.le y && y.lt (Double.ofInt 100)

def timeOfParts (parts : List Double) : Double :=
  let part (i : Nat) : Double := parts.getD i Double.zero
  match (part 0).toInt?, (part 1).toInt? with
  | some y, some m =>
    let year := y + m.fdiv 12
    if year < -271821 || 275760 < year then Double.nan
    else
      let first := Civil.toDays ⟨year, (m.fmod 12).toNat + 1, 1⟩
      let day := ((Double.ofInt first).add (part 2)).sub (Double.ofInt 1)
      let scaled (i : Nat) (n : Int) : Double := (part i).mul (Double.ofInt n)
      let time := (((scaled 3 3600000).add (scaled 4 60000)).add (scaled 5 1000)).add (part 6)
      clipTime ((day.mul (Double.ofInt 86400000)).add time)
  | _, _ => Double.nan

def currentTime : Double := Double.ofInt 1735689600000

inductive DateHalf
  | date
  | time
  | both
deriving DecidableEq

def plainYear (y : Int) : String := if y < 0 then "-" ++ padded 4 y.natAbs else padded 4 y.toNat

namespace DateParts

variable (p : DateParts)

def dayName : String := dayNames.getD p.weekday ""

def monthName : String := monthNames.getD p.month ""

def clock : String := padded 2 p.hour ++ ":" ++ padded 2 p.minute ++ ":" ++ padded 2 p.second

def text (half : DateHalf) : String :=
  let date := p.dayName ++ " " ++ p.monthName ++ " " ++ padded 2 p.day ++ " " ++ plainYear p.year
  let time := p.clock ++ " GMT+0000"
  match half with
  | .date => date
  | .time => time
  | .both => date ++ " " ++ time

def universalText : String :=
  p.dayName ++ ", " ++ padded 2 p.day ++ " " ++ p.monthName ++ " " ++ plainYear p.year ++ " " ++ p.clock ++ " GMT"

def isoText : String :=
  let year :=
    if 0 ≤ p.year && p.year ≤ 9999 then padded 4 p.year.toNat
    else (if p.year < 0 then "-" else "+") ++ padded 6 p.year.natAbs
  year ++ "-" ++ padded 2 (p.month + 1) ++ "-" ++ padded 2 p.day ++ "T" ++ p.clock ++ "." ++
    padded 3 p.millisecond ++ "Z"

def localText (half : DateHalf) : String :=
  let date := padded 2 (p.month + 1) ++ "/" ++ padded 2 p.day ++ "/" ++ plainYear p.year
  let hour := (p.hour + 11) % 12 + 1
  let time := padded 2 hour ++ ":" ++ padded 2 p.minute ++ ":" ++ padded 2 p.second ++
    (if p.hour < 12 then " AM" else " PM")
  match half with
  | .date => date
  | .time => time
  | .both => date ++ ", " ++ time

end DateParts

namespace DateReader

def digits? (least most : Nat) (cs : List Char) : Option (Nat × Nat × List Char) :=
  let run := (cs.take most).takeWhile fun c => isAsciiDigit c.toNat
  if run.length < least then none
  else some (Double.digitsValue 10 (run.map fun c => c.toNat - 48), run.length, cs.drop run.length)

def zone? : List Char → Option (Int × List Char)
  | 'Z' :: rest => some (0, rest)
  | sign :: rest =>
    if sign != '+' && sign != '-' then none
    else do
      let (h, _, rest) ← digits? 2 2 rest
      let rest := match rest with
        | ':' :: more => more
        | more => more
      let (m, _, rest) ← digits? 2 2 rest
      if 23 < h || 59 < m then none
      else
        let minutes : Int := (h * 60 + m : Nat)
        return (if sign == '-' then -minutes else minutes, rest)
  | [] => none

def year? : List Char → Option (Int × List Char)
  | '+' :: rest => do
    let (y, _, rest) ← digits? 6 6 rest
    return (y, rest)
  | '-' :: rest => do
    let (y, _, rest) ← digits? 6 6 rest
    if y = 0 then none else return (-(y : Int), rest)
  | cs => do
    let (y, _, rest) ← digits? 4 4 cs
    return (y, rest)

def field? (mark : Char) (cs : List Char) : Option (Option Nat × List Char) :=
  match cs with
  | c :: rest =>
    if c == mark then do
      let (n, _, rest) ← digits? 2 2 rest
      return (some n, rest)
    else return (none, cs)
  | [] => return (none, cs)

def milliseconds? (cs : List Char) : Option (Nat × List Char) :=
  match cs with
  | c :: rest =>
    if c == '.' || c == ',' then do
      let (n, size, rest) ← digits? 1 9 rest
      return (if size ≤ 3 then n * 10 ^ (3 - size) else n / 10 ^ (size - 3), rest)
    else return (0, cs)
  | [] => return (0, cs)

def time (year : Int) (month day hour minute second ms : Nat) (zone : Int) : Double :=
  let ofInt := Double.ofInt
  timeOfParts [ofInt year, ofInt ((month : Int) - 1), ofInt day, ofInt hour, ofInt ((minute : Int) - zone),
    ofInt second, ofInt ms]

/-- Year, month, day and perhaps a time of day, from the largest to the smallest. -/
def iso? (cs : List Char) : Option Double := do
  let (year, rest) ← year? cs
  let (month, rest) ← field? '-' rest
  let (day, rest) ← if month.isSome then field? '-' rest else some (none, rest)
  let (hour, minute, second, ms, zone, rest) ←
    match rest with
    | c :: more =>
      if c == 'T' || c == 't' || c == ' ' then do
        let (hour, _, more) ← digits? 2 2 more
        let (minute, more) ← field? ':' more
        if minute.isNone then none
        let (second, more) ← field? ':' more
        let (ms, more) ← if second.isSome then milliseconds? more else some (0, more)
        match more with
        | [] => some (hour, minute, second, ms, (0 : Int), [])
        | _ => do
          let (zone, more) ← zone? more
          some (hour, minute, second, ms, zone, more)
      else none
    | [] => some (0, none, none, 0, 0, [])
  if !rest.isEmpty then none
  let (month, day) := (month.getD 1, day.getD 1)
  let (minute, second) := (minute.getD 0, second.getD 0)
  if month < 1 || 12 < month || day < 1 || 31 < day || 24 < hour || 59 < minute || 59 < second then none
  if hour = 24 && (minute != 0 || second != 0 || ms != 0) then none
  return time year month day hour minute second ms zone

structure Words where
  numbers : List Nat := []
  month : Option Nat := none
  clock : Option (Nat × Nat × Nat × Nat) := none
  zone : Int := 0
  afternoon : Option Bool := none

def clock? (cs : List Char) : Option ((Nat × Nat × Nat × Nat) × List Char) := do
  let (h, _, rest) ← digits? 1 2 cs
  match rest with
  | ':' :: rest =>
    let (m, _, rest) ← digits? 1 2 rest
    match rest with
    | ':' :: rest =>
      let (s, _, rest) ← digits? 1 2 rest
      let (ms, rest) ← milliseconds? rest
      return ((h, m, s, ms), rest)
    | _ => return ((h, m, 0, 0), rest)
  | _ => none

def words : Nat → List Char → Words → Option Words
  | 0, _, _ => none
  | fuel + 1, cs, w =>
    match cs with
    | [] => some w
    | c :: rest =>
      if isAsciiLetter c.toNat then
        let word := (cs.takeWhile fun c => isAsciiLetter c.toNat).map Char.toLower
        let rest := cs.drop word.length
        let short := String.ofList (word.take 3)
        if word == ['a', 'm'] then words fuel rest { w with afternoon := some false }
        else if word == ['p', 'm'] then words fuel rest { w with afternoon := some true }
        else if word == ['z'] || word == ['g', 'm', 't'] || word == ['u', 't', 'c'] then words fuel rest w
        else
          match monthNames.findIdx? fun n => n.toLower == short with
          | some i => words fuel rest { w with month := some (i + 1) }
          | none =>
            if dayNames.any fun n => n.toLower == short then words fuel rest w else none
      else if isAsciiDigit c.toNat then
        match clock? cs with
        | some (t, rest) => words fuel rest { w with clock := some t }
        | none =>
          match digits? 1 9 cs with
          | some (n, _, rest) => words fuel rest { w with numbers := w.numbers ++ [n] }
          | none => none
      else if (c == '+' || c == '-') && w.clock.isSome then
        match zone? cs with
        | some (z, rest) => words fuel rest { w with zone := z }
        | none => words fuel rest w
      else if c == '(' then words fuel ((rest.dropWhile (· != ')')).drop 1) w
      else words fuel rest w

def spoken? (cs : List Char) : Option Double := do
  let w ← words (cs.length + 1) cs {}
  let (month, day, year) ← match w.month, w.numbers with
    | some m, [a, b] => if 31 < a then some (m, b, a) else some (m, a, b)
    | some m, [a] => if 31 < a then some (m, 1, a) else none
    | none, [a, b, c] => if 31 < a then some (b, c, a) else some (a, b, c)
    | _, _ => none
  let year := if year < 50 then year + 2000 else if year < 100 then year + 1900 else year
  let (h, m, s, ms) := w.clock.getD (0, 0, 0, 0)
  let h := match w.afternoon with
    | some true => if h < 12 then h + 12 else h
    | some false => if h = 12 then 0 else h
    | none => h
  if month < 1 || 12 < month || day < 1 || 31 < day || 24 < h || 59 < m || 59 < s then none
  return time year month day h m s ms w.zone

def read (t : Text) : Double :=
  let cs := t.trim.toStringLossy.toList
  match iso? cs with
  | some d => d
  | none => (spoken? cs).getD Double.nan

end DateReader

namespace Act

def thisTime (this : Value) : Act Double := do
  match this with
  | .object o =>
    match (← object o).payload with
    | .date t => return t
    | _ => raiseType "not a Date object"
  | _ => raiseType "not a Date object"

def setTime (this : Value) (t : Double) : Act Value := do
  match this with
  | .object o =>
    setPayload o (.date t)
    return .number t
  | _ => return .number t

def timeOfArguments (args : List Value) : Act Double := do
  let ds ← (args.take 7).mapM toDouble
  if ds.any fun d => !d.isFinite then return Double.nan
  let parts := ds.map Double.trunc
  let parts := match parts with
    | y :: rest => (if isShortYear y then y.add (Double.ofInt 1900) else y) :: rest
    | [] => []
  let defaults := [Double.zero, Double.zero, Double.ofInt 1]
  let padding := (defaults ++ List.replicate 4 Double.zero).drop parts.length
  return timeOfParts (parts ++ padding)

def constructDate (args : List Value) (newTarget : Value) : Act Value := do
  if newTarget.isUndefined then
    return .ofString (((DateParts.ofTime currentTime).map (·.text .both)).getD "")
  let time ← match args with
    | [] => pure currentTime
    | [v] =>
      let own? ← match v with
        | .object o =>
          match (← object o).payload with
          | .date t => pure (some t)
          | _ => pure none
        | _ => pure none
      match own? with
      | some t => pure t
      | none =>
        match ← toPrimitive v .default with
        | .text t => pure (DateReader.read t)
        | p => do pure (clipTime (← primitiveToDouble p))
    | _ => timeOfArguments args
  let proto ← match ← get newTarget "prototype" with
    | .object p => pure p
    | _ => pure Intrinsic.datePrototype
  return .object (← newObject proto (.date time))

/-- Sets fields from one on; the time of a date that has none can only be set from the year on. -/
def setFields (this : Value) (args : List Value) (first stop : Nat) : Act Value := do
  let t ← thisTime this
  let start := if t.isNaN && first = 0 then some Double.zero else if t.isNaN then none else some t
  let ds ← (args.take (stop - first)).mapM toDouble
  match start.bind DateParts.ofTime with
  | none => return .number Double.nan
  | some p =>
    if args.isEmpty || ds.any fun d => !d.isFinite then setTime this Double.nan
    else
      let old := p.toList
      let new := old.take first ++ ds.map Double.trunc ++ old.drop (first + ds.length)
      setTime this (timeOfParts new)

def dateText (this : Value) (f : DateParts → String) : Act Value := do
  match DateParts.ofTime (← thisTime this) with
  | some p => return .ofString (f p)
  | none => return .ofString "Invalid Date"

def dateFn (f : DateFn) (this : Value) (args : List Value) (newTarget : Value) : Act Value := do
  let a := arg args 0
  match f with
  | .construct => constructDate args newTarget
  | .now => return .number currentTime
  | .parse => return .number (DateReader.read (← toText a))
  | .utc => if args.isEmpty then return .number Double.nan else return .number (← timeOfArguments args)
  | .valueOf | .getTime => return .number (← thisTime this)
  | .toString => dateText this (·.text .both)
  | .toDateString => dateText this (·.text .date)
  | .toTimeString => dateText this (·.text .time)
  | .toUtcString => dateText this (·.universalText)
  | .toIsoString =>
    match DateParts.ofTime (← thisTime this) with
    | some p => return .ofString p.isoText
    | none => raiseRange "Date value is NaN"
  | .toLocaleString => dateText this (·.localText .both)
  | .toLocaleDateString => dateText this (·.localText .date)
  | .toLocaleTimeString => dateText this (·.localText .time)
  | .toPrimitive =>
    if !this.isObject then raiseType "not an object"
    match a with
    | .text t =>
      match t.toStringLossy with
      | "number" | "integer" => ordinaryPrimitive this .number
      | "string" | "default" => ordinaryPrimitive this .string
      | _ => raiseType "invalid hint"
    | _ => raiseType "invalid hint"
  | .getTimezoneOffset =>
    let t ← thisTime this
    return if t.isNaN then .number t else .ofNat 0
  | .getYear =>
    match DateParts.ofTime (← thisTime this) with
    | some p => return .ofInt (p.year - 1900)
    | none => return .number Double.nan
  | .get field =>
    match DateParts.ofTime (← thisTime this) with
    | some p => return .ofInt (p.get field)
    | none => return .number Double.nan
  | .set field => setFields this args field.range.1 field.range.2
  | .setTime =>
    let _ ← thisTime this
    setTime this (clipTime (← toDouble a))
  | .setYear =>
    let _ ← thisTime this
    let y ← toDouble a
    let y := if y.isFinite then y.trunc else y
    let y := if isShortYear y then y.add (Double.ofInt 1900) else y
    setFields this [.number y] 0 1
  | .toJson =>
    let o ← toObject this
    match ← toPrimitive (.object o) .number with
    | .number d => if !d.isFinite then return .null else iso o
    | _ => iso o
where
  iso (o : ObjectId) : Act Value := do
    let f ← getFrom o "toISOString" (.object o)
    if !(← isCallable f) then raiseType "object needs toISOString method"
    call f (.object o) []

end Act

end Embedding.Guest
