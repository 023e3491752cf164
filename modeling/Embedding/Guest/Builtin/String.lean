import Embedding.Guest.Builtin.RegExp
import Embedding.Text.Case
import Embedding.Text.Normal

namespace Embedding.Guest.Act

def textLimit : Nat := 2 ^ 30 - 1

def thisText (this : Value) : Act Text := do
  if this.isNullish then raiseType "null or undefined are forbidden"
  toText this

def thisStringValue (this : Value) : Act Value := do
  match this with
  | .text _ => return this
  | .object o =>
    match (← object o).payload with
    | .primitive (.text t) => return .text t
    | _ => raiseType "not a string"
  | _ => raiseType "not a string"

def plainSearchText (v : Value) : Act Text := do
  if ← isRegExp v then raiseType "regexp not supported"
  toText v

def padText (t : Text) (args : List Value) (atStart : Bool) : Act Value := do
  let n ← toLength (arg args 0)
  if n ≤ t.length then return .text t
  let filler ← if (arg args 1).isUndefined then pure (Text.ofString " ") else toText (arg args 1)
  if filler.isEmpty then return .text t
  if textLimit < n then raiseRange "invalid string length"
  let missing := n - t.length
  charge missing
  let pad := (filler.repeated (missing / filler.length + 1)).slice 0 missing
  newText (if atStart then pad ++ t else t ++ pad)

def requireGlobal (v : Value) : Act Unit := do
  if ← isRegExp v then
    let flags ← get v "flags"
    if flags.isNullish then raiseType "cannot convert to object"
    if !hasFlag (← toText flags) 'g' then raiseType "regexp must have the 'g' flag"

def delegate? (v : Value) (s : Symbol) : Act (Option Value) := do
  if v.isNullish then return none
  let f ← get v s
  return if f.isNullish then none else some f

def requireCoercible (this : Value) : Act Unit := do
  if this.isNullish then raiseType "cannot convert to object"

def replaceText (this : Value) (args : List Value) (all : Bool) : Act Value := do
  requireCoercible this
  let (wanted, replacer) := (arg args 0, arg args 1)
  if all && !wanted.isNullish then requireGlobal wanted
  match ← delegate? wanted Symbol.replace with
  | some f => call f wanted [this, replacer]
  | none =>
    let t ← toText this
    let w ← toText wanted
    let template ← templateOf replacer
    let rec rounds : Nat → Nat → Nat → Text → Act Text
      | 0, done, _, out => return out ++ t.slice done t.length
      | n + 1, done, start, out => do
        match t.indexOf? w start with
        | none => return out ++ t.slice done t.length
        | some i =>
          let new ← replacement ⟨w, i, t, [], .undefined⟩ replacer template
          let out := out ++ t.slice done i ++ new
          let done := i + w.length
          rounds n done (if w.isEmpty then i + 1 else done) out
    newText (← rounds (if all then t.length + 1 else 1) 0 0 Text.empty)

def splitText (this : Value) (args : List Value) : Act Value := do
  requireCoercible this
  let separator := arg args 0
  match ← delegate? separator Symbol.split with
  | some f => call f separator [this, arg args 1]
  | none =>
    let t ← toText this
    let limit ← splitLimit (arg args 1)
    let s ← toText separator
    if limit = 0 then return .object (← newArray [])
    if separator.isUndefined then return .object (← newArray [.text t])
    let parts :=
      if t.isEmpty then (if s.isEmpty then [] else [t])
      else if s.isEmpty then t.units.toList.map fun u => ⟨#[u]⟩
      else pieces t s (t.length + 1) 0
    return .object (← newArray ((parts.take limit).map .text))
where
  pieces (t s : Text) : Nat → Nat → List Text
    | 0, _ => []
    | n + 1, start =>
      match t.indexOf? s start with
      | some i => t.slice start i :: pieces t s n (i + s.length)
      | none => [t.slice start t.length]

/-- Hands the search to the argument, or to a regular expression made of it. -/
def searchBy (this : Value) (args : List Value) (s : Symbol) (flags : List Value) : Act Value := do
  requireCoercible this
  let wanted := arg args 0
  match ← delegate? wanted s with
  | some f => call f wanted [this]
  | none =>
    let t ← toText this
    let c := Value.object Intrinsic.regexpConstructor
    let rx ← construct c (wanted :: flags) c
    invoke rx s [.text t]

def rawText (args : List Value) : Act Value := do
  let cooked ← toObject (arg args 0)
  let raw ← toObject (← getFrom cooked "raw" (.object cooked))
  let n ← toLength (← getFrom raw "length" (.object raw))
  let parts ← (List.range n).mapM fun i => do
    let t ← toText (← getFrom raw (.ofNat i) (.object raw))
    if i + 1 < n && i + 1 < args.length then return t ++ (← toText (arg args (i + 1))) else return t
  newText (Text.join Text.empty parts)

def codePointArgument (v : Value) : Act Text := do
  match (← toDouble v).toInt? with
  | some n => if 0 ≤ n && n ≤ 0x10FFFF then return Text.ofCodePoint n.toNat else raiseRange "invalid code point"
  | none => raiseRange "invalid code point"

def normalForm (v : Value) : Act (Bool × Bool) := do
  if v.isUndefined then return (false, true)
  match (← toText v).toStringLossy with
  | "NFC" => return (false, true)
  | "NFD" => return (false, false)
  | "NFKC" => return (true, true)
  | "NFKD" => return (true, false)
  | _ => raiseRange "bad normalization form"

def constructString (args : List Value) (newTarget : Value) : Act Value := do
  let v ← match args, newTarget with
    | [], _ => pure (Value.text Text.empty)
    | .symbol s :: _, .undefined =>
      pure (Value.text (Text.ofString "Symbol(" ++ s.description.getD Text.empty ++ Text.ofString ")"))
    | v :: _, _ => do pure (Value.text (← toText v))
  match newTarget with
  | .object _ =>
    let p ← match ← get newTarget "prototype" with
      | .object p => pure p
      | _ => pure Intrinsic.stringPrototype
    return .object (← newObject p (.primitive v))
  | _ => return v

def stringFn (f : StringFn) (this : Value) (args : List Value) (newTarget : Value) : Act Value := do
  let (a, b) := (arg args 0, arg args 1)
  match f with
  | .construct => constructString args newTarget
  | .fromCharCode =>
    let units ← args.mapM fun v => do return UInt16.ofNat (← toModulo v 16)
    newText ⟨units.toArray⟩
  | .fromCodePoint => do newText (Text.join Text.empty (← args.mapM codePointArgument))
  | .raw => rawText args
  | .toString | .valueOf => thisStringValue this
  | .matchWith => searchBy this args Symbol.matchSymbol []
  | .matchAll =>
    requireCoercible this
    if !a.isNullish then requireGlobal a
    searchBy this args Symbol.matchAll [.ofString "g"]
  | .search => searchBy this args Symbol.search []
  | .split => splitText this args
  | .replace => replaceText this args false
  | .replaceAll => replaceText this args true
  | _ =>
    let t ← thisText this
    match f with
    | .at =>
      let i ← toInteger a
      let i := if i < 0 then i + t.length else i
      if i < 0 then return .undefined
      match t.unit? i.toNat with
      | some u => return .text ⟨#[u]⟩
      | none => return .undefined
    | .charCodeAt =>
      let i ← toInteger a
      match if i < 0 then none else t.unit? i.toNat with
      | some u => return .ofNat u.toNat
      | none => return .number Double.nan
    | .charAt =>
      let i ← toInteger a
      match if i < 0 then none else t.unit? i.toNat with
      | some u => return .text ⟨#[u]⟩
      | none => return .text Text.empty
    | .codePointAt =>
      let i ← toInteger a
      match if i < 0 then none else t.codePointAt? i.toNat with
      | some n => return .ofNat n
      | none => return .undefined
    | .concat =>
      let parts ← args.mapM toText
      newText (parts.foldl (· ++ ·) t)
    | .isWellFormed => return .bool (t.codePoints.all Text.isScalar)
    | .toWellFormed => newText (Text.ofString t.toStringLossy)
    | .indexOf =>
      let w ← toText a
      let start := (clampInt (← toInteger b) 0 t.length).toNat
      match t.indexOf? w start with
      | some i => return .ofNat i
      | none => return .ofInt (-1)
    | .lastIndexOf =>
      let w ← toText a
      let d ← if b.isUndefined then pure Double.nan else toDouble b
      let start := if d.isNaN then t.length else (clampInt (integerOfDouble d) 0 t.length).toNat
      match t.lastIndexOf? w start with
      | some i => return .ofNat i
      | none => return .ofInt (-1)
    | .includes =>
      let w ← plainSearchText a
      let start := (clampInt (← toInteger b) 0 t.length).toNat
      return .bool (t.indexOf? w start).isSome
    | .startsWith =>
      let w ← plainSearchText a
      let start := (clampInt (← toInteger b) 0 t.length).toNat
      return .bool (t.matchesAt w start)
    | .endsWith =>
      let w ← plainSearchText a
      let stop ← if b.isUndefined then pure t.length else do pure (clampInt (← toInteger b) 0 t.length).toNat
      return .bool (w.length ≤ stop && t.matchesAt w (stop - w.length))
    | .substring =>
      let x := (clampInt (← toInteger a) 0 t.length).toNat
      let y ← if b.isUndefined then pure t.length else do pure (clampInt (← toInteger b) 0 t.length).toNat
      newText (t.slice (min x y) (max x y))
    | .substr =>
      let x ← toRelativeIndex a t.length
      let n ← if b.isUndefined then pure (t.length - x)
        else do pure (clampInt (← toInteger b) 0 (t.length - x : Nat)).toNat
      newText (t.slice x (x + n))
    | .slice =>
      let x ← toRelativeIndex a t.length
      let y ← if b.isUndefined then pure t.length else toRelativeIndex b t.length
      newText (t.slice x y)
    | .repeated =>
      let n ← toInteger a
      if n < 0 || 2147483647 < n then raiseRange "invalid repeat count"
      if textLimit < n.toNat * t.length then raiseRange "invalid string length"
      if t.isEmpty then return .text t
      charge (n.toNat * t.length)
      return .text (t.repeated n.toNat)
    | .padEnd => padText t args false
    | .padStart => padText t args true
    | .trim => newText t.trim
    | .trimEnd => newText t.trimEnd
    | .trimStart => newText t.trimStart
    | .localeCompare =>
      let other ← toText a
      match (t.normalize false true).compare (other.normalize false true) with
      | .lt => return .ofInt (-1)
      | .eq => return .ofInt 0
      | .gt => return .ofInt 1
    | .toLowerCase => newText t.toLower
    | .toUpperCase => newText t.toUpper
    | .normalize =>
      let (compatible, composed) ← normalForm a
      newText (t.normalize compatible composed)
    | .iterator => return .object (← newObject Intrinsic.textIteratorPrototype (.textIterator t 0))
    | _ => return .undefined

def textIteratorNext (this : Value) : Act Value := do
  match this with
  | .object o =>
    match (← object o).payload with
    | .textIterator t i =>
      match t.codePointAt? i with
      | none =>
        setPayload o (.textIterator Text.empty 0)
        iterResult .undefined true
      | some n =>
        let next := if 0x10000 ≤ n then i + 2 else i + 1
        setPayload o (.textIterator t next)
        iterResult (.text (t.slice i next)) false
    | _ => raiseType "String Iterator object expected"
  | _ => raiseType "String Iterator object expected"

end Embedding.Guest.Act
