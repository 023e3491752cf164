import Embedding.Guest.Builtin.Substitution
import Embedding.Guest.Regex.Match

namespace Embedding.Guest.Act

def compilePattern (source flags : Text) : Act Regex.Pattern := do
  match Regex.Pattern.ofText source flags with
  | .ok p => return p
  | .error e => raise .syntaxError e

def newRegExp (proto : ObjectId) (source flags : Text) : Act ObjectId := do
  let _ ← compilePattern source flags
  let o ← newObject proto (.regexp source flags)
  putProperty o "lastIndex" ⟨.data (.ofNat 0) true, false, false⟩
  return o

def regexpParts? (v : Value) : Act (Option (Text × Text)) := do
  match v with
  | .object o =>
    match (← object o).payload with
    | .regexp source flags => return some (source, flags)
    | _ => return none
  | _ => return none

def thisRegExp (this : Value) : Act (ObjectId × Text × Text) := do
  match this, ← regexpParts? this with
  | .object o, some (source, flags) => return (o, source, flags)
  | _, _ => raiseType "RegExp object expected"

def isRegExp (v : Value) : Act Bool := do
  if !v.isObject then return false
  let m ← get v Symbol.matchSymbol
  if !m.isUndefined then return m.isTruthy
  return (← regexpParts? v).isSome

def requireObject (v : Value) : Act ObjectId := do
  match v with
  | .object o => return o
  | _ => raiseType "not an object"

def lastIndexOf (rx : Value) : Act Nat := do toLength (← get rx "lastIndex")

def setLastIndex (rx : Value) (n : Nat) : Act Unit := put rx "lastIndex" (.ofNat n)

def matchResult (pattern : Regex.Pattern) (t : Text) (start : Nat) (p : Regex.Progress) : Act Value := do
  let spans := some (start, p.position) :: p.caught.toList
  let textOf (span : Option (Nat × Nat)) : Value := match span with
    | some (a, b) => .text (t.slice a b)
    | none => .undefined
  let rangeOf (span : Option (Nat × Nat)) : Act Value := do
    match span with
    | some (a, b) => return .object (← newArray [.ofNat a, .ofNat b])
    | none => return .undefined
  let named (f : Option (Nat × Nat) → Act Value) : Act Value := do
    if pattern.names.isEmpty then return .undefined
    let o ← alloc { proto := none }
    for (name, i) in pattern.names do
      putProperty o name (.plain (← f ((p.caught[i - 1]?).getD none)))
    return .object o
  let o ← newArray (spans.map textOf)
  putProperty o "index" (.plain (.ofNat start))
  putProperty o "input" (.plain (.text t))
  putProperty o "groups" (.plain (← named fun s => return textOf s))
  if pattern.flags.indices then
    let ranges ← spans.mapM rangeOf
    let indices ← newArray ranges
    putProperty indices "groups" (.plain (← named rangeOf))
    putProperty o "indices" (.plain (.object indices))
  return .object o

/-- Runs an expression from where its last match ended, if it keeps count of that. -/
def runRegExp (this : Value) (t : Text) : Act Value := do
  let (_, source, flags) ← thisRegExp this
  let pattern ← compilePattern source flags
  let counts := pattern.flags.global || pattern.flags.sticky
  let last ← lastIndexOf this
  let start := if counts then last else 0
  let found := if t.length < start then none else pattern.search? t start
  match found with
  | none =>
    if counts || t.length < start then setLastIndex this 0
    return .null
  | some (at_, p) =>
    if counts then setLastIndex this p.position
    matchResult pattern t at_ p

def execute (rx : Value) (t : Text) : Act Value := do
  let f ← get rx "exec"
  if ← isCallable f then
    let r ← call f rx [.text t]
    if r.isObject || r == .null then return r
    else raiseType "RegExp exec method must return an object or null"
  else runRegExp rx t

def behind (t : Text) (i : Nat) (unicode : Bool) : Nat :=
  if unicode then
    match t.codePointAt? i with
    | some n => if 0x10000 ≤ n then i + 2 else i + 1
    | none => i + 1
  else i + 1

def passEmpty (rx : Value) (t : Text) (unicode : Bool) : Act Unit := do
  setLastIndex rx (behind t (← lastIndexOf rx) unicode)

def flagsOf (rx : Value) : Act Text := do toText (← get rx "flags")

def hasFlag (flags : Text) (c : Char) : Bool := flags.units.any fun u => u.toNat == c.toNat

/-- The results of all matches of an expression with the flag `g`, or of the first. -/
def allResults (rx : Value) (t : Text) (isGlobal unicode : Bool) : Act (List Value) := do
  if isGlobal then
    setLastIndex rx 0
    repeating (fun (acc : List Value) => do
      let r ← execute rx t
      if r == .null then return .inr acc.reverse
      hold r
      if (← toText (← get r "0")).isEmpty then passEmpty rx t unicode
      return .inl (r :: acc)) []
  else
    let r ← execute rx t
    return if r == .null then [] else [r]

def regexpMatch (rx : Value) (t : Text) : Act Value := do
  let flags ← flagsOf rx
  if hasFlag flags 'g' then
    let results ← allResults rx t true (hasFlag flags 'u')
    if results.isEmpty then return .null
    let texts ← results.mapM fun r => do return Value.text (← toText (← get r "0"))
    return .object (← newArray texts)
  else execute rx t

def regexpReplace (rx : Value) (t : Text) (replacer : Value) : Act Value := do
  let template ← templateOf replacer
  let flags ← flagsOf rx
  let results ← allResults rx t (hasFlag flags 'g') (hasFlag flags 'u')
  let (out, next) ← results.foldlM (fun (s : Text × Nat) r => do
    let (out, next) := s
    let n := (← toLength (← get r "length"))
    let matched ← toText (← get r "0")
    let position := (clampInt (← toInteger (← get r "index")) 0 t.length).toNat
    let groups ← (List.range' 1 (n - 1)).mapM fun i => do
      let v ← get r (.ofNat i)
      if v.isUndefined then pure v else do pure (Value.text (← toText v))
    let named ← get r "groups"
    let named ← if template.isSome && !named.isUndefined then do pure (Value.object (← toObject named)) else pure named
    let new ← replacement ⟨matched, position, t, groups, named⟩ replacer template
    if next ≤ position then return (out ++ t.slice next position ++ new, position + matched.length)
    else return (out, next)) (Text.empty, 0)
  newText (out ++ t.slice next t.length)

def regexpSearch (rx : Value) (t : Text) : Act Value := do
  let previous ← get rx "lastIndex"
  if !sameValue previous (.ofNat 0) then setLastIndex rx 0
  let r ← execute rx t
  let now ← get rx "lastIndex"
  if !sameValue now previous then put rx "lastIndex" previous
  if r == .null then return .ofInt (-1) else get r "index"

def speciesOf (o : Value) (fallback : Value) : Act Value := do
  let c ← get o "constructor"
  if c.isUndefined then return fallback
  if !c.isObject then raiseType "not an object"
  let s ← get c Symbol.species
  if s.isNullish then return fallback
  if !(← isConstructor s) then raiseType "not a constructor"
  return s

def splitLimit (v : Value) : Act Nat := if v.isUndefined then return 2 ^ 32 - 1 else toModulo v 32

def regexpSplit (rx : Value) (t : Text) (limit : Value) : Act Value := do
  let c ← speciesOf rx (.object Intrinsic.regexpConstructor)
  let flags ← flagsOf rx
  let unicode := hasFlag flags 'u'
  let flags := if hasFlag flags 'y' then flags else flags ++ Text.ofString "y"
  let splitter ← construct c [rx, .text flags] c
  let n ← splitLimit limit
  if n = 0 then return .object (← newArray [])
  if t.isEmpty then
    let r ← execute splitter t
    return .object (← newArray (if r == .null then [.text t] else []))
  let parts ← repeating (fun (s : Nat × Nat × List Value) => do
    let (p, q, acc) := s
    if t.length ≤ q then return .inr (.text (t.slice p t.length) :: acc)
    setLastIndex splitter q
    let r ← execute splitter t
    if r == .null then return .inl (p, behind t q unicode, acc)
    let e := min (← lastIndexOf splitter) t.length
    if e == p then return .inl (p, behind t q unicode, acc)
    let acc := .text (t.slice p q) :: acc
    if n ≤ acc.length then return .inr acc
    let count ← toLength (← get r "length")
    let groups ← (List.range' 1 (count - 1)).mapM fun i => get r (.ofNat i)
    let acc := groups.foldl (fun acc v => v :: acc) acc
    if n ≤ acc.length then return .inr (acc.drop (acc.length - n))
    return .inl (e, e, acc)) (0, 0, [])
  return .object (← newArray parts.reverse)

def regexpMatchAll (rx : Value) (t : Text) : Act Value := do
  let c ← speciesOf rx (.object Intrinsic.regexpConstructor)
  let flags ← flagsOf rx
  let matcher ← construct c [rx, .text flags] c
  put matcher "lastIndex" (.ofNat (← lastIndexOf rx))
  return .object (← newObject Intrinsic.matchIteratorPrototype
    (.matchIterator matcher t (hasFlag flags 'g') (hasFlag flags 'u') false))

def matchIteratorNext (this : Value) : Act Value := do
  match this with
  | .object o =>
    match (← object o).payload with
    | .matchIterator _ _ _ _ true => iterResult .undefined true
    | .matchIterator rx t isGlobal unicode false =>
      let finish := setPayload o (.matchIterator rx t isGlobal unicode true)
      let r ← execute rx t
      if r == .null then
        finish
        iterResult .undefined true
      else if isGlobal then
        if (← toText (← get r "0")).isEmpty then passEmpty rx t unicode
        iterResult r false
      else
        finish
        iterResult r false
    | _ => raiseType "RegExp String Iterator object expected"
  | _ => raiseType "RegExp String Iterator object expected"

def shownSource (source : Text) : Text :=
  if source.isEmpty then Text.ofString "(?:)" else ⟨(go false source.units.toList).toArray⟩
where
  go (inClass : Bool) : List UInt16 → List UInt16
    | [] => []
    | 92 :: u :: rest => 92 :: u :: go inClass rest
    | 47 :: rest => if inClass then 47 :: go inClass rest else 92 :: 47 :: go inClass rest
    | 10 :: rest => 92 :: 110 :: go inClass rest
    | 13 :: rest => 92 :: 114 :: go inClass rest
    | 91 :: rest => 91 :: go true rest
    | 93 :: rest => 93 :: go false rest
    | u :: rest => u :: go inClass rest

/-- The properties that stand for flags, in the order in which `flags` lists them. -/
def flagProperties : List (String × Char) :=
  [("hasIndices", 'd'), ("global", 'g'), ("ignoreCase", 'i'), ("multiline", 'm'), ("dotAll", 's'),
   ("unicode", 'u'), ("sticky", 'y')]

def constructRegExp (args : List Value) (newTarget : Value) : Act Value := do
  let (pattern, flags) := (arg args 0, arg args 1)
  let isOne ← isRegExp pattern
  let self := Value.object Intrinsic.regexpConstructor
  let again ←
    if newTarget.isUndefined && isOne && flags.isUndefined then do
      pure ((← get pattern "constructor") == self)
    else pure false
  if again then return pattern
  let (source, flagText) ← match ← regexpParts? pattern with
    | some (source, own) => do pure (source, ← if flags.isUndefined then pure own else toText flags)
    | none =>
      let sourceValue ← if isOne then get pattern "source" else pure pattern
      let flagValue ← if isOne && flags.isUndefined then get pattern "flags" else pure flags
      let source ← if sourceValue.isUndefined then pure Text.empty else toText sourceValue
      let flagText ← if flagValue.isUndefined then pure Text.empty else toText flagValue
      pure (source, flagText)
  let proto ← match newTarget with
    | .object _ => do
      match ← get newTarget "prototype" with
      | .object p => pure p
      | _ => pure Intrinsic.regexpPrototype
    | _ => pure Intrinsic.regexpPrototype
  return .object (← newRegExp proto source flagText)

def regexpFn (f : RegExpFn) (this : Value) (args : List Value) (newTarget : Value) : Act Value := do
  let a := arg args 0
  match f with
  | .construct => constructRegExp args newTarget
  | .exec =>
    let _ ← thisRegExp this
    runRegExp this (← toText a)
  | .compile =>
    let (o, _, _) ← thisRegExp this
    let source ← textUnlessUndefined a
    let flags ← textUnlessUndefined (arg args 1)
    let _ ← compilePattern source flags
    setPayload o (.regexp source flags)
    setLastIndex this 0
    return this
  | .test =>
    let _ ← requireObject this
    return .bool ((← execute this (← toText a)) != .null)
  | .toString =>
    let _ ← requireObject this
    let source ← toText (← get this "source")
    let flags ← toText (← get this "flags")
    newText (Text.ofString "/" ++ source ++ Text.ofString "/" ++ flags)
  | .source =>
    if this == .object Intrinsic.regexpPrototype then return .ofString "(?:)"
    let (_, source, _) ← thisRegExp this
    return .text (shownSource source)
  | .flags =>
    let _ ← requireObject this
    let letters ← flagProperties.filterM fun (name, _) => do return (← get this name).isTruthy
    return .ofString (String.ofList (letters.map (·.2)))
  | .flag letter =>
    let _ ← requireObject this
    if this == .object Intrinsic.regexpPrototype then return .undefined
    let (_, _, flags) ← thisRegExp this
    return .bool (hasFlag flags letter)
  | .matchWith =>
    let _ ← requireObject this
    regexpMatch this (← toText a)
  | .matchAll =>
    let _ ← requireObject this
    regexpMatchAll this (← toText a)
  | .replace =>
    let _ ← requireObject this
    regexpReplace this (← toText a) (arg args 1)
  | .search =>
    let _ ← requireObject this
    regexpSearch this (← toText a)
  | .split =>
    let _ ← requireObject this
    regexpSplit this (← toText a) (arg args 1)

end Embedding.Guest.Act
