import Embedding.Text.Blank
import Embedding.Text.Case

namespace Embedding.Guest.Regex

inductive Node where
  | empty
  | char (n : Nat)
  | any
  | set (inverted : Bool) (ranges : List (Nat × Nat))
  | seq (a b : Node)
  | either (a b : Node)
  | group (index : Nat) (body : Node)
  | back (index : Nat)
  /-- Between `least` and `most` times; the groups from `first` to `last` lie inside. -/
  | repeat (body : Node) (least : Nat) (most : Option Nat) (greedy : Bool) (first last : Nat)
  | lineStart
  | lineEnd
  | boundary (inverted : Bool)
  | look (ahead inverted : Bool) (body : Node)
deriving Inhabited

structure Flags where
  global : Bool := false
  ignoreCase : Bool := false
  multiline : Bool := false
  dotAll : Bool := false
  unicode : Bool := false
  sticky : Bool := false
  indices : Bool := false
deriving Inhabited

def Flags.ofText? (t : Text) : Option Flags :=
  t.units.toList.foldlM (fun f u =>
    if u == 103 && !f.global then some { f with global := true }
    else if u == 105 && !f.ignoreCase then some { f with ignoreCase := true }
    else if u == 109 && !f.multiline then some { f with multiline := true }
    else if u == 115 && !f.dotAll then some { f with dotAll := true }
    else if u == 117 && !f.unicode then some { f with unicode := true }
    else if u == 121 && !f.sticky then some { f with sticky := true }
    else if u == 100 && !f.indices then some { f with indices := true }
    else none) {}

structure Pattern where
  root : Node
  flags : Flags
  groups : Nat
  names : List (String × Nat)
deriving Inhabited

abbrev Ranges := List (Nat × Nat)

def digitRanges : Ranges := [(48, 57)]

def wordRanges : Ranges := [(48, 57), (65, 90), (95, 95), (97, 122)]

def blankRanges : Ranges :=
  [(9, 13), (32, 32), (160, 160), (0x1680, 0x1680), (0x2000, 0x200A), (0x2028, 0x2029),
   (0x202F, 0x202F), (0x205F, 0x205F), (0x3000, 0x3000), (0xFEFF, 0xFEFF)]

def complement (start : Nat) : Ranges → Ranges
  | [] => [(start, 0x10FFFF)]
  | (a, b) :: rest =>
    if start < a then (start, a - 1) :: complement (b + 1) rest else complement (b + 1) rest

def namedClass? (c : Nat) : Option Ranges :=
  if c == 100 then some digitRanges
  else if c == 68 then some (complement 0 digitRanges)
  else if c == 119 then some wordRanges
  else if c == 87 then some (complement 0 wordRanges)
  else if c == 115 then some blankRanges
  else if c == 83 then some (complement 0 blankRanges)
  else none

structure State where
  source : Array Nat
  position : Nat
  unicode : Bool
  groups : Nat
  names : List (String × Nat)
  /-- The groups that the whole source opens and the names it gives. -/
  total : Nat
  named : Bool
  allNames : List (String × Nat)

abbrev Read := EStateM String State

namespace Read

def code (offset : Nat) : Read Nat := do
  let s ← get
  return s.source.getD (s.position + offset) 0

def atEnd : Read Bool := do
  let s ← get
  return s.source.size ≤ s.position

def skip (n : Nat) : Read Unit := modify fun s => { s with position := s.position + n }

def isChar (n : Nat) (c : Char) : Bool := n == c.toNat

def hex? (n : Nat) : Option Nat :=
  if isAsciiDigit n then some (n - 48)
  else if 97 ≤ n && n ≤ 102 then some (n - 87)
  else if 65 ≤ n && n ≤ 70 then some (n - 55)
  else none

def number? : Read (Option Nat) := do
  let s ← get
  let ds := ((s.source.toList.drop s.position).takeWhile isAsciiDigit)
  if ds.isEmpty then return none
  skip ds.length
  return some (ds.foldl (fun acc d => acc * 10 + (d - 48)) 0)

def hexDigits? (count : Nat) : Read (Option Nat) := do
  let s ← get
  let ds := (s.source.toList.drop s.position).take count
  let value := ds.foldlM (fun acc d => (hex? d).map (acc * 16 + ·)) 0
  if ds.length = count && value.isSome then
    skip count
    return value
  else return none

def unicodeEscape? : Read (Option Nat) := do
  let s ← get
  if s.unicode && (← code 0) == 123 then
    let ds := (s.source.toList.drop (s.position + 1)).takeWhile fun d => (hex? d).isSome
    let value := ds.foldl (fun acc d => acc * 16 + (hex? d).getD 0) 0
    if ds.isEmpty || s.source.getD (s.position + 1 + ds.length) 0 != 125 || 0x10FFFF < value then
      return none
    skip (ds.length + 2)
    return some value
  else
    match ← hexDigits? 4 with
    | none => return none
    | some high =>
      if s.unicode && 0xD800 ≤ high && high < 0xDC00 && (← code 0) == 92 && (← code 1) == 117 then
        let before ← get
        skip 2
        match ← hexDigits? 4 with
        | some low =>
          if 0xDC00 ≤ low && low < 0xE000 then
            return some (0x10000 + (high - 0xD800) * 0x400 + (low - 0xDC00))
          else set before; return some high
        | none => set before; return some high
      else return some high

def escapedChar (inClass : Bool) : Read Nat := do
  let s ← get
  let c ← code 0
  skip 1
  if isChar c 'f' then return 12
  else if isChar c 'n' then return 10
  else if isChar c 'r' then return 13
  else if isChar c 't' then return 9
  else if isChar c 'v' then return 11
  else if isChar c 'b' && inClass then return 8
  else if isChar c '-' && inClass && s.unicode then return 45
  else if isChar c '0' && !isAsciiDigit (← code 0) then return 0
  else if isChar c 'c' then
    let d ← code 0
    if isAsciiLetter d || (inClass && !s.unicode && (isAsciiDigit d || d == 95)) then
      skip 1
      return d % 32
    else if s.unicode then throw "invalid escape sequence in regular expression"
    else
      modify fun s => { s with position := s.position - 1 }
      return 92
  else if isChar c 'x' then
    match ← hexDigits? 2 with
    | some n => return n
    | none =>
      if s.unicode then throw "invalid escape sequence in regular expression" else return c
  else if isChar c 'u' then
    match ← unicodeEscape? with
    | some n => return n
    | none =>
      if s.unicode then throw "invalid escape sequence in regular expression" else return c
  else if 48 ≤ c && c ≤ 55 && !s.unicode then
    let d1 ← code 0
    if 48 ≤ d1 && d1 ≤ 55 then
      skip 1
      let two := (c - 48) * 8 + (d1 - 48)
      let d2 ← code 0
      if c < 52 && 48 ≤ d2 && d2 ≤ 55 then
        skip 1
        return two * 8 + (d2 - 48)
      else return two
    else return c - 48
  else if s.unicode && !(String.toList "^$\\.*+?()[]\x7b\x7d|/").any (isChar c) then
    throw "invalid escape sequence in regular expression"
  else return c

def classItem : Read (Nat ⊕ Ranges) := do
  let c ← code 0
  if ← atEnd then throw "unexpected end"
  skip 1
  if c == 92 then
    if ← atEnd then throw "unexpected end"
    match namedClass? (← code 0) with
    | some r => skip 1; return .inr r
    | none => return .inl (← escapedChar true)
  else return .inl c

/-- The items of a class up to its bracket. The fuel is the length of the source. -/
def classItems : Nat → Ranges → Read Ranges
  | 0, acc => pure acc
  | n + 1, acc => do
    if ← atEnd then throw "unexpected end"
    else if (← code 0) == 93 then
      skip 1
      return acc
    else
      let first ← classItem
      if (← code 0) == 45 && (← code 1) != 93 then
        let before ← get
        skip 1
        match first, ← classItem with
        | .inl a, .inl b =>
          if b < a then throw "invalid class range"
          classItems n ((a, b) :: acc)
        | _, _ =>
          if before.unicode then throw "invalid class range"
          set before
          classItems n (single first ++ acc)
      else classItems n (single first ++ acc)
where
  single : Nat ⊕ Ranges → Ranges
    | .inl a => [(a, a)]
    | .inr r => r

/-- A group name up to its closing angle bracket; the opening one has been read. -/
def groupName : Read String := do
  let s ← get
  let name := (s.source.toList.drop s.position).takeWhile fun c => c != 62
  let valid := match name with
    | [] => false
    | c :: rest => isNameStart c && rest.all isNamePart
  if !valid || s.source.size ≤ s.position + name.length then throw "invalid group name"
  skip (name.length + 1)
  return String.ofList (name.map Char.ofNat)

def counts? : Read (Option (Nat × Option Nat)) := do
  let before ← get
  skip 1
  match ← number? with
  | none => set before; return none
  | some least =>
    let most ← do
      if (← code 0) == 44 then
        skip 1
        if (← code 0) == 125 then pure none else
          match ← number? with
          | some m => pure (some m)
          | none => set before; return none
      else pure (some least)
    if (← code 0) != 125 then
      if before.unicode then throw "invalid repetition count"
      set before
      return none
    skip 1
    match most with
    | some m => if m < least then throw "invalid repetition count"
    | none => pure ()
    return some (least, most)

mutual

/-- Alternatives up to a parenthesis or the end. The fuel bounds the nesting. -/
def alternatives : Nat → Read Node
  | 0 => throw "stack overflow"
  | n + 1 => do
    let a ← terms n .empty
    if !(← atEnd) && (← code 0) == 124 then
      skip 1
      return .either a (← alternatives n)
    else return a

def terms : Nat → Node → Read Node
  | 0, _ => throw "stack overflow"
  | n + 1, acc => do
    let c ← code 0
    if (← atEnd) || c == 124 || c == 41 then return acc
    else
      let t ← term n
      terms n (match acc with
        | .empty => t
        | _ => .seq acc t)

def term : Nat → Read Node
  | 0 => throw "stack overflow"
  | n + 1 => do
    let s ← get
    let firstGroup := s.groups + 1
    let c ← code 0
    skip 1
    if c == 94 then return .lineStart
    else if c == 36 then return .lineEnd
    else if c == 92 && (← code 0) == 98 then skip 1; return .boundary false
    else if c == 92 && (← code 0) == 66 then skip 1; return .boundary true
    else if c == 40 && (← code 0) == 63 then
      let k ← code 1
      if k == 61 || k == 33 then
        skip 2
        let body ← alternatives n
        close
        let looked := Node.look true (k == 33) body
        if s.unicode then return looked else quantified firstGroup looked
      else if k == 60 && ((← code 2) == 61 || (← code 2) == 33) then
        let inverted := (← code 2) == 33
        skip 3
        let body ← alternatives n
        close
        return .look false inverted body
      else if k == 58 then
        skip 2
        let body ← alternatives n
        close
        quantified firstGroup body
      else if k == 60 then
        skip 2
        let name ← groupName
        if ((← get).names.lookup name).isSome then throw "duplicate group name"
        let index := (← get).groups + 1
        modify fun s => { s with groups := index, names := s.names ++ [(name, index)] }
        let body ← alternatives n
        close
        quantified firstGroup (.group index body)
      else throw "invalid group"
    else if c == 40 then
      let index := (← get).groups + 1
      modify fun s => { s with groups := index }
      let body ← alternatives n
      close
      quantified firstGroup (.group index body)
    else if c == 46 then quantified firstGroup .any
    else if c == 91 then
      let inverted := (← code 0) == 94
      if inverted then skip 1
      let ranges ← classItems s.source.size []
      quantified firstGroup (.set inverted ranges)
    else if c == 42 || c == 43 || c == 63 then throw "nothing to repeat"
    else if c == 123 then
      if s.unicode then throw "syntax error"
      modify fun s => { s with position := s.position - 1 }
      if (← counts?).isSome then throw "nothing to repeat"
      skip 1
      quantified firstGroup (.char c)
    else if (c == 125 || c == 93) && s.unicode then throw "syntax error"
    else if c == 92 then
      if ← atEnd then throw "unexpected end"
      let d ← code 0
      match namedClass? d with
      | some r => skip 1; quantified firstGroup (.set false r)
      | none =>
        if d == 107 && (s.unicode || s.named) then
          skip 1
          if (← code 0) != 60 then throw "expecting group name"
          skip 1
          let name ← groupName
          match s.allNames.lookup name with
          | some i => quantified firstGroup (.back i)
          | none => throw "group name not defined"
        else if 49 ≤ d && d ≤ 57 then
          let before ← get
          let i := (← number?).getD 0
          if i ≤ s.total then quantified firstGroup (.back i)
          else if s.unicode then throw "back reference out of range in regular expression"
          else
            set before
            if 56 ≤ d then skip 1; quantified firstGroup (.char d)
            else quantified firstGroup (.char (← escapedChar false))
        else quantified firstGroup (.char (← escapedChar false))
    else quantified firstGroup (.char c)
where
  close : Read Unit := do
    if (← code 0) != 41 || (← atEnd) then throw "expecting ')'"
    skip 1
  quantified (firstGroup : Nat) (body : Node) : Read Node := do
    let c ← code 0
    if ← atEnd then return body
    let count ←
      if c == 42 then do skip 1; pure (some (0, none))
      else if c == 43 then do skip 1; pure (some (1, none))
      else if c == 63 then do skip 1; pure (some (0, some 1))
      else if c == 123 then counts?
      else pure none
    match count with
    | none => return body
    | some (least, most) =>
      let lazy := (← code 0) == 63 && !(← atEnd)
      if lazy then skip 1
      return .repeat body least most (!lazy) firstGroup (← get).groups

end

end Read

/-- Counts the groups of a source and collects their names, without reading it in full. -/
def scanGroups (source : List Nat) : Nat × List (String × Nat) :=
  go false 0 [] source
where
  go (inClass : Bool) (count : Nat) (names : List (String × Nat)) :
      List Nat → Nat × List (String × Nat)
    | [] => (count, names)
    | 92 :: _ :: rest => go inClass count names rest
    | 91 :: rest => go true count names rest
    | 93 :: rest => go false count names rest
    | 40 :: 63 :: 60 :: c :: rest =>
      if inClass || c == 61 || c == 33 then go inClass count names rest
      else
        let name := String.ofList (((c :: rest).takeWhile (· != 62)).map Char.ofNat)
        go inClass (count + 1) (names ++ [(name, count + 1)]) rest
    | 40 :: 63 :: rest => go inClass count names rest
    | 40 :: rest => go inClass (if inClass then count else count + 1) names rest
    | _ :: rest => go inClass count names rest

def Pattern.ofText (source flags : Text) : Except String Pattern :=
  match Flags.ofText? flags with
  | none => .error "invalid regular expression flags"
  | some f =>
    let codes := if f.unicode then source.codePoints else source.units.toList.map UInt16.toNat
    let (total, names) := scanGroups codes
    let start : State := ⟨codes.toArray, 0, f.unicode, 0, [], total, !names.isEmpty, names⟩
    match (Read.alternatives (4 * codes.length + 16)).run start with
    | .error e _ => .error e
    | .ok root s =>
      if s.position < s.source.size then .error "extraneous characters at the end"
      else .ok ⟨root, f, s.groups, s.names⟩

end Embedding.Guest.Regex
