import Embedding.Guest.Regex.Pattern

namespace Embedding.Guest.Regex

/-- A position and what the groups have caught, by start and end. -/
structure Progress where
  position : Nat
  caught : Array (Option (Nat × Nat))

structure Subject where
  units : Array UInt16
  flags : Flags

namespace Subject

variable (s : Subject)

def next? (i : Nat) : Option (Nat × Nat) :=
  match s.units[i]? with
  | none => none
  | some u =>
    if s.flags.unicode then
      match s.units[i + 1]? with
      | some v =>
        if Text.isHighSurrogate u && Text.isLowSurrogate v then some (Text.codePointOfPair u v, i + 2)
        else some (u.toNat, i + 1)
      | none => some (u.toNat, i + 1)
    else some (u.toNat, i + 1)

def previous? (i : Nat) : Option (Nat × Nat) :=
  if i = 0 then none
  else
    match s.units[i - 1]? with
    | none => none
    | some v =>
      if s.flags.unicode && 2 ≤ i then
        match s.units[i - 2]? with
        | some u =>
          if Text.isHighSurrogate u && Text.isLowSurrogate v then some (Text.codePointOfPair u v, i - 2)
          else some (v.toNat, i - 1)
        | none => some (v.toNat, i - 1)
      else some (v.toNat, i - 1)

def step? (forward : Bool) (i : Nat) : Option (Nat × Nat) :=
  if forward then s.next? i else s.previous? i

def fold (n : Nat) : Nat := if s.flags.ignoreCase then foldCase n else n

def isWordAt (i : Nat) : Bool :=
  match s.units[i]? with
  | some u => isAsciiLetter u.toNat || isAsciiDigit u.toNat || u.toNat == 95
  | none => false

def isBoundary (i : Nat) : Bool :=
  (if i = 0 then false else s.isWordAt (i - 1)) != s.isWordAt i

def inRanges (ranges : Ranges) (n : Nat) : Bool := ranges.any fun r => r.1 ≤ n && n ≤ r.2

def inSet (inverted : Bool) (ranges : Ranges) (n : Nat) : Bool :=
  let found :=
    inRanges ranges n ||
      (s.flags.ignoreCase &&
        ((ranges.any fun r => r.2 < r.1 + 512 &&
            (List.range (r.2 + 1 - r.1)).any fun k => foldCase (r.1 + k) == foldCase n) ||
          inRanges ranges (foldCase n)))
  found != inverted

end Subject

def isLineEndCode (n : Nat) : Bool := n == 10 || n == 13 || n == 0x2028 || n == 0x2029

def run (s : Subject) : Nat → Node → Bool → Progress → (Progress → Option Progress) → Option Progress
  | 0, _, _, _, _ => none
  | fuel + 1, node, forward, p, k =>
    match node with
    | .empty => k p
    | .char n =>
      match s.step? forward p.position with
      | some (c, next) => if s.fold c == s.fold n then k { p with position := next } else none
      | none => none
    | .any =>
      match s.step? forward p.position with
      | some (c, next) =>
        if s.flags.dotAll || !isLineEndCode c then k { p with position := next } else none
      | none => none
    | .set inverted ranges =>
      match s.step? forward p.position with
      | some (c, next) => if s.inSet inverted ranges c then k { p with position := next } else none
      | none => none
    | .seq a b =>
      if forward then run s fuel a forward p fun q => run s fuel b forward q k
      else run s fuel b forward p fun q => run s fuel a forward q k
    | .either a b =>
      match run s fuel a forward p k with
      | some q => some q
      | none => run s fuel b forward p k
    | .group index body =>
      run s fuel body forward p fun q =>
        let span := if forward then (p.position, q.position) else (q.position, p.position)
        k { q with caught := q.caught.set! (index - 1) (some span) }
    | .back index =>
      match p.caught.getD (index - 1) none with
      | none => k p
      | some (a, b) =>
        let size := b - a
        let start := if forward then p.position else p.position - size
        if !forward && p.position < size then none
        else if s.units.size < start + size then none
        else if (List.range size).all fun i =>
            s.fold (s.units.getD (a + i) 0).toNat == s.fold (s.units.getD (start + i) 0).toNat then
          k { p with position := if forward then start + size else start }
        else none
    | .repeat body least most greedy first last =>
      let cleared : Progress :=
        { p with
          caught := (List.range' first (last + 1 - first)).foldl
            (fun c i => c.set! (i - 1) none) p.caught }
      let again (_ : Unit) : Option Progress :=
        run s fuel body forward cleared fun q =>
          if least = 0 && q.position == p.position then none
          else
            run s fuel (.repeat body (least - 1) (most.map (· - 1)) greedy first last) forward q k
      if 0 < least then again ()
      else if most == some 0 then k p
      else if greedy then
        match again () with
        | some q => some q
        | none => k p
      else
        match k p with
        | some q => some q
        | none => again ()
    | .lineStart =>
      if p.position = 0 ||
          (s.flags.multiline && isLineEndCode (s.units.getD (p.position - 1) 0).toNat) then k p
      else none
    | .lineEnd =>
      if p.position = s.units.size ||
          (s.flags.multiline && isLineEndCode (s.units.getD p.position 0).toNat) then k p
      else none
    | .boundary inverted => if s.isBoundary p.position != inverted then k p else none
    | .look ahead inverted body =>
      match run s fuel body ahead p some with
      | some q => if inverted then none else k { p with caught := q.caught }
      | none => if inverted then k p else none

/-- A match that starts at the given place: its end and what the groups caught. -/
def Pattern.matchAt? (pattern : Pattern) (t : Text) (start : Nat) : Option Progress :=
  let s : Subject := ⟨t.units, pattern.flags⟩
  run s 1000000 pattern.root true ⟨start, Array.replicate pattern.groups none⟩ some

def Pattern.search? (pattern : Pattern) (t : Text) (start : Nat) : Option (Nat × Progress) :=
  if pattern.flags.sticky then (pattern.matchAt? t start).map fun p => (start, p)
  else
    (List.range' start (t.length + 1 - start)).findSome? fun i =>
      (pattern.matchAt? t i).map fun p => (i, p)

end Embedding.Guest.Regex
