import Embedding.Guest.Builtin.Object

namespace Embedding.Guest

structure Occurrence where
  matched : Text
  position : Nat
  subject : Text
  groups : List Value := []
  named : Value := .undefined

namespace Act

def isDigitUnit (u : UInt16) : Bool := isAsciiDigit u.toNat

/-- The group that the one or two digits from `i` on name, and the place behind them. -/
def groupReference? (template : Text) (i count : Nat) : Option (Nat × Nat) := do
  let u ← template.unit? i
  if !isDigitUnit u then none
  let n := u.toNat - 48
  let two := match template.unit? (i + 1) with
    | some v => if isDigitUnit v && n * 10 + (v.toNat - 48) ≤ count && 0 < n * 10 + (v.toNat - 48) then
        some (n * 10 + (v.toNat - 48)) else none
    | none => none
  match two with
  | some m => some (m, i + 2)
  | none => if 0 < n && n ≤ count then some (n, i + 1) else none

def textUnlessUndefined (v : Value) : Act Text := if v.isUndefined then return Text.empty else toText v

def substitute (x : Occurrence) (template : Text) : Act Text := do
  let count := x.groups.length
  repeating (fun (s : Nat × Text) => do
    let (i, out) := s
    match template.indexOf? ⟨#[36]⟩ i with
    | none => return .inr (out ++ template.slice i template.length)
    | some d =>
      let out := out ++ template.slice i d
      let literally : Nat × Text := (d + 1, out ++ ⟨#[36]⟩)
      match template.unit? (d + 1) with
      | some 36 => return .inl (d + 2, out ++ ⟨#[36]⟩)
      | some 38 => return .inl (d + 2, out ++ x.matched)
      | some 96 => return .inl (d + 2, out ++ x.subject.slice 0 x.position)
      | some 39 =>
        return .inl (d + 2, out ++ x.subject.slice (x.position + x.matched.length) x.subject.length)
      | some 60 =>
        if x.named.isUndefined then return .inl literally
        match template.indexOf? ⟨#[62]⟩ (d + 1) with
        | none => return .inl literally
        | some e =>
          let v ← get x.named (.text (template.slice (d + 2) e))
          return .inl (e + 1, out ++ (← textUnlessUndefined v))
      | _ =>
        match groupReference? template (d + 1) count with
        | some (n, next) => return .inl (next, out ++ (← textUnlessUndefined (arg x.groups (n - 1))))
        | none => return .inl literally) (0, Text.empty)

/-- What a match is replaced by: the result of a function, or a template. -/
def replacement (x : Occurrence) (replacer : Value) (template : Option Text) : Act Text := do
  match template with
  | some t => substitute x t
  | none =>
    let named := if x.named.isUndefined then [] else [x.named]
    toText (← call replacer .undefined ([Value.text x.matched] ++ x.groups ++ [Value.ofNat x.position, .text x.subject] ++ named))

def templateOf (replacer : Value) : Act (Option Text) := do
  if ← isCallable replacer then return none else return some (← toText replacer)

end Act

end Embedding.Guest
