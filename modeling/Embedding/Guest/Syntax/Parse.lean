import Embedding.Guest.Syntax.Detect
import Embedding.Guest.Syntax.Statement

namespace Embedding.Guest

namespace Syntax

def readGoal (r : Reading) : {α : Type} → Goal α → Parse α
  | _, .expression acceptIn => sequenceExpr r acceptIn
  | _, .assignment acceptIn => assignmentExpr r acceptIn
  | _, .unary power => unary r power
  | _, .operand calls => operand r calls
  | _, .function q => functionExpr r q
  | _, .classOf isExpression nameless => classExpr r isExpression nameless
  | _, .pattern q => patternExpr r q
  | _, .statement mask => statement r mask
  | _, .element => element r

def reading : Nat → Reading
  | 0 => fun _ _ => fail "stack overflow"
  | n + 1 => fun _ g => readGoal (reading n) g

def depthLimit (size : Nat) : Nat := min (16 * (size + 4)) 12000

/-- What surrounds a program that is read: for direct evaluation, what the function around it
allows. -/
structure ProgramContext where
  isStrict : Bool := false
  superProperty : Bool := false
  newTarget : Bool := false
  arguments : Bool := true

def program (kind : SourceKind) : Parse Program := do
  let s ← get
  let r := reading (depthLimit s.source.size)
  next
  directives
  let step (body : List Stmt) : Parse (List Stmt ⊕ List Stmt) := do
    match ← token with
    | .eof => return .inr body
    | _ =>
      match ← element r with
      | some st => return .inl (st :: body)
      | none => return .inl body
  let body ← repeatStep step []
  let s ← get
  match s.wanted with
  | name :: _ => failWithoutPlace ("undefined private field '#" ++ name ++ "'")
  | [] => pure ()
  let f := s.function
  let top := f.blocks.head?.getD {}
  return {
    kind, isStrict := f.isStrict, vars := f.vars, lexicals := top.lexicals, functions := top.functions
    body := body.reverse, requests := s.requests, mentioned := f.mentioned
    usesEval := f.mentioned.contains "eval" }

end Syntax

namespace Program

open Syntax

def parse (kind : SourceKind) (source : String) (context : ProgramContext := {}) :
    Except Fault Program :=
  let chars : Source := source.toList.toArray
  let isModule := kind == .module
  let frame : FunctionFrame :=
    { isProgram := true, isStrict := isModule || context.isStrict, superProperty := context.superProperty
      newTarget := context.newTarget, arguments := context.arguments }
  let state : State :=
    { source := chars, position := skipInterpreterLine chars, isModule, function := frame }
  match (Syntax.program kind).run state with
  | .ok p _ => .ok p
  | .error e _ => .error e

end Program

end Embedding.Guest
