import Embedding.Guest.Syntax.Stream

namespace Embedding.Guest.Syntax

inductive FunctionForm
  | declaration
  | blockDeclaration
  | expression
  | arrow
  | member
deriving DecidableEq

structure FunctionRequest where
  form : FunctionForm
  kind : FunctionKind := .normal
  isAsync : Bool := false
  isGenerator : Bool := false
  start : Nat
  nameless : Bool := false

structure StatementMask where
  functions : Bool
  labeledFunctions : Bool
  declarations : Bool

namespace StatementMask

def all : StatementMask := ⟨true, true, true⟩

def none : StatementMask := ⟨false, false, false⟩

end StatementMask

inductive PowerRule
  | allowed
  | forbidden
  | ignored
deriving DecidableEq

structure PatternRequest where
  /-- How the names are declared; targets of an assignment otherwise. -/
  declares : Option DeclarationKind
  isParameter : Bool := false
  hasValue : Bool := true
  allowInitializer : Bool := true

inductive Goal : Type → Type where
  | expression (acceptIn : Bool) : Goal Expr
  | assignment (acceptIn : Bool) : Goal Expr
  | unary (power : PowerRule) : Goal Expr
  | operand (calls : Bool) : Goal Expr
  | function (request : FunctionRequest) : Goal Expr
  | classOf (isExpression nameless : Bool) : Goal Expr
  | pattern (request : PatternRequest) : Goal Expr
  | statement (mask : StatementMask) : Goal Stmt
  | element : Goal (Option Stmt)

abbrev Reading := (α : Type) → Goal α → Parse α

namespace Reading

variable (r : Reading)

def expression (acceptIn : Bool) : Parse Expr := r _ (.expression acceptIn)

def assignment (acceptIn : Bool) : Parse Expr := r _ (.assignment acceptIn)

def unary (power : PowerRule) : Parse Expr := r _ (.unary power)

def operand (calls : Bool) : Parse Expr := r _ (.operand calls)

def function (request : FunctionRequest) : Parse Expr := r _ (.function request)

def pattern (request : PatternRequest) : Parse Expr := r _ (.pattern request)

def statement (mask : StatementMask) : Parse Stmt := r _ (.statement mask)

end Reading

/-- Repeats a step until it is done; the fuel is the length of the source. -/
def repeatUpTo : Nat → (β → Parse (β ⊕ γ)) → β → Parse γ
  | 0, _, _ => fail "unexpected end of source"
  | n + 1, step, b => do
    match ← step b with
    | .inl b => repeatUpTo n step b
    | .inr c => return c

def repeatStep (step : β → Parse (β ⊕ γ)) (b : β) : Parse γ := do
  let s ← get
  repeatUpTo (s.source.size - s.position + 2) step b

/-- Gives an expression a name if it makes a function or class that has none. -/
def nameExpr (name : String) : Expr → Expr
  | .function info params functions body =>
    if info.name.isEmpty then .function { info with name := name } params functions body
    else .function info params functions body
  | .classOf info superclass construct elements =>
    if info.label.isEmpty then .classOf { info with label := name } superclass construct elements
    else .classOf info superclass construct elements
  | e => e

end Embedding.Guest.Syntax
