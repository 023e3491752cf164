import Embedding.Double.Basic
import Embedding.Text.Units

namespace Embedding.Guest

inductive Literal where
  | undefined
  | null
  | bool (b : Bool)
  | int (n : Int32)
  | float (d : Double)
  | bigint (n : Int)
  | text (t : Text)
deriving Inhabited

inductive UnaryOp
  | negate
  | plus
  | not
  | bitNot
  | void
deriving DecidableEq

inductive BinaryOp
  | add
  | sub
  | mul
  | div
  | rem
  | pow
  | shiftLeft
  | shiftRight
  | shiftRightUnsigned
  | lt
  | le
  | gt
  | ge
  | eq
  | ne
  | strictEq
  | strictNe
  | bitAnd
  | bitOr
  | bitXor
  | contained
  | instanceOf
deriving DecidableEq

inductive LogicalOp
  | and
  | or
  | coalesce
deriving DecidableEq

inductive DeclarationKind
  | var
  | lexical
  | constant
deriving DecidableEq, Inhabited

inductive FunctionKind
  | normal
  | arrow
  | method
  | getter
  | setter
  | baseConstructor
  | derivedConstructor
  | initializer
deriving DecidableEq, Inhabited

/-- What a member of an object literal or of a class defines. -/
inductive MemberKind
  | field
  | method
  | getter
  | setter
  | proto
deriving DecidableEq

/-- A name that a block declares, and whether it is constant. -/
structure Lexical where
  name : String
  constant : Bool
deriving Inhabited

/-- What is known of a function beside its parameters and its body. -/
structure FunctionInfo where
  name : String
  kind : FunctionKind
  isAsync : Bool
  isGenerator : Bool
  isStrict : Bool
  simple : Bool
  length : Nat
  paramNames : List String
  vars : List String
  lexicals : List Lexical
  concise : Bool
  selfNamed : Bool
  mentioned : List String
  usesEval : Bool
  source : String
  line : Nat
deriving Inhabited

structure ClassInfo where
  name : Option String
  label : String
  hidden : List String
  mentioned : List String
  source : String
  line : Nat
deriving Inhabited

mutual

inductive Expr where
  | hole
  | literal (value : Literal)
  | tagged (tag : Expr) (cooked : List (Option Text)) (raw : List Text) (args : List Expr) (line : Nat)
  | regexp (source flags : Text) (line : Nat)
  | name (id : String) (line : Nat)
  | this (line : Nat)
  | newTarget
  | importMeta
  | array (items : List Expr) (line : Nat)
  | object (members : List Expr) (line : Nat)
  | spread (operand : Expr)
  /-- A member of an object literal, an object pattern or a class. -/
  | member (isStatic : Bool) (kind : MemberKind) (key value : Expr)
  | hidden (name : String)
  | withDefault (pattern value : Expr)
  | function (info : FunctionInfo) (params functions : List Expr) (body : List Stmt)
  | classOf (info : ClassInfo) (superclass construct : Expr) (elements : List Expr)
  | unary (op : UnaryOp) (operand : Expr) (line : Nat)
  | typeOf (operand : Expr) (line : Nat)
  | delete (operand : Expr) (line : Nat)
  | update (increment before : Bool) (target : Expr) (line : Nat)
  | binary (op : BinaryOp) (left right : Expr) (line : Nat)
  | logical (op : LogicalOp) (left right : Expr)
  | conditional (test yes no : Expr)
  | assign (target value : Expr) (line : Nat)
  | compound (op : BinaryOp) (target value : Expr) (line : Nat)
  | logicalAssign (op : LogicalOp) (target value : Expr) (line : Nat)
  | destructure (pattern value : Expr) (line : Nat)
  | sequence (left right : Expr)
  | property (object : Expr) (name : Text) (line : Nat)
  | index (object key : Expr) (line : Nat)
  | hiddenProperty (object : Expr) (name : String) (line : Nat)
  | superProperty (key : Expr) (line : Nat)
  | superCall (args : List Expr) (line : Nat)
  | call (callee : Expr) (args : List Expr) (line : Nat)
  | new (callee : Expr) (args : List Expr) (line : Nat)
  /-- Leaves the enclosing chain with undefined when the operand is null or undefined. -/
  | optional (operand : Expr)
  | chain (body : Expr)
  | yield (value : Expr) (delegate : Bool) (line : Nat)
  | await (value : Expr) (line : Nat)
  | importCall (specifier : Expr) (line : Nat)
  | hiddenIn (name : String) (object : Expr) (line : Nat)

inductive Stmt where
  | empty
  | expression (e : Expr)
  /-- Each item is a pattern, with `withDefault` for its initial value. -/
  | declaration (kind : DeclarationKind) (items : List Expr)
  /-- A function declared in a block, which in sloppy code also sets the variable of its name. -/
  | functionDeclaration (name : String) (assignsVar : Bool)
  | classDeclaration (name : String) (value : Expr)
  | return (value : Expr) (line : Nat)
  | if (test : Expr) (yes no : Stmt)
  | while (test : Expr) (body : Stmt)
  | doWhile (body : Stmt) (test : Expr)
  | for (lexicals : List Lexical) (init : Stmt) (test update : Expr) (body : Stmt)
  | forIn (lexicals : List Lexical) (kind : Option DeclarationKind) (target object : Expr)
      (body : Stmt) (line : Nat)
  | forOf (lexicals : List Lexical) (kind : Option DeclarationKind) (target iterable : Expr)
      (body : Stmt) (isAwait : Bool) (line : Nat)
  | break (label : Option String)
  | continue (label : Option String)
  | throw (value : Expr) (line : Nat)
  /-- The handler is `hole` and `empty` when there is none, and so is the last block. -/
  | try (body : Stmt) (hasHandler : Bool) (param : Expr) (handler : Stmt) (hasFinalizer : Bool)
      (finalizer : Stmt)
  | switch (subject : Expr) (lexicals : List Lexical) (functions : List Expr) (cases : List Stmt)
  | case (test : Expr) (body : List Stmt)
  | labeled (label : String) (body : Stmt)
  | block (lexicals : List Lexical) (functions : List Expr) (body : List Stmt)
  | with (object : Expr) (body : Stmt) (line : Nat)
  | exportDefault (value : Expr)

end

instance : Inhabited Expr := ⟨.hole⟩
instance : Inhabited Stmt := ⟨.empty⟩

structure FunctionNode where
  info : FunctionInfo
  params : List Expr
  functions : List Expr
  body : List Stmt
deriving Inhabited

/-- How a program is read: as a script or as a module. -/
inductive SourceKind
  | script
  | module
deriving DecidableEq, Inhabited

structure Program where
  kind : SourceKind
  isStrict : Bool
  vars : List String
  lexicals : List Lexical
  functions : List Expr
  body : List Stmt
  requests : List String
  mentioned : List String
  usesEval : Bool
deriving Inhabited

end Embedding.Guest
