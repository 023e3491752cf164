import Embedding.Guest.Syntax.Tree

namespace Embedding.Bytecode

abbrev Reader := StateT (List UInt8) Option

class Serial (α : Type) where
  write : α → List UInt8
  read : Reader α

export Serial (write read)

variable {α β : Type}

def choose (readers : List (Reader α)) : Reader α := fun bytes =>
  match bytes with
  | [] => none
  | tag :: rest => (readers[tag.toNat]?).bind fun r => r rest

def readMany (r : Reader α) : Nat → Reader (List α)
  | 0 => pure []
  | n + 1 => List.cons <$> r <*> readMany r n

/-- Seven bits to a byte, the lowest first; all bytes but the last have the eighth. -/
def writeNat (n : Nat) : List UInt8 :=
  if n < 128 then [UInt8.ofNat n] else UInt8.ofNat (n % 128 + 128) :: writeNat (n / 128)

def readNat : Reader Nat
  | [] => none
  | b :: rest =>
    if b.toNat < 128 then some (b.toNat, rest)
    else (readNat rest).map fun (n, rest) => (b.toNat - 128 + 128 * n, rest)

instance : Serial Nat := ⟨writeNat, readNat⟩

@[reducible]
def Serial.through [Serial β] (into : α → β) (of : β → α) : Serial α := ⟨fun a => write (into a), of <$> read⟩

@[reducible]
def Serial.among [BEq α] (all : List α) : Serial α := ⟨fun a => [UInt8.ofNat (all.idxOf a)], choose (all.map pure)⟩

def readRow (r : Reader α) : Reader (List α) := readNat >>= readMany r

instance [Serial α] : Serial (List α) := ⟨fun xs => writeNat xs.length ++ xs.flatMap write, readRow read⟩

instance [Serial α] : Serial (Option α) where
  write
    | none => [0]
    | some a => 1 :: write a
  read := choose [pure none, some <$> read]

instance : Serial Bool := .among [false, true]
instance : Serial Int := .through (fun | .ofNat n => 2 * n | .negSucc n => 2 * n + 1)
  fun n => if n % 2 = 0 then .ofNat (n / 2) else .negSucc (n / 2)
instance : Serial Char := .through Char.toNat Char.ofNat
instance : Serial String := .through String.toList String.ofList
instance : Serial UInt16 := .through UInt16.toNat UInt16.ofNat
instance : Serial Text := .through (fun t => t.units.toList) fun units => ⟨units.toArray⟩
instance : Serial Double := .through (fun d => d.bits.toNat) fun n => ⟨UInt64.ofNat n⟩
instance : Serial Int32 := .through Int32.toInt Int32.ofInt

open Guest

instance : Serial UnaryOp := .among [.negate, .plus, .not, .bitNot, .void]
instance : Serial BinaryOp := .among [.add, .sub, .mul, .div, .rem, .pow, .shiftLeft, .shiftRight, .shiftRightUnsigned, .lt,
  .le, .gt, .ge, .eq, .ne, .strictEq, .strictNe, .bitAnd, .bitOr, .bitXor, .contained, .instanceOf]
instance : Serial LogicalOp := .among [.and, .or, .coalesce]
instance : Serial DeclarationKind := .among [.var, .lexical, .constant]
instance : Serial FunctionKind :=
  .among [.normal, .arrow, .method, .getter, .setter, .baseConstructor, .derivedConstructor, .initializer]
instance : Serial MemberKind := .among [.field, .method, .getter, .setter, .proto]
instance : Serial SourceKind := .among [.script, .module]

instance : Serial Literal where
  write
    | .undefined => [0]
    | .null => [1]
    | .bool b => 2 :: write b
    | .int n => 3 :: write n
    | .float d => 4 :: write d
    | .bigint n => 5 :: write n
    | .text t => 6 :: write t
  read := choose [pure .undefined, pure .null, .bool <$> read, .int <$> read, .float <$> read, .bigint <$> read,
    .text <$> read]

instance : Serial Lexical := ⟨fun l => write l.name ++ write l.constant, Lexical.mk <$> read <*> read⟩

instance : Serial FunctionInfo where
  write i := write i.name ++ write i.kind ++ write i.isAsync ++ write i.isGenerator ++ write i.isStrict ++ write i.simple ++
    write i.length ++ write i.paramNames ++ write i.vars ++ write i.lexicals ++ write i.concise ++ write i.selfNamed ++
    write i.mentioned ++ write i.usesEval ++ write i.source ++ write i.line
  read := FunctionInfo.mk <$> read <*> read <*> read <*> read <*> read <*> read <*> read <*> read <*> read <*> read <*>
    read <*> read <*> read <*> read <*> read <*> read

instance : Serial ClassInfo where
  write i := write i.name ++ write i.label ++ write i.hidden ++ write i.mentioned ++ write i.source ++ write i.line
  read := ClassInfo.mk <$> read <*> read <*> read <*> read <*> read <*> read

mutual

def writeExpr : Expr → List UInt8
  | .hole => [0]
  | .literal value => 1 :: write value
  | .tagged tag cooked raw args line =>
    2 :: (writeExpr tag ++ write cooked ++ write raw ++ (writeNat args.length ++ writeExprs args) ++ write line)
  | .regexp source flags line => 3 :: (write source ++ write flags ++ write line)
  | .name id line => 4 :: (write id ++ write line)
  | .this line => 5 :: write line
  | .newTarget => [6]
  | .importMeta => [7]
  | .array items line => 8 :: ((writeNat items.length ++ writeExprs items) ++ write line)
  | .object members line => 9 :: ((writeNat members.length ++ writeExprs members) ++ write line)
  | .spread operand => 10 :: writeExpr operand
  | .member isStatic kind key value => 11 :: (write isStatic ++ write kind ++ writeExpr key ++ writeExpr value)
  | .hidden name => 12 :: write name
  | .withDefault pattern value => 13 :: (writeExpr pattern ++ writeExpr value)
  | .function info params functions body =>
    14 :: (write info ++ (writeNat params.length ++ writeExprs params) ++
      (writeNat functions.length ++ writeExprs functions) ++ (writeNat body.length ++ writeStmts body))
  | .classOf info superclass construct elements =>
    15 :: (write info ++ writeExpr superclass ++ writeExpr construct ++ (writeNat elements.length ++ writeExprs elements))
  | .unary op operand line => 16 :: (write op ++ writeExpr operand ++ write line)
  | .typeOf operand line => 17 :: (writeExpr operand ++ write line)
  | .delete operand line => 18 :: (writeExpr operand ++ write line)
  | .update increment before target line => 19 :: (write increment ++ write before ++ writeExpr target ++ write line)
  | .binary op left right line => 20 :: (write op ++ writeExpr left ++ writeExpr right ++ write line)
  | .logical op left right => 21 :: (write op ++ writeExpr left ++ writeExpr right)
  | .conditional test yes no => 22 :: (writeExpr test ++ writeExpr yes ++ writeExpr no)
  | .assign target value line => 23 :: (writeExpr target ++ writeExpr value ++ write line)
  | .compound op target value line => 24 :: (write op ++ writeExpr target ++ writeExpr value ++ write line)
  | .logicalAssign op target value line => 25 :: (write op ++ writeExpr target ++ writeExpr value ++ write line)
  | .destructure pattern value line => 26 :: (writeExpr pattern ++ writeExpr value ++ write line)
  | .sequence left right => 27 :: (writeExpr left ++ writeExpr right)
  | .property object name line => 28 :: (writeExpr object ++ write name ++ write line)
  | .index object key line => 29 :: (writeExpr object ++ writeExpr key ++ write line)
  | .hiddenProperty object name line => 30 :: (writeExpr object ++ write name ++ write line)
  | .superProperty key line => 31 :: (writeExpr key ++ write line)
  | .superCall args line => 32 :: ((writeNat args.length ++ writeExprs args) ++ write line)
  | .call callee args line => 33 :: (writeExpr callee ++ (writeNat args.length ++ writeExprs args) ++ write line)
  | .new callee args line => 34 :: (writeExpr callee ++ (writeNat args.length ++ writeExprs args) ++ write line)
  | .optional operand => 35 :: writeExpr operand
  | .chain body => 36 :: writeExpr body
  | .yield value delegate line => 37 :: (writeExpr value ++ write delegate ++ write line)
  | .await value line => 38 :: (writeExpr value ++ write line)
  | .importCall specifier line => 39 :: (writeExpr specifier ++ write line)
  | .hiddenIn name object line => 40 :: (write name ++ writeExpr object ++ write line)

def writeExprs : List Expr → List UInt8
  | [] => []
  | e :: es => writeExpr e ++ writeExprs es

def writeStmt : Stmt → List UInt8
  | .empty => [0]
  | .expression e => 1 :: writeExpr e
  | .declaration kind items => 2 :: (write kind ++ (writeNat items.length ++ writeExprs items))
  | .functionDeclaration name assignsVar => 3 :: (write name ++ write assignsVar)
  | .classDeclaration name value => 4 :: (write name ++ writeExpr value)
  | .return value line => 5 :: (writeExpr value ++ write line)
  | .if test yes no => 6 :: (writeExpr test ++ writeStmt yes ++ writeStmt no)
  | .while test body => 7 :: (writeExpr test ++ writeStmt body)
  | .doWhile body test => 8 :: (writeStmt body ++ writeExpr test)
  | .for lexicals init test update body =>
    9 :: (write lexicals ++ writeStmt init ++ writeExpr test ++ writeExpr update ++ writeStmt body)
  | .forIn lexicals kind target object body line =>
    10 :: (write lexicals ++ write kind ++ writeExpr target ++ writeExpr object ++ writeStmt body ++ write line)
  | .forOf lexicals kind target iterable body isAwait line =>
    11 :: (write lexicals ++ write kind ++ writeExpr target ++ writeExpr iterable ++ writeStmt body ++ write isAwait ++
      write line)
  | .break label => 12 :: write label
  | .continue label => 13 :: write label
  | .throw value line => 14 :: (writeExpr value ++ write line)
  | .try body hasHandler param handler hasFinalizer finalizer =>
    15 :: (writeStmt body ++ write hasHandler ++ writeExpr param ++ writeStmt handler ++ write hasFinalizer ++
      writeStmt finalizer)
  | .switch subject lexicals functions cases =>
    16 :: (writeExpr subject ++ write lexicals ++ (writeNat functions.length ++ writeExprs functions) ++
      (writeNat cases.length ++ writeStmts cases))
  | .case test body => 17 :: (writeExpr test ++ (writeNat body.length ++ writeStmts body))
  | .labeled label body => 18 :: (write label ++ writeStmt body)
  | .block lexicals functions body =>
    19 :: (write lexicals ++ (writeNat functions.length ++ writeExprs functions) ++ (writeNat body.length ++ writeStmts body))
  | .with object body line => 20 :: (writeExpr object ++ writeStmt body ++ write line)
  | .exportDefault value => 21 :: writeExpr value

def writeStmts : List Stmt → List UInt8
  | [] => []
  | s :: ss => writeStmt s ++ writeStmts ss

end

/-- What has which tag among expressions, with what reads the nodes inside. -/
def exprReaders (expr : Reader Expr) (stmt : Reader Stmt) : List (Reader Expr) :=
  [pure .hole,
    .literal <$> read,
    .tagged <$> expr <*> read <*> read <*> readRow expr <*> read,
    .regexp <$> read <*> read <*> read,
    .name <$> read <*> read,
    .this <$> read,
    pure .newTarget,
    pure .importMeta,
    .array <$> readRow expr <*> read,
    .object <$> readRow expr <*> read,
    .spread <$> expr,
    .member <$> read <*> read <*> expr <*> expr,
    .hidden <$> read,
    .withDefault <$> expr <*> expr,
    .function <$> read <*> readRow expr <*> readRow expr <*> readRow stmt,
    .classOf <$> read <*> expr <*> expr <*> readRow expr,
    .unary <$> read <*> expr <*> read,
    .typeOf <$> expr <*> read,
    .delete <$> expr <*> read,
    .update <$> read <*> read <*> expr <*> read,
    .binary <$> read <*> expr <*> expr <*> read,
    .logical <$> read <*> expr <*> expr,
    .conditional <$> expr <*> expr <*> expr,
    .assign <$> expr <*> expr <*> read,
    .compound <$> read <*> expr <*> expr <*> read,
    .logicalAssign <$> read <*> expr <*> expr <*> read,
    .destructure <$> expr <*> expr <*> read,
    .sequence <$> expr <*> expr,
    .property <$> expr <*> read <*> read,
    .index <$> expr <*> expr <*> read,
    .hiddenProperty <$> expr <*> read <*> read,
    .superProperty <$> expr <*> read,
    .superCall <$> readRow expr <*> read,
    .call <$> expr <*> readRow expr <*> read,
    .new <$> expr <*> readRow expr <*> read,
    .optional <$> expr,
    .chain <$> expr,
    .yield <$> expr <*> read <*> read,
    .await <$> expr <*> read,
    .importCall <$> expr <*> read,
    .hiddenIn <$> read <*> expr <*> read]

def stmtReaders (expr : Reader Expr) (stmt : Reader Stmt) : List (Reader Stmt) :=
  [pure .empty,
    .expression <$> expr,
    .declaration <$> read <*> readRow expr,
    .functionDeclaration <$> read <*> read,
    .classDeclaration <$> read <*> expr,
    .return <$> expr <*> read,
    .if <$> expr <*> stmt <*> stmt,
    .while <$> expr <*> stmt,
    .doWhile <$> stmt <*> expr,
    .for <$> read <*> stmt <*> expr <*> expr <*> stmt,
    .forIn <$> read <*> read <*> expr <*> expr <*> stmt <*> read,
    .forOf <$> read <*> read <*> expr <*> expr <*> stmt <*> read <*> read,
    .break <$> read,
    .continue <$> read,
    .throw <$> expr <*> read,
    .try <$> stmt <*> read <*> expr <*> stmt <*> read <*> stmt,
    .switch <$> expr <*> read <*> readRow expr <*> readRow stmt,
    .case <$> expr <*> readRow stmt,
    .labeled <$> read <*> stmt,
    .block <$> read <*> readRow expr <*> readRow stmt,
    .with <$> expr <*> stmt <*> read,
    .exportDefault <$> expr]

mutual

def readExpr : Nat → Reader Expr
  | 0, _ => none
  | n + 1, bytes => choose (exprReaders (readExpr n) (readStmt n)) bytes

def readStmt : Nat → Reader Stmt
  | 0, _ => none
  | n + 1, bytes => choose (stmtReaders (readExpr n) (readStmt n)) bytes

end

def writeProgram (p : Program) : List UInt8 :=
  write p.kind ++ write p.isStrict ++ write p.vars ++ write p.lexicals ++
    (writeNat p.functions.length ++ writeExprs p.functions) ++ (writeNat p.body.length ++ writeStmts p.body) ++
    write p.requests ++ write p.mentioned ++ write p.usesEval

def whole? : Option (α × List UInt8) → Option α
  | some (a, []) => some a
  | _ => none

def readProgram? (bytes : List UInt8) : Option Program :=
  let (expr, stmt) := (readExpr bytes.length, readStmt bytes.length)
  let reader := Program.mk <$> read <*> read <*> read <*> read <*> readRow expr <*> readRow stmt <*> read <*> read <*> read
  whole? (reader bytes)

end Embedding.Bytecode
