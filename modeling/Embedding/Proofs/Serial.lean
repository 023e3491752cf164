import Embedding.Bytecode

namespace Embedding.Bytecode

open Guest

variable {α β : Type} {r : Reader α} {bytes bytes' : List UInt8} {a : α} {f : α → β}

/-- A reader takes a value off its bytes, whatever is behind them. -/
def Reads (r : Reader α) (bytes : List UInt8) (a : α) : Prop := ∀ rest, r (bytes ++ rest) = some (a, rest)

theorem toNat_ofNat_of_lt {n : Nat} (h : n < 256) : (UInt8.ofNat n).toNat = n := UInt8.toNat_ofNat_of_lt' h

namespace Reads

theorem nothing (a : α) : Reads (pure a) [] a := fun _ => rfl

theorem map (f : α → β) (h : Reads r bytes a) : Reads (f <$> r) bytes (f a) := by
  intro rest
  show (r (bytes ++ rest)).bind _ = _
  rw [h rest]
  rfl

theorem ap {r : Reader (α → β)} {r' : Reader α} (h : Reads r bytes f) (h' : Reads r' bytes' a) :
    Reads (r <*> r') (bytes ++ bytes') (f a) := by
  intro rest
  show (r (bytes ++ bytes' ++ rest)).bind (fun p => (r' p.2).bind _) = _
  rw [List.append_assoc, h, Option.bind_some, h' rest]
  rfl

theorem bind {r' : α → Reader β} {b : β} (h : Reads r bytes a) (h' : Reads (r' a) bytes' b) :
    Reads (r >>= r') (bytes ++ bytes') b := by
  intro rest
  show (r (bytes ++ bytes' ++ rest)).bind (fun p => r' p.1 p.2) = _
  rw [List.append_assoc, h, Option.bind_some, h' rest]

theorem choose {readers : List (Reader α)} {tag : UInt8} (hr : readers[tag.toNat]? = some r) (h : Reads r bytes a) :
    Reads (choose readers) (tag :: bytes) a := by
  intro rest
  show (readers[tag.toNat]?).bind _ = _
  rw [hr]
  exact h rest

theorem nat (n : Nat) : Reads readNat (writeNat n) n := by
  intro rest
  induction n using Nat.strongRecOn with
  | ind n ih =>
    rw [writeNat]
    split
    · next hlt =>
      have hbyte : (UInt8.ofNat n).toNat = n := toNat_ofNat_of_lt (by omega)
      rw [List.singleton_append, readNat, hbyte, if_pos hlt]
    · next hge =>
      have hbyte : (UInt8.ofNat (n % 128 + 128)).toNat = n % 128 + 128 := toNat_ofNat_of_lt (by omega)
      rw [List.cons_append, readNat, hbyte, if_neg (by omega), ih (n / 128) (by omega), Option.map_some,
        Nat.add_sub_cancel]
      exact congrArg (fun k => some (k, rest)) (Nat.mod_add_div n 128)

theorem many {write : α → List UInt8} {xs : List α} (h : ∀ x ∈ xs, Reads r (write x) x) :
    Reads (readMany r xs.length) (xs.flatMap write) xs := by
  induction xs with
  | nil => exact nothing []
  | cons x xs ih => exact ((h x List.mem_cons_self).map _).ap (ih fun y hy => h y (List.mem_cons_of_mem x hy))

theorem row {write : α → List UInt8} {xs : List α} (h : ∀ x ∈ xs, Reads r (write x) x) :
    Reads (readRow r) (writeNat xs.length ++ xs.flatMap write) xs :=
  (nat xs.length).bind (many h)

end Reads

class LawfulSerial (α : Type) [Serial α] : Prop where
  reads : ∀ a : α, Reads read (write a) a

export LawfulSerial (reads)

theorem LawfulSerial.through [Serial β] [LawfulSerial β] {into : α → β} {of : β → α} (h : ∀ a, of (into a) = a) :
    @LawfulSerial α (.through into of) :=
  @LawfulSerial.mk α (.through into of) fun a => by
    have hreads := (reads (into a)).map of
    rwa [h] at hreads

theorem LawfulSerial.among [DecidableEq α] {all : List α} (hall : ∀ a, a ∈ all) (hlength : all.length ≤ 256) :
    @LawfulSerial α (.among all) :=
  @LawfulSerial.mk α (.among all) fun a => by
    have hlt := List.idxOf_lt_length_of_mem (hall a)
    have htag : (UInt8.ofNat (all.idxOf a)).toNat = all.idxOf a := toNat_ofNat_of_lt (by omega)
    refine Reads.choose (r := pure a) ?_ (.nothing a)
    rw [htag, List.getElem?_map, List.getElem?_eq_getElem hlt, List.getElem_idxOf hlt]
    rfl

instance : LawfulSerial Nat := ⟨Reads.nat⟩

instance [Serial α] [LawfulSerial α] : LawfulSerial (List α) := ⟨fun _ => .row fun x _ => reads x⟩

instance [Serial α] [LawfulSerial α] : LawfulSerial (Option α) where
  reads
    | none => .choose rfl (.nothing none)
    | some a => .choose rfl ((reads a).map some)

instance : LawfulSerial Bool := .among (by decide) (by decide)

instance : LawfulSerial Int := .through fun n => by
  cases n with
  | ofNat n => simp
  | negSucc n => simp; omega

instance : LawfulSerial Char := .through Char.ofNat_toNat
instance : LawfulSerial String := .through fun _ => String.ofList_toList
instance : LawfulSerial UInt16 := .through fun _ => UInt16.ofNat_toNat
instance : LawfulSerial Text := .through fun _ => rfl
instance : LawfulSerial Double := .through fun d => by rw [UInt64.ofNat_toNat]
instance : LawfulSerial Int32 := .through Int32.ofInt_toInt

instance : LawfulSerial UnaryOp := .among (by intro op; cases op <;> decide) (by decide)
instance : LawfulSerial BinaryOp := .among (by intro op; cases op <;> decide) (by decide)
instance : LawfulSerial LogicalOp := .among (by intro op; cases op <;> decide) (by decide)
instance : LawfulSerial DeclarationKind := .among (by intro kind; cases kind <;> decide) (by decide)
instance : LawfulSerial FunctionKind := .among (by intro kind; cases kind <;> decide) (by decide)
instance : LawfulSerial MemberKind := .among (by intro kind; cases kind <;> decide) (by decide)
instance : LawfulSerial SourceKind := .among (by intro kind; cases kind <;> decide) (by decide)

instance : LawfulSerial Literal where
  reads
    | .undefined => .choose rfl (.nothing _)
    | .null => .choose rfl (.nothing _)
    | .bool b => .choose rfl ((reads b).map _)
    | .int n => .choose rfl ((reads n).map _)
    | .float d => .choose rfl ((reads d).map _)
    | .bigint n => .choose rfl ((reads n).map _)
    | .text t => .choose rfl ((reads t).map _)

instance : LawfulSerial Lexical := ⟨fun l => ((reads l.name).map Lexical.mk).ap (reads l.constant)⟩

instance : LawfulSerial FunctionInfo where
  reads i :=
    ((reads i.name).map FunctionInfo.mk).ap (reads i.kind) |>.ap (reads i.isAsync) |>.ap (reads i.isGenerator)
      |>.ap (reads i.isStrict) |>.ap (reads i.simple) |>.ap (reads i.length) |>.ap (reads i.paramNames)
      |>.ap (reads i.vars) |>.ap (reads i.lexicals) |>.ap (reads i.concise) |>.ap (reads i.selfNamed)
      |>.ap (reads i.mentioned) |>.ap (reads i.usesEval) |>.ap (reads i.source) |>.ap (reads i.line)

instance : LawfulSerial ClassInfo where
  reads i :=
    ((reads i.name).map ClassInfo.mk).ap (reads i.label) |>.ap (reads i.hidden) |>.ap (reads i.mentioned)
      |>.ap (reads i.source) |>.ap (reads i.line)

theorem writeExprs_eq (es : List Expr) : writeExprs es = es.flatMap writeExpr := by
  induction es with
  | nil => rfl
  | cons e es ih => rw [writeExprs, ih, List.flatMap_cons]

theorem writeStmts_eq (ss : List Stmt) : writeStmts ss = ss.flatMap writeStmt := by
  induction ss with
  | nil => rfl
  | cons s ss ih => rw [writeStmts, ih, List.flatMap_cons]

theorem length_le_flatMap {write : α → List UInt8} {x : α} {xs : List α} (h : x ∈ xs) :
    (write x).length ≤ (xs.flatMap write).length := by
  obtain ⟨l, l', rfl⟩ := List.append_of_mem h
  simp only [List.flatMap_append, List.flatMap_cons, List.length_append]
  omega

section

variable {n : Nat}

theorem reads_exprs (h : ∀ e, (writeExpr e).length ≤ n → Reads (readExpr n) (writeExpr e) e) {es : List Expr}
    (hes : (writeExprs es).length ≤ n) : Reads (readRow (readExpr n)) (writeNat es.length ++ writeExprs es) es := by
  rw [writeExprs_eq] at hes ⊢
  exact .row fun e he => h e (Nat.le_trans (length_le_flatMap he) hes)

theorem reads_stmts (h : ∀ s, (writeStmt s).length ≤ n → Reads (readStmt n) (writeStmt s) s) {ss : List Stmt}
    (hss : (writeStmts ss).length ≤ n) : Reads (readRow (readStmt n)) (writeNat ss.length ++ writeStmts ss) ss := by
  rw [writeStmts_eq] at hss ⊢
  exact .row fun s hs => h s (Nat.le_trans (length_le_flatMap hs) hss)

variable (hexpr : ∀ e, (writeExpr e).length ≤ n → Reads (readExpr n) (writeExpr e) e)
  (hstmt : ∀ s, (writeStmt s).length ≤ n → Reads (readStmt n) (writeStmt s) s)
include hexpr hstmt

theorem reads_expr_succ (e : Expr) (h : (writeExpr e).length ≤ n + 1) : Reads (readExpr (n + 1)) (writeExpr e) e := by
  show Reads (choose (exprReaders (readExpr n) (readStmt n))) _ _
  cases e <;> simp only [writeExpr, List.length_cons, List.length_append] at h ⊢
  case hole | newTarget | importMeta => exact .choose rfl (.nothing _)
  case literal value => exact .choose rfl ((reads value).map _)
  case this line => exact .choose rfl ((reads line).map _)
  case hidden name => exact .choose rfl ((reads name).map _)
  case name id line => exact .choose rfl (((reads id).map _).ap (reads line))
  case regexp source flags line => exact .choose rfl (((reads source).map _).ap (reads flags) |>.ap (reads line))
  case tagged tag cooked raw args line =>
    exact .choose rfl (((hexpr tag (by omega)).map _).ap (reads cooked) |>.ap (reads raw)
      |>.ap (reads_exprs hexpr (by omega)) |>.ap (reads line))
  case array items line | object items line | superCall items line =>
    exact .choose rfl (((reads_exprs hexpr (by omega)).map _).ap (reads line))
  case spread e | optional e | chain e => exact .choose rfl ((hexpr e (by omega)).map _)
  case member isStatic kind key value =>
    exact .choose rfl (((reads isStatic).map _).ap (reads kind) |>.ap (hexpr key (by omega)) |>.ap (hexpr value (by omega)))
  case withDefault e e' | sequence e e' => exact .choose rfl (((hexpr e (by omega)).map _).ap (hexpr e' (by omega)))
  case function info params functions body =>
    exact .choose rfl (((reads info).map _).ap (reads_exprs hexpr (by omega)) |>.ap (reads_exprs hexpr (by omega))
      |>.ap (reads_stmts hstmt (by omega)))
  case classOf info superclass construct elements =>
    exact .choose rfl (((reads info).map _).ap (hexpr superclass (by omega)) |>.ap (hexpr construct (by omega))
      |>.ap (reads_exprs hexpr (by omega)))
  case unary op operand line => exact .choose rfl (((reads op).map _).ap (hexpr operand (by omega)) |>.ap (reads line))
  case typeOf e line | delete e line | superProperty e line | await e line | importCall e line =>
    exact .choose rfl (((hexpr e (by omega)).map _).ap (reads line))
  case update increment before target line =>
    exact .choose rfl (((reads increment).map _).ap (reads before) |>.ap (hexpr target (by omega)) |>.ap (reads line))
  case binary op left right line | compound op left right line | logicalAssign op left right line =>
    exact .choose rfl (((reads op).map _).ap (hexpr left (by omega)) |>.ap (hexpr right (by omega)) |>.ap (reads line))
  case logical op left right => exact .choose rfl (((reads op).map _).ap (hexpr left (by omega)) |>.ap (hexpr right (by omega)))
  case conditional test yes no =>
    exact .choose rfl (((hexpr test (by omega)).map _).ap (hexpr yes (by omega)) |>.ap (hexpr no (by omega)))
  case assign e e' line | destructure e e' line | index e e' line =>
    exact .choose rfl (((hexpr e (by omega)).map _).ap (hexpr e' (by omega)) |>.ap (reads line))
  case property object name line | hiddenProperty object name line =>
    exact .choose rfl (((hexpr object (by omega)).map _).ap (reads name) |>.ap (reads line))
  case call callee args line | new callee args line =>
    exact .choose rfl (((hexpr callee (by omega)).map _).ap (reads_exprs hexpr (by omega)) |>.ap (reads line))
  case yield value delegate line =>
    exact .choose rfl (((hexpr value (by omega)).map _).ap (reads delegate) |>.ap (reads line))
  case hiddenIn name object line =>
    exact .choose rfl (((reads name).map _).ap (hexpr object (by omega)) |>.ap (reads line))

theorem reads_stmt_succ (s : Stmt) (h : (writeStmt s).length ≤ n + 1) : Reads (readStmt (n + 1)) (writeStmt s) s := by
  show Reads (choose (stmtReaders (readExpr n) (readStmt n))) _ _
  cases s <;> simp only [writeStmt, List.length_cons, List.length_append] at h ⊢
  case empty => exact .choose rfl (.nothing _)
  case expression e | exportDefault e => exact .choose rfl ((hexpr e (by omega)).map _)
  case declaration kind items => exact .choose rfl (((reads kind).map _).ap (reads_exprs hexpr (by omega)))
  case functionDeclaration name assignsVar => exact .choose rfl (((reads name).map _).ap (reads assignsVar))
  case classDeclaration name value => exact .choose rfl (((reads name).map _).ap (hexpr value (by omega)))
  case «return» value line | throw value line => exact .choose rfl (((hexpr value (by omega)).map _).ap (reads line))
  case «if» test yes no =>
    exact .choose rfl (((hexpr test (by omega)).map _).ap (hstmt yes (by omega)) |>.ap (hstmt no (by omega)))
  case «while» test body => exact .choose rfl (((hexpr test (by omega)).map _).ap (hstmt body (by omega)))
  case doWhile body test => exact .choose rfl (((hstmt body (by omega)).map _).ap (hexpr test (by omega)))
  case «for» lexicals init test update body =>
    exact .choose rfl (((reads lexicals).map _).ap (hstmt init (by omega)) |>.ap (hexpr test (by omega))
      |>.ap (hexpr update (by omega)) |>.ap (hstmt body (by omega)))
  case forIn lexicals kind target object body line =>
    exact .choose rfl (((reads lexicals).map _).ap (reads kind) |>.ap (hexpr target (by omega)) |>.ap (hexpr object (by omega))
      |>.ap (hstmt body (by omega)) |>.ap (reads line))
  case forOf lexicals kind target iterable body isAwait line =>
    exact .choose rfl (((reads lexicals).map _).ap (reads kind) |>.ap (hexpr target (by omega))
      |>.ap (hexpr iterable (by omega)) |>.ap (hstmt body (by omega)) |>.ap (reads isAwait) |>.ap (reads line))
  case «break» label | «continue» label => exact .choose rfl ((reads label).map _)
  case «try» body hasHandler param handler hasFinalizer finalizer =>
    exact .choose rfl (((hstmt body (by omega)).map _).ap (reads hasHandler) |>.ap (hexpr param (by omega))
      |>.ap (hstmt handler (by omega)) |>.ap (reads hasFinalizer) |>.ap (hstmt finalizer (by omega)))
  case switch subject lexicals functions cases =>
    exact .choose rfl (((hexpr subject (by omega)).map _).ap (reads lexicals) |>.ap (reads_exprs hexpr (by omega))
      |>.ap (reads_stmts hstmt (by omega)))
  case case test body => exact .choose rfl (((hexpr test (by omega)).map _).ap (reads_stmts hstmt (by omega)))
  case labeled label body => exact .choose rfl (((reads label).map _).ap (hstmt body (by omega)))
  case block lexicals functions body =>
    exact .choose rfl (((reads lexicals).map _).ap (reads_exprs hexpr (by omega)) |>.ap (reads_stmts hstmt (by omega)))
  case «with» object body line =>
    exact .choose rfl (((hexpr object (by omega)).map _).ap (hstmt body (by omega)) |>.ap (reads line))

end

theorem reads_node (n : Nat) : (∀ e, (writeExpr e).length ≤ n → Reads (readExpr n) (writeExpr e) e) ∧
    ∀ s, (writeStmt s).length ≤ n → Reads (readStmt n) (writeStmt s) s := by
  induction n with
  | zero =>
    constructor
    · intro e h
      cases e <;> simp [writeExpr] at h
    · intro s h
      cases s <;> simp [writeStmt] at h
  | succ n ih => exact ⟨reads_expr_succ ih.1 ih.2, reads_stmt_succ ih.1 ih.2⟩

theorem readProgram?_writeProgram (p : Program) : readProgram? (writeProgram p) = some p := by
  obtain ⟨hexpr, hstmt⟩ := reads_node (writeProgram p).length
  have hfunctions : (writeExprs p.functions).length ≤ (writeProgram p).length := by
    simp only [writeProgram, List.length_append]
    omega
  have hbody : (writeStmts p.body).length ≤ (writeProgram p).length := by
    simp only [writeProgram, List.length_append]
    omega
  have hreads := ((reads p.kind).map Program.mk).ap (reads p.isStrict) |>.ap (reads p.vars) |>.ap (reads p.lexicals)
    |>.ap (reads_exprs hexpr hfunctions) |>.ap (reads_stmts hstmt hbody) |>.ap (reads p.requests)
    |>.ap (reads p.mentioned) |>.ap (reads p.usesEval)
  have hread := hreads []
  rw [List.append_nil] at hread
  unfold readProgram?
  exact congrArg whole? hread

instance : Format.Faithful where
  exists_write p := ⟨_, rfl, by
    show (if (version != version) = true then _ else _) = _
    rw [bne_self_eq_false, if_neg Bool.false_ne_true, readProgram?_writeProgram]⟩
  read_nil _ := nofun

end Embedding.Bytecode
