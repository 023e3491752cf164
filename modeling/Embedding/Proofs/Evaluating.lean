import Embedding.Proofs.Rebinding
import Embedding.Proofs.Serial
import Embedding.Proofs.Sources

namespace Embedding.Guest

def Program.assigning (name : String) (value : Expr) (mentioned : List String) : Program where
  kind := .script
  isStrict := false
  vars := []
  lexicals := []
  functions := []
  body := [.expression (.assign (.name name 1) value 1)]
  requests := []
  mentioned
  usesEval := false

theorem modify_push_size {α : Type} (xs : Array α) (x : α) (f : α → α) :
    (xs.push x).modify xs.size f = xs.push (f x) := by
  apply Array.ext_getElem?
  intro i
  by_cases hi : xs.size = i
  · rw [← hi, Array.getElem?_modify, if_pos rfl, Array.getElem?_push_size, Array.getElem?_push_size]
    rfl
  · simp [Array.getElem?_modify, Array.getElem?_push, hi, Ne.symm hi]

theorem Program.parse_of_written {kind : SourceKind} {source : String} {p : Program}
    (h : (parse kind source).toOption.map Bytecode.writeProgram = some (Bytecode.writeProgram p)) :
    parse kind source = .ok p := by
  cases hparse : parse kind source with
  | error fault =>
    rw [hparse] at h
    cases h
  | ok q =>
    rw [hparse] at h
    have hwritten := congrArg Bytecode.readProgram? (Option.some.inj h)
    rw [Bytecode.readProgram?_writeProgram, Bytecode.readProgram?_writeProgram] at hwritten
    rw [Option.some.inj hwritten]

def Machine.inScript (m : Machine) : Machine :=
  { m with
    frames := ⟨none, false, 1⟩ :: m.frames
    depth := m.depth + 1
    cells := m.cells.push (some .undefined)
    roots := .scope [.cell "" m.cells.size .mutable] :: m.roots }

def Env.ofScript (m : Machine) (program : Nat) : Env where
  scope := []
  isStrict := false
  program
  result := some m.cells.size

namespace Act

variable {e : Engine} {m : Machine}

theorem run_holdingScope (s : Scope) (x : Act α) : holdingScope s x e m =
    (x e { m with roots := .scope s :: m.roots }).leaving fun m' => { m' with roots := m.roots } := rfl

theorem run_inGuestFrame_of_done {o : Option ObjectId} {line : Nat} {x : Act α} {a : α} {m' : Machine}
    (hdepth : m.depth < m.depthLimit)
    (h : x e { m with frames := ⟨o, false, line⟩ :: m.frames, depth := m.depth + 1 } = .done a m') :
    inGuestFrame o line x e m = .done a { m' with frames := m.frames, depth := m.depth } := by
  unfold inGuestFrame
  rw [run_bind_of_done run_machine, if_neg (Nat.not_le_of_lt hdepth)]
  show inFrame _ _ e m = _
  rw [run_inFrame, run_tryCatch_of_done h]
  rfl

theorem run_runScript_of_done {p : Program} {program : Nat} {s : Stmt} {v : Value} {m' : Machine}
    (hstrict : p.isStrict = false) (hvars : p.vars = []) (hlexicals : p.lexicals = []) (hfunctions : p.functions = [])
    (hbody : p.body = [s]) (hdepth : m.depth < m.depthLimit)
    (hexec : exec (.ofScript m program) s e m.inScript = .done .normal m') (hv : m'.cells[m.cells.size]? = some (some v)) :
    runScript p program false e m = .done v { m' with roots := m.roots, frames := m.frames, depth := m.depth } := by
  let m₁ : Machine := { m with frames := ⟨none, false, 1⟩ :: m.frames, depth := m.depth + 1 }
  have hdeclare : declareGlobals p program false e m₁ = .done () m₁ := by
    unfold declareGlobals
    rw [hvars, hlexicals, hfunctions]
    rfl
  have hcell : cell m.cells.size e m' = .done (some v) m' := by
    show Run.done (m'.cells.getD m.cells.size none) m' = _
    rw [Array.getD_eq_getD_getElem?, hv]
    rfl
  have hbody' : (execAll (.ofScript m program) [s] >>= fun _ => do return (← cell m.cells.size).getD .undefined) e m.inScript =
      .done v m' := by
    have hall : execAll (.ofScript m program) [s] e m.inScript = .done .normal m' := by
      rw [execAll, run_bind_of_done hexec]
      rfl
    rw [run_bind_of_done hall, run_bind_of_done hcell]
    rfl
  have hrun : (declareGlobals p program false >>= fun _ =>
      runStatements { scope := [], isStrict := p.isStrict, program } p.body) e m₁ = .done v { m' with roots := m.roots } := by
    rw [run_bind_of_done hdeclare, hbody, hstrict]
    show (holdingScope _ _) e _ = _
    exact (run_holdingScope _ _).trans (congrArg (Run.leaving · _) hbody')
  exact run_inGuestFrame_of_done hdepth hrun

end Act

def Machine.inFrames (m : Machine) (frames : List Frame) : Machine := { m with frames }

/-- The machine when a script has assigned a value to a name of the global object. The script's own value is kept in a
variable of its own. -/
def Machine.assigned (m : Machine) (x : Object) (name : String) (v : Value) : Machine :=
  { m.filled Intrinsic.globalObject (x.putProperty name (.method v)) with cells := m.cells.push (some v) }

structure Machine.Offers (m : Machine) (name : String) (x : Object) (old : Value) : Prop where
  lexicals : m.lexicals = []
  object : m.objects[Intrinsic.globalObject]? = some x
  isGlobal : x.IsGlobal
  isName : Key.ofString name ∈ Intrinsic.names
  property : x.property? name = some (.method old)

namespace Machine.Offers

variable {m : Machine} {name : String} {x : Object} {old v : Value} {n : Nat} (h : m.Offers name x old)
include h

theorem reads : x.Reads name (some (.method old)) := h.property ▸ h.isGlobal.reads h.isName

theorem of_same {a : Machine} (hobjects : a.objects = m.objects) (hlexicals : a.lexicals = m.lexicals) :
    a.Offers name x old :=
  ⟨hlexicals.trans h.lexicals, hobjects ▸ h.object, h.isGlobal, h.isName, h.property⟩

theorem run_globalLexical (e : Engine) : Act.globalLexical? name e m = .done none m := by
  show Run.done (m.lexicals.find? _) m = _
  rw [h.lexicals]
  rfl

theorem has_eq : (Engine.ofLevel (n + 1)).has Intrinsic.globalObject name m = .done true m := by
  show Act.hasRule Intrinsic.globalObject name (Engine.ofLevel n) m = _
  rw [Act.hasRule, Act.run_unlessProxy h.object h.reads.notProxy, Act.plainHas,
    Act.run_bind_of_done (Act.run_object h.object), Act.run_bind_of_done (h.reads.own _ _ m)]
  rfl

theorem run_readGlobal : Act.readGlobal name true (Engine.ofLevel (n + 1)) m = .done old m := by
  have hhas : Act.has Intrinsic.globalObject name (Engine.ofLevel (n + 1)) m = .done true m := h.has_eq
  unfold Act.readGlobal
  rw [Act.run_bind_of_done (h.run_globalLexical _)]
  show (Act.has Intrinsic.globalObject name >>= _) _ m = _
  rw [Act.run_bind_of_done hhas]
  exact Act.get_own h.object h.reads

theorem run_writeGlobal : Act.writeGlobal false name v (Engine.ofLevel (n + 1)) m =
    .done () (m.filled Intrinsic.globalObject (x.putProperty name (.method v))) := by
  have hhas : Act.has Intrinsic.globalObject name (Engine.ofLevel (n + 1)) m = .done true m := h.has_eq
  have hset : Act.setOn Intrinsic.globalObject name v (.object Intrinsic.globalObject) (Engine.ofLevel (n + 1)) m =
      .done none (m.filled Intrinsic.globalObject (x.putProperty name (.method v))) :=
    h.isGlobal.set_eq h.isName h.object h.property n
  unfold Act.writeGlobal
  rw [Act.run_bind_of_done (h.run_globalLexical _)]
  show (Act.has Intrinsic.globalObject name >>= _) _ m = _
  rw [Act.run_bind_of_done hhas]
  show (Act.setOn Intrinsic.globalObject name v (.object Intrinsic.globalObject) >>= _) _ m = _
  rw [Act.run_bind_of_done hset]
  rfl

theorem run_evalAssign {env : Env} {value : Expr} {line line' : Nat} {frames : List Frame}
    (hscope : env.scope = []) (hstrict : env.isStrict = false)
    (hvalue : Act.eval env value (Engine.ofLevel (n + 1)) m = .done v (m.inFrames frames)) :
    Act.evalAssign env (.name name line) value line' (Engine.ofLevel (n + 1)) m =
      .done v ((m.filled Intrinsic.globalObject (x.putProperty name (.method v))).inFrames
        (frames.modifyHead fun f => { f with line := line' })) := by
  have hhas : Act.has Intrinsic.globalObject name (Engine.ofLevel (n + 1)) m = .done true m := h.has_eq
  have hwrite (fs : List Frame) : Act.holding [v] (Act.writeGlobal false name v) (Engine.ofLevel (n + 1)) (m.inFrames fs) =
      .done () ((m.filled Intrinsic.globalObject (x.putProperty name (.method v))).inFrames fs) := by
    rw [Act.run_holding, (h.of_same (a := (m.inFrames fs).rooted [v]) rfl rfl).run_writeGlobal]
    rfl
  unfold Act.evalAssign
  simp only [hscope, hstrict]
  rw [Act.run_bind_of_done (show Act.place name [] _ m = .done .global m from rfl),
    Act.run_bind_of_done (h.run_globalLexical _)]
  show (Act.has Intrinsic.globalObject name >>= _) _ m = _
  rw [Act.run_bind_of_done hhas]
  show (Act.eval env value >>= _) _ m = _
  rw [Act.run_bind_of_done hvalue]
  show (Act.holding [v] (Act.writeGlobal false name v) >>= _) _ (m.inFrames _) = _
  rw [Act.run_bind_of_done (hwrite _)]
  rfl

theorem exists_eval_property {env : Env} {o : ObjectId} {y : Object} {k : Text} {writable enumerable configurable : Bool}
    (line line' : Nat) (hold : old = .object o) (hy : m.objects[o]? = some y)
    (hreads : y.Reads (.text k) (some ⟨.data v writable, enumerable, configurable⟩)) (hscope : env.scope = []) :
    ∃ frames, Act.eval env (.property (.name name line) k line') (Engine.ofLevel (n + 3)) m =
      .done v (m.inFrames frames) := by
  subst hold
  obtain ⟨fs, hfs⟩ : ∃ fs, fs = m.frames.modifyHead fun f => { f with line } := ⟨_, rfl⟩
  have hread : Act.readPlace name true .global (Engine.ofLevel (n + 1)) (m.inFrames fs) = .done (.object o) (m.inFrames fs) :=
    (h.of_same (a := m.inFrames fs) rfl rfl).run_readGlobal
  have hlink : Act.link env (.name name line) (Engine.ofLevel (n + 2)) m =
      .done (some (.object o, .undefined)) (m.inFrames fs) := by
    show Act.evalLink env (.name name line) (Engine.ofLevel (n + 1)) m = _
    unfold Act.evalLink
    simp only [hscope]
    rw [Act.run_bind_of_done (show Act.atLine line _ m = .done () (m.inFrames fs) from hfs ▸ rfl),
      Act.run_bind_of_done (show Act.place name [] _ (m.inFrames fs) = .done .global (m.inFrames fs) from rfl)]
    simp only
    rw [Act.run_bind_of_done hread]
    rfl
  obtain ⟨gs, hgs⟩ : ∃ gs, gs = fs.modifyHead fun f => { f with line := line' } := ⟨_, rfl⟩
  have hget : Act.holding [.object o] (Act.get (.object o) (.text k)) (Engine.ofLevel (n + 2)) (m.inFrames gs) =
      .done v (m.inFrames gs) := by
    have hown : Act.get (.object o) (.text k) (Engine.ofLevel (n + 2)) ((m.inFrames gs).rooted [.object o]) =
        .done v ((m.inFrames gs).rooted [.object o]) := Act.get_own hy hreads
    rw [Act.run_holding, hown]
    rfl
  refine ⟨gs, ?_⟩
  show Act.evalExpr env (.property (.name name line) k line') (Engine.ofLevel (n + 2)) m = _
  have hproperty : Act.evalLink env (.property (.name name line) k line') (Engine.ofLevel (n + 2)) m =
      .done (some (v, .object o)) (m.inFrames gs) := by
    simp only [Act.evalLink]
    rw [Act.run_bind_of_done hlink]
    simp only
    rw [Act.run_bind_of_done (show Act.atLine line' _ (m.inFrames fs) = .done () (m.inFrames gs) from hgs ▸ rfl),
      Act.run_bind_of_done hget]
    rfl
  simp only [Act.evalExpr]
  rw [Act.run_bind_of_done hproperty]
  rfl

theorem exec_eq {env : Env} {value : Expr} {c : CellId} {frames : List Frame} (hscope : env.scope = [])
    (hstrict : env.isStrict = false) (hresult : env.result = some c)
    (hvalue : Act.eval env value (Engine.ofLevel (n + 1)) m = .done v (m.inFrames frames)) :
    (Engine.ofLevel (n + 3)).exec env (.expression (.assign (.name name 1) value 1)) m =
      .done .normal { (m.filled Intrinsic.globalObject (x.putProperty name (.method v))).inFrames
          (frames.modifyHead fun f => { f with line := 1 }) with cells := m.cells.modify c fun _ => some v } := by
  have heval : Act.eval env (.assign (.name name 1) value 1) (Engine.ofLevel (n + 2)) m =
      .done v ((m.filled Intrinsic.globalObject (x.putProperty name (.method v))).inFrames
        (frames.modifyHead fun f => { f with line := 1 })) :=
    h.run_evalAssign hscope hstrict hvalue
  show Act.execStmt env (.expression (.assign (.name name 1) value 1)) (Engine.ofLevel (n + 2)) m = _
  simp only [Act.execStmt]
  rw [Act.run_bind_of_done heval, Act.keepResult, hresult]
  rfl

theorem run_runGlobal (value : Expr) (mentioned : List String) (program : Nat) (hdepth : m.depth < m.depthLimit)
    (hvalue : ∀ (env : Env) (m' : Machine), m'.objects = m.objects → m'.lexicals = m.lexicals → env.scope = [] →
      ∃ frames, Act.eval env value (Engine.ofLevel (n + 1)) m' = .done v (m'.inFrames frames)) :
    Act.runGlobal (.assigning name value mentioned) program (Engine.ofLevel (n + 3)) m = .done v (m.assigned x name v) := by
  have hbegun : m.inScript.Offers name x old := h.of_same rfl rfl
  obtain ⟨frames, heval⟩ := hvalue (.ofScript m program) m.inScript rfl rfl rfl
  have hcells : (m.inScript.cells.modify m.cells.size fun _ => some v) = m.cells.push (some v) := modify_push_size ..
  have hexec := hbegun.exec_eq (c := m.cells.size) rfl rfl rfl heval
  rw [hcells] at hexec
  exact Act.run_runScript_of_done rfl rfl rfl rfl rfl hdepth hexec Array.getElem?_push_size

theorem rebinding_assigned (lo : ObjectId) (v : Value) :
    Relation.ReflTransGen (Rebinding lo) m (m.assigned x name v) := by
  have hassign : m.Rebinding lo (m.filled Intrinsic.globalObject (x.putProperty name (.method v))) :=
    .assign h.isName h.object h.property (h.isGlobal.set_eq h.isName h.object h.property 0)
  exact .tail (.single hassign) (.other rfl)

end Machine.Offers

theorem Bridge.run_evaluate_of_done {source : String} {kind : SourceKind} {p : Program} {e : Engine} {v : Value} {m m' : Machine}
    (hkind : SourceKind.ofSource source = .ok kind) (hparse : Program.parse kind source = .ok p) (hrequests : p.requests = [])
    (hrun : Act.runGlobal p (m.programs + 1) e m.counted = .done v m') : (evaluate source).run e m =
      .ask (.report (.evaluating kind source.utf8ByteSize false)) m fun _ => .done (.ok v) m' := by
  rw [run_evaluate_of_ok hkind hparse hrequests, run_check_of_done hrun]

/-- A source is run to its end without a function of the host, and the machine becomes another one. -/
def Bridge.Leads (source : String) (m m' : Machine) : Prop :=
  ∃ note v, (evaluate source).run Engine.standard m = .ask (.report note) m fun _ => .done (.ok v) m'

theorem Machine.Regular.offers {m : Machine} {k : Kind} {c : ObjectId} (h : m.Regular) (hlexicals : m.lexicals = [])
    (hglobal : m.objects[Intrinsic.globalObject]? = some (Realm.builtin Intrinsic.globalObject))
    (hk : k ∈ Kind.builtins) (hc : Intrinsic.ofKind? k = some c) :
    m.Offers k.constructorName (Realm.builtin Intrinsic.globalObject) (.object c) := by
  obtain ⟨x, hx, hisGlobal⟩ := h.global
  obtain ⟨c', hc', hproperty⟩ := property?_globalObject hk
  cases hc.symm.trans hc'
  cases hx.symm.trans hglobal
  exact ⟨hlexicals, hx, hisGlobal, List.mem_append_left _ (List.mem_map_of_mem hk), hproperty⟩

end Embedding.Guest
