import Embedding.Guest.Bridge.Evaluate
import Embedding.Proofs.Runs

namespace Embedding

/-- A source has its first NUL byte at an offset. -/
def FirstNul (source : String) (offset : Nat) : Prop :=
  source.toUTF8.toList[offset]? = some 0 ∧ ∀ i < offset, source.toUTF8.toList[i]? ≠ some 0

theorem findIdx?_eq_some_iff_firstNul {source : String} {offset : Nat} :
    source.toUTF8.toList.findIdx? (· == 0) = some offset ↔ FirstNul source offset := by
  rw [List.findIdx?_eq_some_iff_getElem]
  constructor
  · rintro ⟨hlt, hzero, hbefore⟩
    refine ⟨by rw [List.getElem?_eq_getElem hlt, beq_iff_eq.mp hzero], fun i hi hi' => ?_⟩
    rw [List.getElem?_eq_getElem (Nat.lt_trans hi hlt)] at hi'
    exact hbefore i hi (beq_iff_eq.mpr (Option.some.inj hi'))
  · rintro ⟨hzero, hbefore⟩
    obtain ⟨hlt, hget⟩ := List.getElem?_eq_some_iff.mp hzero
    refine ⟨hlt, beq_iff_eq.mpr hget, fun i hi hi' => hbefore i hi ?_⟩
    rw [List.getElem?_eq_getElem (Nat.lt_trans hi hlt), beq_iff_eq.mp hi']

theorem exists_firstNul {source : String} (h : 0 ∈ source.toUTF8.toList) : ∃ offset, FirstNul source offset := by
  obtain ⟨offset, hoffset⟩ : ∃ offset, source.toUTF8.toList.findIdx? (· == 0) = some offset := by
    rw [← Option.isSome_iff_exists, List.findIdx?_isSome, List.any_eq_true]
    exact ⟨0, h, rfl⟩
  exact ⟨offset, findIdx?_eq_some_iff_firstNul.mp hoffset⟩

namespace Guest

namespace SourceKind

theorem ofSource_of_firstNul {source : String} {offset : Nat} (h : FirstNul source offset) :
    ofSource source = .error (.invalidSource offset) := by
  rw [ofSource, findIdx?_eq_some_iff_firstNul.mpr h]

theorem ofSource_of_noNul {source : String} (h : 0 ∉ source.toUTF8.toList) : ofSource source = .ok (detect source) := by
  have hnone : source.toUTF8.toList.findIdx? (· == 0) = none := by
    rw [Option.eq_none_iff_forall_ne_some]
    exact fun offset hoffset => h (List.mem_of_getElem? (findIdx?_eq_some_iff_firstNul.mp hoffset).1)
  rw [ofSource, hnone]

end SourceKind

namespace Act

variable {e : Engine} {m : Machine} {kind : SourceKind} {source : String}

theorem run_prepare_of_ok {p : Program} (hparse : Program.parse kind source = .ok p) (hrequests : p.requests = []) :
    prepare kind source e m = .done p m := by
  have hread : readProgram kind source {} e m = .done p m := by
    rw [readProgram, hparse]
    rfl
  have hresolve : resolveRequests p e m = .done () m := by
    rw [resolveRequests, hrequests]
    rfl
  rw [prepare, run_bind_of_done hread, run_bind_of_done hresolve]
  rfl

theorem raiseSyntax_bind {α β : Type} (message : String) (line : Option Nat) (f : α → Act β) :
    (raiseSyntax message line : Act α) >>= f = raiseSyntax message line := by
  unfold raiseSyntax
  simp only [bind_assoc]
  cases line with
  | none => rfl
  | some n => rfl

theorem prepare_of_error {fault : Syntax.Fault} (hparse : Program.parse kind source = .error fault) :
    prepare kind source = raiseSyntax fault.message fault.line := by
  rw [prepare, readProgram, hparse]
  exact raiseSyntax_bind _ _ _

end Act

/-- The machine when a program of the host has got its number. -/
def Machine.counted (m : Machine) : Machine := { m with programs := m.programs + 1 }

namespace Run

theorem orElse_andThen {α β : Type} (x : Run α) (f : Value → Machine → Run α) (g : α → β) :
    (x.orElse f).andThen (fun a m => .done (g a) m) =
      (x.andThen fun a m => .done (g a) m).orElse fun v m => (f v m).andThen fun a m => .done (g a) m := by
  induction x with
  | done a m => rfl
  | threw v m => rfl
  | stopped why m => rfl
  | ask q m resume ih => exact congrArg (Run.ask q m) (funext ih)
  | call begun args m resume ih => exact congrArg (Run.call begun args m) (funext ih)

end Run

namespace Bridge

variable {e : Engine} {m : Machine} {source : String}

/-- The exception of a source that cannot be read. Telling what it says may run guest code. -/
def syntaxException (fault : Syntax.Fault) : Act Exception :=
  tryCatch (Act.raiseSyntax fault.message fault.line) exceptionOf

theorem check_raiseSyntax {α : Type} (fault : Syntax.Fault) :
    (check (Act.raiseSyntax fault.message fault.line : Act α)).run e m =
      (syntaxException fault e m).andThen fun x m => .done (.error (.eval x)) m := by
  have hcatch : (check (Act.raiseSyntax fault.message fault.line : Act α)).run =
      tryCatch (Act.raiseSyntax fault.message fault.line) fun v => do return .error (.eval (← exceptionOf v)) := by
    show tryCatch ((Act.raiseSyntax _ _ : Act α) >>= _) _ = _
    rw [Act.raiseSyntax_bind]
  have hraise (e : Engine) (m : Machine) : ((Act.raiseSyntax fault.message fault.line : Act Exception) e m).andThen
      (fun x m => .done (.error (.eval x) : Except Error α) m) =
      (Act.raiseSyntax fault.message fault.line : Act (Except Error α)) e m :=
    Act.run_congr (Act.raiseSyntax_bind fault.message fault.line fun x =>
      (pure (.error (.eval x)) : Act (Except Error α))) e m
  rw [hcatch, syntaxException]
  show Run.orElse _ _ = (Run.orElse _ _).andThen _
  rw [Run.orElse_andThen, hraise]
  rfl

def checked {α : Type} (e : Engine) (x : Run α) : Run (Except Error α) :=
  (x.andThen fun a m => .done (.ok a) m).orElse fun v m => (exceptionOf v e m).andThen fun x m => .done (.error (.eval x)) m

theorem run_check {α : Type} (y : Act α) : (check y).run e m = checked e (y e m) := rfl

theorem exists_eval_of_gives_check {α : Type} {y : Act α} {log : List Exchange} {m' : Machine} {err : Error}
    (h : ((check y).run e m).Gives log (.error err) m') : ∃ x, err = .eval x := by
  rw [run_check, checked] at h
  rcases Run.gives_of_orElse h with h | ⟨v, m₁, l, h⟩
  · obtain ⟨_, _, _, _, _, _, hreturn⟩ := Run.exists_of_gives_andThen h
    cases (Run.gives_done.mp hreturn).2.1
  · obtain ⟨_, _, x, _, _, _, hreturn⟩ := Run.exists_of_gives_andThen h
    cases (Run.gives_done.mp hreturn).2.1
    exact ⟨x, rfl⟩

section

variable {kind : SourceKind} (hkind : SourceKind.ofSource source = .ok kind)
include hkind

theorem run_beginSource (compileOnly : Bool) : (beginSource source compileOnly).run e m =
    .ask (.report (.evaluating kind source.utf8ByteSize compileOnly)) m fun _ => .done (.ok kind) m := by
  unfold beginSource
  rw [hkind]
  rfl

theorem run_evaluate : (evaluate source).run e m =
    .ask (.report (.evaluating kind source.utf8ByteSize false)) m fun _ =>
      (check do
        let p ← Act.prepare kind source
        Act.runGlobal p (← Act.newProgram)).run e m := by
  unfold evaluate
  rw [run_bind, run_beginSource hkind]
  rfl

theorem run_compile [Bytecode.Format] : (compile source).run e m =
    .ask (.report (.evaluating kind source.utf8ByteSize true)) m fun _ =>
      ((do
        let bytes ← tryCatch (bytesCompiled kind source) fun e => throw (asCompileError e)
        if bytes.isEmpty then throw (.compile { cause := "serialization produced no bytecode", stack := none })
        report (.compiled bytes.length)
        return ⟨bytes⟩ : Bridge Bytecode)).run e m := by
  unfold compile
  rw [run_bind, run_beginSource hkind]
  rfl

end

theorem run_tryCatch {α : Type} (x : Bridge α) (handle : Error → Bridge α) : (tryCatch x handle).run e m =
    (x.run e m).andThen fun r m =>
      match r with
      | .ok a => .done (.ok a) m
      | .error err => (handle err).run e m := by
  show (x.run >>= fun r => (_ : Act (Except Error α))) e m = _
  rw [Act.run_bind]
  congr 1
  funext r m
  cases r <;> rfl

theorem run_of_error [Bytecode.Format] {err : Error} (hkind : SourceKind.ofSource source = .error err) :
    (evaluate source).run e m = .done (.error err) m ∧ (compile source).run e m = .done (.error err) m := by
  have hbegin (compileOnly : Bool) : (beginSource source compileOnly).run e m = .done (.error err) m := by
    unfold beginSource
    rw [hkind]
    rfl
  constructor
  · unfold evaluate
    rw [run_bind, hbegin]
    rfl
  · unfold compile
    rw [run_bind, hbegin]
    rfl

section

variable {kind : SourceKind} (hkind : SourceKind.ofSource source = .ok kind)
include hkind

theorem run_unreadable [Bytecode.Format] {fault : Syntax.Fault} (hparse : Program.parse kind source = .error fault) :
    ((evaluate source).run e m = .ask (.report (.evaluating kind source.utf8ByteSize false)) m fun _ =>
      (syntaxException fault e m).andThen fun x m => .done (.error (.eval x)) m) ∧
    (compile source).run e m = .ask (.report (.evaluating kind source.utf8ByteSize true)) m fun _ =>
      (syntaxException fault e m).andThen fun x m => .done (.error (.compile x)) m := by
  constructor
  · rw [run_evaluate hkind, Act.prepare_of_error hparse, Act.raiseSyntax_bind, check_raiseSyntax]
  · rw [run_compile hkind, bytesCompiled, Act.prepare_of_error hparse]
    congr 1
    funext _
    rw [run_bind, run_tryCatch, run_bind, check_raiseSyntax, Run.andThen_assoc, Run.andThen_assoc, Run.andThen_assoc]
    rfl

variable {p : Program} (hparse : Program.parse kind source = .ok p) (hrequests : p.requests = [])
include hparse hrequests

theorem run_compile_of_ok [Bytecode.Format] {bytes : List UInt8} (hwrite : Bytecode.Format.write p = .ok bytes)
    (hbytes : bytes ≠ []) : (compile source).run e m =
    .ask (.report (.evaluating kind source.utf8ByteSize true)) m fun _ =>
      .ask (.report (.compiled bytes.length)) m fun _ => .done (.ok ⟨bytes⟩) m := by
  have hcheck : (check (Act.prepare kind source)).run e m = .done (.ok p) m := by
    apply Act.run_tryCatch_of_done
    rw [Act.run_bind_of_done (Act.run_prepare_of_ok hparse hrequests)]
    rfl
  have hcompiled : (bytesCompiled kind source).run e m = .done (.ok bytes) m := by
    rw [bytesCompiled, run_bind, hcheck]
    simp only [Run.andThen, hwrite]
    rfl
  rw [run_compile hkind]
  congr 1
  funext _
  rw [run_bind, run_tryCatch, hcompiled]
  simp only [Run.andThen, List.isEmpty_eq_false_iff.mpr hbytes]
  rfl

/-- A source that has been read goes on in the same way, run directly or by way of what it is compiled to. Only the
texts of its functions are forgotten in between. -/
theorem run_evaluate_of_ok : (evaluate source).run e m =
    .ask (.report (.evaluating kind source.utf8ByteSize false)) m fun _ =>
      (check (Act.runGlobal p (m.programs + 1))).run e m.counted := by
  rw [run_evaluate hkind]
  congr 1
  funext _
  rw [run_check, Act.run_bind_of_done (Act.run_prepare_of_ok hparse hrequests)]
  rfl

end

theorem run_evaluateBinary_of_ok [Bytecode.Format] {p : Program} {b : Bytecode}
    (hread : Bytecode.Format.read b.bytes = .ok p) (hrequests : p.requests = []) : (evaluateBinary b).run e m =
    .ask (.forgetTexts (m.programs + 1)) m.counted fun _ =>
      (check (Act.runGlobal p (m.programs + 1))).run e m.counted := by
  have hresolve : Act.resolveRequests p e m = .done () m := by
    rw [Act.resolveRequests, hrequests]
    rfl
  unfold evaluateBinary
  simp only [hread]
  rw [run_check, Act.run_bind_of_done hresolve]
  rfl

end Bridge

end Guest

end Embedding
