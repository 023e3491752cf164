import Embedding.Console
import Embedding.Proofs.Compiled
import Embedding.Proofs.Evaluating
import Embedding.Proofs.Exclusive

namespace Embedding

namespace Directory

variable {d d' : Directory} {path : String} {bytes : List UInt8}

theorem walk_of_ok (d' : Directory) {parts : List String} {t : Target} (h : d.walk parts = .ok t) :
    d'.walk parts = .ok t := by
  fun_induction d.walk parts with
  | case1 => exact h
  | case2 rest ih => exact ih h
  | case3 rest ih => exact ih h
  | case4 | case6 => cases h
  | case5 name hempty hdot hparent =>
    rw [walk, if_neg hparent]
    · exact h
    · exact hempty
    · exact hdot

theorem resolve_of_ok (d' : Directory) {t : Target} (h : d.resolve path = .ok t) : d'.resolve path = .ok t := by
  unfold resolve at h ⊢
  split
  · next hroot =>
    rw [if_pos hroot] at h
    cases h
  · next hroot =>
    rw [if_neg hroot] at h
    exact walk_of_ok d' h

theorem read_of_write (h : d.write path bytes = .ok d') : d'.read path = .ok bytes := by
  cases hresolve : d.resolve path with
  | error why =>
    rw [write, hresolve] at h
    cases h
  | ok t =>
    cases t with
    | directory =>
      rw [write, hresolve] at h
      cases h
    | file name =>
      rw [write, hresolve] at h
      obtain rfl : d.put name bytes = d' := Except.ok.inj h
      have hlookup : (d.put name bytes).lookup name = some bytes := List.lookup_cons_self
      rw [read, resolve_of_ok _ hresolve]
      simp only [bind, Except.bind, hlookup]
      rfl

end Directory

namespace Console

open Guest

variable {k k' : Console} {d d' : Directory} {path target : String} {bytes : List UInt8} {source : String} {α : Type}

/-- What becomes of a console and the files of a directory. -/
def carryOut (x : FileWork (StateM Directory) α) (k : Console) (d : Directory) :
    (Except Failure α × Console) × Directory :=
  (x.run.run k).run d

theorem carryOut_bind {β : Type} {x : FileWork (StateM Directory) α} {a : α}
    (h : carryOut x k d = ((.ok a, k'), d')) (f : α → FileWork (StateM Directory) β) :
    carryOut (x >>= f) k d = carryOut (f a) k' d' := by
  have hrun : (x.run.run k).run d = ((.ok a, k'), d') := h
  simp only [carryOut, ExceptT.run_bind, StateT.run_bind, hrun]
  rfl

theorem carryOut_readBytes (hread : d.read path = .ok bytes) :
    carryOut (readBytes Directory.access path) k d = ((.ok bytes, k), d) := by
  have haccess : Directory.access.read path d = (.ok bytes, d) := congrArg (Prod.mk · d) hread
  simp only [carryOut, readBytes, ExceptT.run_mk, StateT.run, bind, StateT.bind, monadLift, liftM, MonadLift.monadLift,
    MonadLiftT.monadLift, StateT.lift]
  rw [haccess]
  rfl

theorem carryOut_readText (hread : d.read path = .ok bytes) (htext : textOfBytes bytes = .ok source) :
    carryOut (readText Directory.access path) k d = ((.ok source, k), d) := by
  rw [readText, carryOut_bind (carryOut_readBytes hread), htext]
  rfl

theorem carryOut_console (x : StateM Console (Except Error α)) :
    carryOut (console x) k d = (((x.run k).1.mapError Failure.error, (x.run k).2), d) := by
  rcases hx : x.run k with ⟨r, k₁⟩
  have hmodify : (modifyGet (fun k => x.run k) : StateT Console (StateM Directory) (Except Error α)) k d =
      ((r, k₁), d) := congrArg (Prod.mk · d) hx
  simp only [carryOut, console, ExceptT.run_mk, StateT.run, bind, StateT.bind] at hmodify ⊢
  rw [hmodify]
  cases r <;> rfl

theorem carryOut_evaluateFile (hread : d.read path = .ok bytes) (htext : textOfBytes bytes = .ok source) :
    carryOut (evaluateFile Directory.access path) k d = carryOut (console (evaluate source)) k d := by
  rw [evaluateFile, carryOut_bind (carryOut_readText hread htext)]

theorem carryOut_executeFile [Bytecode.Format] (hread : d.read path = .ok bytes) :
    carryOut (executeFile Directory.access path) k d = carryOut (console (execute ⟨bytes⟩)) k d := by
  rw [executeFile, carryOut_bind (carryOut_readBytes hread)]

theorem carryOut_compileFile [Bytecode.Format] (hread : d.read path = .ok bytes) (htext : textOfBytes bytes = .ok source) {b : Bytecode}
    (hcompile : (compile source).run k = (.ok b, k')) (hwrite : d.write target b.bytes = .ok d') :
    carryOut (compileFile Directory.access path target) k d = ((.ok b.size, k'), d') := by
  have hconsole : carryOut (console (compile source)) k d = ((.ok b, k'), d) := by
    rw [carryOut_console, hcompile]
    rfl
  have haccess : Directory.access.write target b.bytes d = (.ok (), d') := by
    simp only [Directory.access, bind, StateT.bind, getThe, MonadStateOf.get, StateT.get, get, pure]
    rw [hwrite]
    rfl
  rw [compileFile, carryOut_bind (carryOut_readText hread htext), carryOut_bind hconsole]
  simp only [carryOut, ExceptT.run, StateT.run, bind, ExceptT.bind, ExceptT.mk, StateT.bind, liftM, monadLift,
    MonadLift.monadLift, ExceptT.lift, StateT.lift, Functor.map, StateT.map]
  rw [haccess]
  rfl

theorem run_work (x : ContextId → Attempt String α) : (work x).run k =
    (((x k.context).run handler k.world k.output).1.1,
      { k with
        world := ((x k.context).run handler k.world k.output).1.2
        output := ((x k.context).run handler k.world k.output).2 }) := rfl

theorem blind_handler (R : World → World → Prop) : Handler.Blind handler R :=
  ⟨fun _ _ _ _ _ hw => ⟨rfl, rfl, hw⟩, fun _ _ _ _ hw => ⟨rfl, rfl, hw⟩⟩

end Console

open Guest

section Format

variable [Bytecode.Format]

/-- What running a source directly has to do with running what it is compiled to. -/
structure RunsAsCompiled (source : String) (b : Bytecode) : Prop where
  nonempty : b.isEmpty = false
  /-- To compile the source runs nothing: the context is told what is done, and the machine stays as it is. -/
  compiled : ∀ e m, (Bridge.compile source).run e m =
    .ask (.report (.evaluating (SourceKind.detect source) source.utf8ByteSize true)) m fun _ =>
      .ask (.report (.compiled b.size)) m fun _ => .done (.ok b) m
  /-- To run the source directly and to run what it is compiled to is to do the same, on any machine and with any
  replies. The context is told to forget how the functions were written in the one case, and nothing else makes a
  difference. -/
  run : ∀ e m, ∃ rest,
    ((Bridge.evaluate source).run e m =
      .ask (.report (.evaluating (SourceKind.detect source) source.utf8ByteSize false)) m fun _ => rest) ∧
    ((Bridge.evaluateBinary b).run e m = .ask (.forgetTexts (m.programs + 1)) m.counted fun _ => rest) ∧
    ∀ log err m', rest.Gives log (.error err) m' → ∃ x, err = .eval x
  /-- So all comes out the same in any context that a host can have and one like it, unless the texts of functions are
  asked for: the value or the error, what has happened to the host, and the world. -/
  agree : ∀ {σ : Type} (handler : Handler σ) (p : Position) (c : ContextId) (w' : World) (s : σ), p.Reachable →
    c.index < p.world.contexts.size → p.world.Alike c (p.world.nextProgram c) w' →
    handler.Blind (World.Alike c (p.world.nextProgram c)) → Unobserved handler c source p.world s →
    Agree (World.Alike c (p.world.nextProgram c)) ((c.evaluate source).run handler p.world s)
      ((c.evaluateBinary b).run handler w' s) ∧
    Agree (World.Alike c (p.world.nextProgram c)) ((c.evaluate source >>= fun v => v.toNative).run handler p.world s)
      ((c.evaluateBinary b >>= fun v => v.toNative).run handler w' s)
  /-- In another context with the same guest state it comes out the same, too, as long as it is left as much memory. -/
  elsewhere : ∀ {σ : Type} (handler : Handler σ) (p : Position) (c c' : ContextId) (w' : World) (s : σ), p.Reachable →
    p.world.Mirrors c c' (p.world.nextProgram c) w' → handler.Blind (World.Mirrors c c' (p.world.nextProgram c)) →
    Unobserved handler c source p.world s → (w'.dropPending c').machineFor c' = (p.world.dropPending c).machineFor c →
    Agree (World.Mirrors c c' (p.world.nextProgram c))
      ((ValueRef.movedTo c' <$> c.evaluate source).run handler p.world s) ((c'.evaluateBinary b).run handler w' s) ∧
    ((∀ v v' u u' t, (c.evaluate source).run handler p.world s = ((.ok v, u), t) →
        (c'.evaluateBinary b).run handler w' s = ((.ok v', u'), t) →
        u.Mirrors c c' (p.world.nextProgram c) u' → u'.machineFor c' = u.machineFor c) →
      Agree (World.Mirrors c c' (p.world.nextProgram c))
        ((c.evaluate source >>= fun v => v.toNative).run handler p.world s)
        ((c'.evaluateBinary b >>= fun v => v.toNative).run handler w' s))
  /-- A file that is compiled into another one, which is then run, comes out as it does when it is run itself: the
  result, what is printed, and the world. -/
  files : ∀ (k : Console) (p : Position) (d d' : Directory) (path target : String) (bytes : List UInt8), p.Reachable →
    p.world = k.world → k.context.index < k.world.contexts.size → k.world.contextObstacle? k.context = none →
    d.read path = .ok bytes → textOfBytes bytes = .ok source → d.write target b.bytes = .ok d' →
    Unobserved Console.handler k.context source k.world k.output →
    ∃ k' r kr r' kr',
      Console.carryOut (Console.compileFile Directory.access path target) k d = ((.ok b.size, k'), d') ∧
      Console.carryOut (Console.executeFile Directory.access target) k' d' = ((r', kr'), d') ∧
      Console.carryOut (Console.evaluateFile Directory.access path) k d = ((r, kr), d) ∧
      r' = r ∧ kr'.output = kr.output ∧ kr.world.Alike k.context (k.world.nextProgram k.context) kr'.world

/-- What running a source directly and compiling it come to. -/
structure CompiledAgrees (source : String) : Prop where
  /-- With a NUL byte in it the source is refused, wherever it is, and nothing is done. -/
  nul : 0 ∈ source.toUTF8.toList → ∃ offset, FirstNul source offset ∧
    SourceKind.ofSource source = .error (.invalidSource offset) ∧
    ∀ e m, (Bridge.evaluate source).run e m = .done (.error (.invalidSource offset)) m ∧
      (Bridge.compile source).run e m = .done (.error (.invalidSource offset)) m
  kind : 0 ∉ source.toUTF8.toList → SourceKind.ofSource source = .ok (SourceKind.detect source)
  /-- One that cannot be read fails with one and the same exception. -/
  unreadable : 0 ∉ source.toUTF8.toList →
    ∀ fault, Program.parse (SourceKind.detect source) source = .error fault → ∀ e m,
      ((Bridge.evaluate source).run e m =
        .ask (.report (.evaluating (SourceKind.detect source) source.utf8ByteSize false)) m fun _ =>
          (Bridge.syntaxException fault e m).andThen fun x m => .done (.error (.eval x)) m) ∧
      (Bridge.compile source).run e m =
        .ask (.report (.evaluating (SourceKind.detect source) source.utf8ByteSize true)) m fun _ =>
          (Bridge.syntaxException fault e m).andThen fun x m => .done (.error (.compile x)) m
  /-- One that can be read is compiled to something that runs as it does. -/
  readable : 0 ∉ source.toUTF8.toList →
    ∀ program, Program.parse (SourceKind.detect source) source = .ok program → program.requests = [] →
      ∃ b, RunsAsCompiled source b

section

variable {source : String} {kind : SourceKind} {program : Program} {b : Bytecode}
  (hkind : SourceKind.ofSource source = .ok kind) (hparse : Program.parse kind source = .ok program)
  (hrequests : program.requests = []) (hread : Bytecode.Format.read b.bytes = .ok program)
include hkind hparse hrequests hread

theorem World.Alike.toNative_agree {σ : Type} {handler : Handler σ} {w w' : World} {s : σ} {c : ContextId} {n : Nat}
    (halike : w.Alike c n w') (hn : n = w.nextProgram c) (hblind : handler.Blind (World.Alike c n))
    (hidle : w.contextObstacle? c = none → (w.context c).Idle) (hunobserved : Unobserved handler c source w s) :
    Agree (World.Alike c n) ((c.evaluate source >>= fun v => v.toNative).run handler w s)
      ((c.evaluateBinary b >>= fun v => v.toNative).run handler w' s) :=
  Embedding.toNative_agree hkind hparse hrequests hread textLikeness hblind halike hn ((halike.dropPending c).machineFor c)
    (fun _ _ _ _ _ _ _ hu => hu.machineFor c) hidle hunobserved

theorem Console.files_agree {k : Console} {d d' : Directory} {path target : String} {bytes : List UInt8}
    (hwritten : Bytecode.Format.write program = .ok b.bytes) (hnonempty : b.bytes ≠ [])
    (hfree : k.world.contextObstacle? k.context = none) (hidle : (k.world.context k.context).Idle)
    (hbytes : d.read path = .ok bytes) (htext : textOfBytes bytes = .ok source) (hwrite : d.write target b.bytes = .ok d')
    (hunobserved : Unobserved handler k.context source k.world k.output) :
    ∃ k' r kr r' kr',
      carryOut (compileFile Directory.access path target) k d = ((.ok b.size, k'), d') ∧
      carryOut (executeFile Directory.access target) k' d' = ((r', kr'), d') ∧
      carryOut (evaluateFile Directory.access path) k d = ((r, kr), d) ∧
      r' = r ∧ kr'.output = kr.output ∧ kr.world.Alike k.context (k.world.nextProgram k.context) kr'.world := by
  obtain ⟨w', hcompile, hruntimes, hcontexts⟩ :=
    Embedding.run_compile (s := k.output) hkind hparse hrequests hwritten hnonempty hfree hidle
  have halike : k.world.Alike k.context (k.world.nextProgram k.context) w' :=
    World.Alike.refl.of_same rfl rfl hruntimes hcontexts
  obtain ⟨hresult, hstate, hworld⟩ := halike.toNative_agree hkind hparse hrequests hread rfl (blind_handler _)
    (fun _ => hidle) hunobserved
  have hrun : (compile source).run k = (.ok b, { k with world := w' }) := by
    rw [compile, run_work, hcompile]
  refine ⟨{ k with world := w' }, _, _, _, _, carryOut_compileFile hbytes htext hrun hwrite,
    (carryOut_executeFile (Directory.read_of_write hwrite)).trans (carryOut_console _),
    (carryOut_evaluateFile hbytes htext).trans (carryOut_console _), ?_⟩
  rw [execute, evaluate, run_work, run_work]
  exact ⟨congrArg _ hresult, hstate, hworld⟩

end

/-- Compiled and direct execution agree, wherever programs are read as they were written. -/
theorem compiled_agrees [Bytecode.Format.Faithful] (source : String) : CompiledAgrees source where
  nul hnul := by
    obtain ⟨offset, hoffset⟩ := exists_firstNul hnul
    have hkind := SourceKind.ofSource_of_firstNul hoffset
    exact ⟨offset, hoffset, hkind, fun e m => Bridge.run_of_error hkind⟩
  kind := SourceKind.ofSource_of_noNul
  unreadable hnul fault hparse e m := Bridge.run_unreadable (SourceKind.ofSource_of_noNul hnul) hparse
  readable hnul program hparse hrequests := by
    have hkind := SourceKind.ofSource_of_noNul hnul
    obtain ⟨bytes, hwritten, hread⟩ := Bytecode.Format.Faithful.exists_write program
    have hnonempty : bytes ≠ [] := fun hnil => Bytecode.Format.Faithful.read_nil program (hnil ▸ hread)
    refine ⟨⟨bytes⟩, ?_⟩
    constructor
    case nonempty => exact List.isEmpty_eq_false_iff.mpr hnonempty
    case compiled => exact fun e m => Bridge.run_compile_of_ok hkind hparse hrequests hwritten hnonempty
    case run =>
      exact fun e m => ⟨_, Bridge.run_evaluate_of_ok hkind hparse hrequests,
        Bridge.run_evaluateBinary_of_ok hread hrequests, fun _ _ _ => Bridge.exists_eval_of_gives_check⟩
    case agree =>
      intro σ handler p c w' s hp hc halike hblind hunobserved
      have hidle := hp.idle_of_free hc
      have hvalue := evaluateBinary_agree hkind hparse hrequests hread World.Alike.textLikeness hblind halike rfl
        ((halike.dropPending c).machineFor c) hidle hunobserved.run
      rw [ContextId.evaluate, movedTo_of_evaluateWith, ← ContextId.evaluate] at hvalue
      exact ⟨hvalue, halike.toNative_agree hkind hparse hrequests hread rfl hblind hidle hunobserved⟩
    case elsewhere =>
      intro σ handler p c c' w' s hp hmirrors hblind hunobserved hmachine
      have hidle := hp.idle_of_free hmirrors.known
      exact ⟨evaluateBinary_agree hkind hparse hrequests hread World.Mirrors.textLikeness hblind hmirrors rfl hmachine hidle
          hunobserved.run,
        fun hvalue => toNative_agree hkind hparse hrequests hread World.Mirrors.textLikeness hblind hmirrors rfl hmachine
          hvalue hidle hunobserved⟩
    case files =>
      intro k p d d' path target bytes hp hworld hc hfree
      rw [← hworld] at hc
      exact Console.files_agree hkind hparse hrequests hread hwritten hnonempty hfree
        (hworld ▸ hp.idle_of_free hc (hworld ▸ hfree))

end Format

theorem World.Mirrors.machineFor {w w' : World} {c c' : ContextId} {n : Nat} (h : w.Mirrors c c' n w')
    (hunlimited : (w.context c).machine.memoryLimit = none) : w'.machineFor c' = w.machineFor c := by
  obtain ⟨_, _, _, hsame⟩ := h.same
  have hmachine : (w'.context c').machine = (w.context c).machine := by rw [hsame]
  rw [World.machineFor_of_unlimited hunlimited, World.machineFor_of_unlimited (hmachine ▸ hunlimited), hmachine]

def assigning : String := "Map = 7"

theorem parse_assigning : SourceKind.ofSource assigning = .ok .script ∧ SourceKind.detect assigning = .script ∧
    0 ∉ assigning.toUTF8.toList ∧
    Program.parse .script assigning = .ok (.assigning "Map" (.literal (.int 7)) ["Map"]) := by
  have hnul : 0 ∉ assigning.toUTF8.toList := by decide +kernel
  have hdetect : SourceKind.detect assigning = .script := by decide +kernel
  refine ⟨?_, hdetect, hnul, Program.parse_of_written (by decide +kernel)⟩
  rw [SourceKind.ofSource_of_noNul hnul, hdetect]

theorem exists_twoContexts : ∃ p : Position, p.Reachable ∧ (∀ n, p.world.Mirrors ⟨0⟩ ⟨1⟩ n p.world) ∧
    p.world.contextObstacle? ⟨0⟩ = none ∧ (p.world.context ⟨0⟩).leases = [] ∧ (p.world.context ⟨0⟩).pending = none ∧
    (p.world.context ⟨1⟩).pending = none ∧
    (p.world.context ⟨0⟩).machine.IsNew ∧ (p.world.context ⟨0⟩).machine.depthLimit = callDepthLimit ∧
    (p.world.context ⟨0⟩).machine.memoryLimit = none := by
  have hplay := Play.operates [.newRuntime {}, .newContext ⟨0⟩, .newContext ⟨0⟩] (p := {}) trivial rfl
  refine ⟨_, ⟨_, hplay⟩, fun n => ⟨by decide, by decide, by decide, by decide, ⟨_, _, _, rfl⟩, fun _ _ => Iff.rfl, rfl, nofun, rfl⟩,
    rfl, rfl, rfl, rfl, Guest.Machine.isNew_initial.limited callDepthLimit none, rfl, rfl⟩

/-- A script is run in one of two contexts in the same state, and what it is compiled to in the other. -/
theorem compiled_agrees_assigning : ∃ (b : Bytecode) (p : Position) (u u' : World), p.Reachable ∧ b.isEmpty = false ∧
    p.world.Mirrors ⟨0⟩ ⟨1⟩ (p.world.nextProgram ⟨0⟩) p.world ∧ u.Mirrors ⟨0⟩ ⟨1⟩ (p.world.nextProgram ⟨0⟩) u' ∧
    ((⟨0⟩ : ContextId).evaluate assigning >>= fun v => v.toNative).run Console.handler p.world "" = ((.ok (.int 7), u), "") ∧
    ((⟨1⟩ : ContextId).evaluateBinary b >>= fun v => v.toNative).run Console.handler p.world "" = ((.ok (.int 7), u'), "") := by
  obtain ⟨p, hp, hmirrors, hfree, hleases, hpending, hpending', hnew, hdepthLimit, hunlimited⟩ := exists_twoContexts
  obtain ⟨hkind, hdetect, hnul, hparse⟩ := parse_assigning
  obtain ⟨b, hb⟩ := (compiled_agrees assigning).readable hnul _ (hdetect ▸ hparse) rfl
  have hmachine := World.machineFor_of_unlimited hunlimited
  obtain ⟨m, hm⟩ : ∃ m, m = (p.world.context ⟨0⟩).machine := ⟨_, rfl⟩
  rw [← hm] at hnew hdepthLimit hunlimited hmachine
  have hregular : m.Regular := by
    have hstart := Guest.Machine.regular_initial
    exact (hstart.rebound_step hstart.rebound_refl (.other hnew.objects)).regular
  have hoffers : m.counted.Offers "Map" _ (.object Intrinsic.mapConstructor) :=
    (hregular.offers (k := .map) hnew.lexicals (by rw [hnew.objects]; exact Realm.getElem?_initial rfl) (by decide)
      rfl).of_same rfl rfl
  have hdepth : m.counted.depth < m.counted.depthLimit := by
    show m.depth < m.depthLimit
    rw [hnew.depth, hdepthLimit]
    decide
  have hglobal := hoffers.run_runGlobal (n := 999997) (v := .ofInt 7) (.literal (.int 7)) ["Map"] (m.programs + 1) hdepth
    fun env m' _ _ _ => ⟨m'.frames, rfl⟩
  have hrun := Bridge.run_evaluate_of_done hkind hparse rfl hglobal
  rw [← hmachine] at hrun
  obtain ⟨u, hvalue, hufree, hucontext⟩ := exists_run_evaluate Console.handler "" hrun hfree (hmirrors 0).known hpending
    hleases rfl
  have hpin : (u.context ⟨0⟩).pins.find? (p.world.context ⟨0⟩).pins.next = some (.ofInt 7) := by
    rw [hucontext]
    exact List.lookup_cons_self
  have hnative (m : Machine) : (Bridge.toNative (.ofInt 7)).run Engine.standard m = .done (.ok (.int 7)) m := rfl
  have hdrop : p.world.dropPending ⟨0⟩ = p.world := by rw [World.dropPending, hpending]
  have hdrop' : p.world.dropPending ⟨1⟩ = p.world := by rw [World.dropPending, hpending']
  have hunobserved : Unobserved Console.handler ⟨0⟩ assigning p.world "" := by
    refine ⟨hdrop.symm ▸ not_asks_of_leads hrun (by intro h; cases h) (by intro h; cases h), fun v w' s' hv => ?_⟩
    cases hvalue.symm.trans hv
    exact not_asks_takingUp (v := ⟨⟨0⟩, _⟩) hnative hpin (by rintro ⟨⟩)
  obtain ⟨u₂, htaken⟩ :=
    exists_run_toNative (v := ⟨⟨0⟩, _⟩) Console.handler "" hnative hpin hufree
  have hfirst : ((⟨0⟩ : ContextId).evaluate assigning >>= fun v => v.toNative).run Console.handler p.world "" =
      ((.ok (.int 7), u₂), "") := by
    rw [run_bind, hvalue]
    exact htaken
  obtain ⟨hresult, hstate, hworld⟩ := (hb.elsewhere Console.handler p ⟨0⟩ ⟨1⟩ p.world "" hp (hmirrors _)
    (Console.blind_handler _) hunobserved (by rw [hdrop, hdrop', (hmirrors 0).machineFor (hm ▸ hunlimited)])).2
    fun v v' w w' t hv _ hw => hw.machineFor (by
      cases hvalue.symm.trans hv
      rw [hucontext]
      show (p.world.machineFor ⟨0⟩).memoryLimit = none
      rw [hmachine]
      exact hunlimited)
  rw [hfirst] at hresult hstate hworld
  exact ⟨b, p, u₂, _, hp, hb.nonempty, hmirrors _, hworld, hfirst, Prod.ext (Prod.ext hresult rfl) hstate⟩

end Embedding
