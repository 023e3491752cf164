import Embedding.Proofs.ForgottenTexts
import Embedding.Proofs.IdleContexts
import Embedding.Proofs.MirroredContexts
import Embedding.Proofs.Sources

namespace Embedding

open Guest

/-- The number that the next program of a context gets. -/
def World.nextProgram (w : World) (c : ContextId) : Nat := (w.context c).machine.programs + 1

namespace World

variable {w v : World} {c : ContextId}

theorem nextProgram_dropPending : (w.dropPending c).nextProgram c = w.nextProgram c := by
  rw [nextProgram, nextProgram, (w.dropPending_context c c).1]

theorem programs_machineFor : (w.machineFor c).programs + 1 = w.nextProgram c := by
  obtain ⟨memory, hm⟩ := w.exists_machineFor c
  rw [hm]
  rfl

theorem quiet_machineFor (hidle : (w.context c).Idle) (hcontext : v.context c = w.context c) :
    (v.setMachine c (w.machineFor c)).reap c = v.setMachine c (w.machineFor c) := by
  obtain ⟨memory, hm⟩ := w.exists_machineFor c
  have hfreed : Machine.freedPlaces { (w.context c).machine with memory } (w.context c).pins.values =
      (w.context c).machine.freedPlaces (w.context c).pins.values := Machine.freedPlaces_limits ..
  apply reap_eq_self
  rw [setMachine, context_modifyContext]
  split
  · rw [hcontext, hm]
    intro l hl (hmem : l.function ∈ Machine.freedPlaces _ _)
    exact hidle.quiet l hl (hfreed.subst hmem)
  · rw [hcontext]
    exact hidle.quiet

theorem atRest_machineFor (hidle : (w.context c).Idle) : (w.machineFor c).atRest = (w.context c).machine := by
  obtain ⟨memory, hm⟩ := w.exists_machineFor c
  rw [hm]
  exact hidle.rest

end World

section

variable {σ α α' β : Type} {handler : Handler σ} {R : World → World → Prop} {w w' : World} {s : σ} {c c' : ContextId} {n : Nat}

theorem run_map (g : α → α') (x : Attempt σ α) : (g <$> x).run handler w s =
    (((x.run handler w s).1.1.map g, (x.run handler w s).1.2), (x.run handler w s).2) := by
  rw [map_eq_pure_bind, run_bind]
  rcases x.run handler w s with ⟨⟨a | e, v⟩, t⟩ <;> rfl

theorem Agree.bind {x : Attempt σ α} {x' : Attempt σ α'} {g : α → α'} {f : α → Attempt σ β} {f' : α' → Attempt σ β}
    (h : Agree R ((g <$> x).run handler w s) (x'.run handler w' s))
    (hf : ∀ a v v' t, x.run handler w s = ((.ok a, v), t) → x'.run handler w' s = ((.ok (g a), v'), t) → R v v' →
      Agree R ((f a).run handler v t) ((f' (g a)).run handler v' t)) :
    Agree R ((x >>= f).run handler w s) ((x' >>= f').run handler w' s) := by
  rw [run_bind, run_bind]
  rw [run_map] at h
  rcases hx : x.run handler w s with ⟨⟨a, v⟩, t⟩
  rcases hx' : x'.run handler w' s with ⟨⟨a', v'⟩, t'⟩
  rw [hx, hx'] at h
  obtain ⟨hresult, hstate, hworld⟩ := h
  obtain rfl : t' = t := hstate
  cases a with
  | error e =>
    obtain rfl : a' = .error e := hresult
    exact ⟨rfl, rfl, hworld⟩
  | ok a =>
    obtain rfl : a' = .ok (g a) := hresult
    exact hf a v v' t' hx hx' hworld

/-- Work whose value the host holds on to. -/
def evaluating (x : Bridge Value) : Bridge Nat := do
  let v ← x
  Bridge.pin v

theorem run_evaluateWith (x : Bridge Value) : (c.evaluateWith x).run handler w s =
    match (c.inside (evaluating x)).run handler (w.dropPending c) s with
    | ((.ok pin, w'), s') => ((.ok ⟨c, pin⟩, w'.modifyContext c fun s => { s with pending := some ⟨c, pin⟩ }), s')
    | ((.error e, w'), s') => ((.error e, w'), s') := by
  have hdrop : (c.evaluateWith x).run handler w s = (do
      let v ← c.insideHolding x
      modifyThe World fun w => w.modifyContext c fun s => { s with pending := some v }
      return v : Attempt σ ValueRef).run handler (w.dropPending c) s := rfl
  have hhold : (c.insideHolding x : Attempt σ ValueRef) = c.inside (evaluating x) >>= fun pin => pure ⟨c, pin⟩ := rfl
  rw [hdrop, run_bind, hhold, run_bind]
  rcases (c.inside (evaluating x)).run handler (w.dropPending c) s with ⟨⟨e | pin, w'⟩, s'⟩ <;> rfl

theorem context_of_evaluateWith {x : Bridge Value} {v : ValueRef} {s' : σ}
    (h : (c.evaluateWith x).run handler w s = ((.ok v, w'), s')) : v.context = c := by
  rw [run_evaluateWith] at h
  split at h
  · cases h
    rfl
  · cases h

theorem movedTo_of_evaluateWith {x : Bridge Value} :
    (ValueRef.movedTo c <$> c.evaluateWith x).run handler w s = (c.evaluateWith x).run handler w s := by
  rw [run_map, run_evaluateWith]
  rcases (c.inside (evaluating x)).run handler (w.dropPending c) s with ⟨⟨e | pin, w'⟩, s'⟩ <;> rfl

theorem TextLikeness.evaluateWith (hlike : TextLikeness n c c' R) {x x' : Bridge Value}
    (h : Agree R ((c.inside (evaluating x)).run handler (w.dropPending c) s)
      ((c'.inside (evaluating x')).run handler (w'.dropPending c') s)) :
    Agree R ((ValueRef.movedTo c' <$> c.evaluateWith x).run handler w s) ((c'.evaluateWith x').run handler w' s) := by
  rw [run_map, run_evaluateWith, run_evaluateWith]
  generalize (c.inside (evaluating x)).run handler (w.dropPending c) s = r at h
  generalize (c'.inside (evaluating x')).run handler (w'.dropPending c') s = r' at h
  obtain ⟨⟨a, v⟩, t⟩ := r
  obtain ⟨⟨a', v'⟩, t'⟩ := r'
  obtain ⟨hresult, hstate, hworld⟩ := h
  obtain rfl : a' = a := hresult
  obtain rfl : t' = t := hstate
  cases a' with
  | error e => exact ⟨rfl, rfl, hworld⟩
  | ok pin => exact ⟨rfl, rfl, hlike.keep hworld pin⟩

def pinning (e : Engine) (x : Run (Except Error Value)) : Run (Except Error Nat) :=
  (x.andThen fun r m =>
    match r with
    | .ok v => (Bridge.pin v).run e m
    | .error err => .done (.error err) m).orElse fun v m =>
      (Bridge.exceptionOf v e m).andThen fun x m => .done (.error (.eval x)) m

theorem run_evaluating (x : Bridge Value) (e : Engine) (m : Machine) :
    (evaluating x).caught.run e m = pinning e (x.run e m) := by
  have hrun : (evaluating x).caught.run e m = ((evaluating x).run e m).orElse fun v m =>
      (Bridge.exceptionOf v e m).andThen fun x m => .done (.error (.eval x)) m := rfl
  rw [hrun, evaluating, Bridge.run_bind, pinning]
  congr 2
  funext r m
  cases r <;> rfl

theorem pinning_ask (e : Engine) (q : Query) (m : Machine) (resume : q.Reply → Run (Except Error Value)) :
    pinning e (.ask q m resume) = .ask q m fun r => pinning e (resume r) := rfl

/-- What is done inside a context with a value that the host holds on to. -/
def takingUp (v : ValueRef) (f : Value → Bridge α) : Bridge α := do
  let x ← Bridge.pinned v.pin
  Bridge.hold x
  f x

/-- Running a source and taking its value to the host, nobody asks how the functions of the source were written. -/
structure Unobserved (handler : Handler σ) (c : ContextId) (source : String) (w : World) (s : σ) : Prop where
  run : ¬ c.Asks handler (· = .remembersTexts (w.nextProgram c)) (evaluating (Bridge.evaluate source)) (w.dropPending c) s
  value : ∀ v w' s', (c.evaluate source).run handler w s = ((.ok v, w'), s') →
    ¬ c.Asks handler (· = .remembersTexts (w.nextProgram c)) (takingUp v Bridge.toNative) w' s'

variable [Bytecode.Format]

variable {source : String} {kind : SourceKind} {p : Program} {b : Bytecode}
  (hkind : SourceKind.ofSource source = .ok kind) (hparse : Program.parse kind source = .ok p) (hrequests : p.requests = [])

section

variable (hread : Bytecode.Format.read b.bytes = .ok p) (hlike : TextLikeness n c c' R) (hblind : handler.Blind R)
include hkind hparse hrequests hread hlike hblind

theorem inside_agree (hw : R w w') (hn : n = w.nextProgram c) (hmachine : w'.machineFor c' = w.machineFor c)
    (hidle : w.contextObstacle? c = none → (w.context c).Idle)
    (hasks : ¬ c.Asks handler (· = .remembersTexts n) (evaluating (Bridge.evaluate source)) w s) :
    Agree R ((c.inside (evaluating (Bridge.evaluate source))).run handler w s)
      ((c'.inside (evaluating (Bridge.evaluateBinary b))).run handler w' s) := by
  have hobstacle' := hlike.contextObstacle? hw
  cases hobstacle : w.contextObstacle? c with
  | some e =>
    rw [inside_of_obstacle handler s _ hobstacle, inside_of_obstacle handler s _ (hobstacle'.trans hobstacle)]
    exact ⟨rfl, rfl, hw⟩
  | none =>
    have hreap := World.quiet_machineFor (hidle hobstacle) (v := w.enter c) rfl
    have hnumber := w.programs_machineFor (c := c)
    rw [← hn] at hnumber
    rw [ContextId.Asks, run_evaluating, Bridge.run_evaluate_of_ok hkind hparse hrequests, pinning_ask,
      Handler.Asks] at hasks
    replace hasks := (not_or.mp hasks).2
    rw [inside_of_free handler s _ hobstacle, inside_of_free handler s _ (hobstacle'.trans hobstacle), run_evaluating,
      run_evaluating, hmachine, Bridge.run_evaluate_of_ok hkind hparse hrequests,
      Bridge.run_evaluateBinary_of_ok hread hrequests, pinning_ask, pinning_ask,
      follow_ask (q := .report _), follow_ask (q := .forgetTexts _)]
    simp only [World.answer, hreap, Query.refused?, hnumber] at hasks ⊢
    generalize pinning Engine.standard _ = run at *
    generalize (w.machineFor c).counted = m at *
    generalize w.machineFor c = m₀ at *
    rw [← asks_setMachine _ _ _ m] at hasks
    have hentered := hlike.setMachine (hlike.enter hw) m₀
    have hreported := hlike.of_same (v := ((w.enter c).setMachine c m₀).report
      (.noted (.evaluating kind source.utf8ByteSize false))) hentered rfl rfl rfl rfl
    have hcounted := hlike.setMachine hreported m
    rw [World.setMachine_setMachine] at hcounted
    obtain ⟨hresult, hstate, hworld⟩ := hlike.follow hblind (hlike.forgetting hcounted) hasks
    rw [← follow_setMachine run (World.report _ _) s m]
    exact ⟨hresult, hstate, hlike.leave hworld⟩

theorem evaluateBinary_agree (hw : R w w') (hn : n = w.nextProgram c)
    (hmachine : (w'.dropPending c').machineFor c' = (w.dropPending c).machineFor c)
    (hidle : w.contextObstacle? c = none → (w.context c).Idle)
    (hasks : ¬ c.Asks handler (· = .remembersTexts n) (evaluating (Bridge.evaluate source)) (w.dropPending c) s) :
    Agree R ((ValueRef.movedTo c' <$> c.evaluate source).run handler w s) ((c'.evaluateBinary b).run handler w' s) := by
  have hn' : n = (w.dropPending c).nextProgram c := hn.trans World.nextProgram_dropPending.symm
  have hidle' (hfree : (w.dropPending c).contextObstacle? c = none) : ((w.dropPending c).context c).Idle := by
    rw [World.contextObstacle?_of_life (w.life_dropPending c)] at hfree
    exact World.idle_dropPending (hidle hfree) c
  have hinside := inside_agree hkind hparse hrequests hread hlike hblind (hlike.dropPending hw) hn' hmachine hidle' hasks
  exact hlike.evaluateWith hinside

theorem toNative_agree (hw : R w w') (hn : n = w.nextProgram c)
    (hmachine : (w'.dropPending c').machineFor c' = (w.dropPending c).machineFor c)
    (hvalue : ∀ v v' u u' t, (c.evaluate source).run handler w s = ((.ok v, u), t) →
      (c'.evaluateBinary b).run handler w' s = ((.ok v', u'), t) → R u u' → u'.machineFor c' = u.machineFor c)
    (hidle : w.contextObstacle? c = none → (w.context c).Idle) (hunobserved : Unobserved handler c source w s) :
    Agree R ((c.evaluate source >>= fun v => v.toNative).run handler w s)
      ((c'.evaluateBinary b >>= fun v => v.toNative).run handler w' s) := by
  subst hn
  refine (evaluateBinary_agree hkind hparse hrequests hread hlike hblind hw rfl hmachine hidle
    hunobserved.run).bind ?_
  rintro ⟨d, pin⟩ v v' t hrun hrun' hv
  obtain rfl : d = c := context_of_evaluateWith hrun
  exact hlike.inside hblind hv (hvalue _ _ _ _ _ hrun hrun' hv) (hunobserved.value _ _ _ hrun)

end

include hkind hparse hrequests

theorem run_compile {bytes : List UInt8} (hwrite : Bytecode.Format.write p = .ok bytes) (hbytes : bytes ≠ [])
    (hfree : w.contextObstacle? c = none) (hidle : (w.context c).Idle) :
    ∃ w', (c.compile source).run handler w s = ((.ok ⟨bytes⟩, w'), s) ∧
      w'.runtimes = w.runtimes ∧ w'.contexts = w.contexts := by
  have hrun (m : Machine) : (Bridge.compile source).caught.run Engine.standard m =
      .ask (.report (.evaluating kind source.utf8ByteSize true)) m fun _ =>
        .ask (.report (.compiled bytes.length)) m fun _ => .done (.ok ⟨bytes⟩) m := by
    show Run.orElse ((Bridge.compile source).run Engine.standard m) _ = _
    rw [Bridge.run_compile_of_ok hkind hparse hrequests hwrite hbytes]
    rfl
  have hreport {v : World} (hcontext : v.context c = w.context c) (note : Note)
      (resume : Unit → Run (Except Error Bytecode)) :
      handler.follow c (.ask (.report note) (w.machineFor c) resume) v s =
        handler.follow c (resume ()) (v.report (.noted note)) s := by
    rw [follow_ask (q := .report note), World.answer, World.quiet_machineFor hidle hcontext]
    exact follow_setMachine _ (v.report (.noted note)) s _
  obtain ⟨v, hv⟩ : ∃ v, v = ((w.enter c).report (.noted (.evaluating kind source.utf8ByteSize true))).report
    (.noted (.compiled bytes.length)) := ⟨_, rfl⟩
  have hfollow : handler.follow c ((Bridge.compile source).caught.run Engine.standard (w.machineFor c)) (w.enter c) s =
      ((.ok ⟨bytes⟩, v.setMachine c (w.machineFor c)), s) := by
    rw [hrun, hreport (v := w.enter c) rfl, hreport (v := (w.enter c).report _) rfl, ← hv]
    rfl
  rw [ContextId.compile, inside_of_free handler s _ hfree, hfollow]
  exact ⟨_, rfl, World.leave_of_idle hidle (World.atRest_machineFor hidle) (World.contextObstacle_eq_none.mp hfree).2
    (hv ▸ rfl) (hv ▸ rfl)⟩

end

section

variable {σ : Type} {handler : Handler σ} {w : World} {s : σ} {c : ContextId} {source : String} {note : Note} {x : Value}
  {m : Machine} (hrun : (Bridge.evaluate source).run Engine.standard (w.machineFor c) =
    .ask (.report note) (w.machineFor c) fun _ => .done (.ok x) m)
include hrun

theorem run_evaluating_of_leads : (evaluating (Bridge.evaluate source)).caught.run Engine.standard (w.machineFor c) =
    .ask (.report note) (w.machineFor c) fun _ => .ask (.pin x) m fun pin => .done (.ok pin) m := by
  rw [run_evaluating, hrun]
  rfl

theorem not_asks_of_leads {P : Query → Prop} (hreport : ¬ P (.report note)) (hpin : ¬ P (.pin x)) :
    ¬ c.Asks handler P (evaluating (Bridge.evaluate source)) w s := by
  rw [ContextId.Asks, run_evaluating_of_leads hrun, Handler.asks_ask (q := .report note),
    Handler.asks_ask (q := .pin x)]
  rintro (h | h | h)
  · exact hreport h
  · exact hpin h
  · exact h

variable (handler s) in
theorem exists_follow_evaluating (hknown : c.index < w.contexts.size) (hleases : (w.context c).leases = [])
    (hx : Target.ofValue x = []) :
    ∃ u : World, handler.follow c ((evaluating (Bridge.evaluate source)).caught.run Engine.standard (w.machineFor c))
        (w.enter c) s = ((.ok (w.context c).pins.next, u), s) ∧
      u.runtimes = (w.enter c).runtimes ∧ u.contexts.size = w.contexts.size ∧
      u.context c = { w.context c with machine := m, pins := ((w.context c).pins.add x).2 } := by
  obtain ⟨v₀, hv₀⟩ : ∃ v₀, v₀ = (w.enter c).setMachine c (w.machineFor c) := ⟨_, rfl⟩
  have hsize : v₀.contexts.size = w.contexts.size := hv₀ ▸ World.size_contexts_setMachine ..
  have hcontext : v₀.context c = { w.context c with machine := w.machineFor c } :=
    hv₀ ▸ World.context_setMachine_self _ hknown
  have hreport : v₀.answer c (.report note) = ((), v₀.report (.noted note)) := by
    have hreap : v₀.reap c = v₀ := World.reap_eq_self fun l hl => by
      rw [hcontext] at hl
      exact absurd (hleases ▸ hl) List.not_mem_nil
    rw [World.answer, hreap]
  have hmachine : ((v₀.report (.noted note)).setMachine c m).context c = { w.context c with machine := m } :=
    (World.context_setMachine_self m (hsize ▸ hknown)).trans (by rw [World.context_report, hcontext])
  obtain ⟨u, hu⟩ : ∃ u, u = ((v₀.report (.noted note)).setMachine c m).modifyContext c fun s =>
    { s with pins := ((w.context c).pins.add x).2 } := ⟨_, rfl⟩
  have hpin : ((v₀.report (.noted note)).setMachine c m).answer c (.pin x) = ((w.context c).pins.next, u) := by
    rw [hu]
    simp only [World.answer, World.pin, hx, hmachine]
    rfl
  have husize : u.contexts.size = w.contexts.size := by
    rw [hu, World.size_contexts_modifyContext, World.size_contexts_setMachine]
    exact hsize
  have hucontext : u.context c = { w.context c with machine := m, pins := ((w.context c).pins.add x).2 } := by
    rw [hu, World.context_modifyContext_self _ (by rw [World.size_contexts_setMachine]; exact hsize ▸ hknown), hmachine]
  refine ⟨u.setMachine c m, ?_, by rw [hu, hv₀]; rfl, by rw [World.size_contexts_setMachine, husize], ?_⟩
  · rw [run_evaluating_of_leads hrun, follow_ask (q := .report note), ← hv₀, hreport, follow_ask (q := .pin x), hpin]
    rfl
  · rw [World.context_setMachine_self m (husize ▸ hknown), hucontext]

variable (handler s) in
theorem exists_run_evaluate (hfree : w.contextObstacle? c = none) (hknown : c.index < w.contexts.size)
    (hpending : (w.context c).pending = none) (hleases : (w.context c).leases = []) (hx : Target.ofValue x = []) :
    ∃ u, (c.evaluate source).run handler w s = ((.ok ⟨c, (w.context c).pins.next⟩, u), s) ∧
      u.contextObstacle? c = none ∧
      u.context c = { w.context c with
        machine := m.atRest
        begun := []
        pins := ((w.context c).pins.add x).2
        pending := some ⟨c, (w.context c).pins.next⟩ } := by
  have hdrop : w.dropPending c = w := by rw [World.dropPending, hpending]
  obtain ⟨u, hfollow, hruntimes, hsize, hcontext⟩ := exists_follow_evaluating handler s hrun hknown hleases hx
  obtain ⟨hopen, hidle⟩ := World.contextObstacle_eq_none.mp hfree
  have hleft := World.context_leave_of_no_leases (w := u) (hsize ▸ hknown) (by rw [hcontext]; exact hleases)
  have hleftRuntimes := World.runtimes_leave_of_no_leases (w := w) (v := u) hidle hruntimes (hsize ▸ hknown)
    (by rw [hcontext]) (by rw [hcontext]; exact hleases)
  have hresult := World.context_modifyContext_self (w := u.leave c) (c := c)
    (fun s => { s with pending := some ⟨c, (w.context c).pins.next⟩ }) (by rw [World.size_contexts_leave]; exact hsize ▸ hknown)
  rw [hleft, hcontext] at hresult
  rw [ContextId.evaluate, run_evaluateWith, hdrop, inside_of_free handler s _ hfree, hfollow]
  refine ⟨_, rfl, World.contextObstacle_eq_none.mpr ⟨?_, ?_⟩, hresult⟩
  · rw [hresult]
    exact hopen
  · rw [World.runtimeOf, hresult, World.runtime, World.modifyContext, hleftRuntimes]
    exact hidle

end

section

variable {σ : Type} {handler : Handler σ} {w : World} {s : σ} {v : ValueRef} {x : Value} {t : Native}
  (hx : ∀ m, (Bridge.toNative x).run Engine.standard m = .done (.ok t) m)
  (hpin : (w.context v.context).pins.find? v.pin = some x)
include hx hpin

omit hpin in
theorem run_toNative_caught (m : Machine) : (Bridge.toNative x).caught.run Engine.standard m = .done (.ok t) m := by
  show Run.orElse ((Bridge.toNative x).run Engine.standard m) _ = _
  rw [hx]
  rfl

theorem not_asks_takingUp {P : Query → Prop} (hpinned : ¬ P (.pinned v.pin)) :
    ¬ v.context.Asks handler P (takingUp v Bridge.toNative) w s := by
  have hanswer : ((w.enter v.context).setMachine v.context (w.machineFor v.context)).answer v.context (.pinned v.pin) =
      (some x, v.entered w) := by
    rw [World.answer, World.setMachine, World.context_modifyContext]
    split <;> exact Prod.ext hpin rfl
  refine (Handler.asks_ask (q := .pinned v.pin)).not.mpr ?_
  rw [hanswer]
  rintro (h | h)
  · exact hpinned h
  · change handler.Asks _ P ((Bridge.toNative x).caught.run Engine.standard ((w.machineFor v.context).heldOn x)) _ s at h
    rw [run_toNative_caught hx] at h
    exact h

variable (handler s) in
theorem exists_run_toNative (hfree : w.contextObstacle? v.context = none) :
    ∃ u, v.toNative.run handler w s = ((.ok t, u), s) := by
  rw [ValueRef.toNative, ValueRef.run_inside hfree hpin, run_toNative_caught hx]
  exact ⟨_, rfl⟩

end

end Embedding
