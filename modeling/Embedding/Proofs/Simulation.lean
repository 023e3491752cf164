import Embedding.Proofs.Leases
import Embedding.Proofs.WorkInside

namespace Embedding

theorem World.entered_modifyRuntime {w : World} {c : ContextId} (b : Bool) (h : (w.context c).runtime.index < w.runtimes.size) :
    ((w.modifyRuntime (w.context c).runtime fun r => { r with entered := b }).runtimeOf c).entered = b := by
  simp only [runtimeOf, context_modifyRuntime, runtime_modifyRuntime, true_and, if_pos h]

structure World.Changes (c : ContextId) (f : ContextState → ContextState) (w v : World) : Prop where
  life : v.life = w.life
  context : ∀ d, v.context d = if d = c ∧ c.index < w.contexts.size then f (w.context c) else w.context d

theorem World.Changes.modifyContext (w : World) (c : ContextId) {f : ContextState → ContextState}
    (hf : ∀ s, (f s).runtime = s.runtime ∧ (f s).isReleased = s.isReleased) : w.Changes c f (w.modifyContext c f) :=
  ⟨w.life_modifyContext c f hf, fun d => w.context_modifyContext c d f⟩

/-- A change that takes no notice of where a context belongs, which texts it has forgotten and what its last result is. -/
def ContextState.Inner (f : ContextState → ContextState) : Prop :=
  ∀ s runtime forgotten pending, f { s with runtime, forgotten, pending } = { f s with runtime, forgotten, pending }

theorem ContextState.Inner.keeps {f : ContextState → ContextState} (hf : ContextState.Inner f) (s : ContextState) :
    (f s).runtime = s.runtime ∧ (f s).forgotten = s.forgotten ∧ (f s).pending = s.pending := by
  have hsame := hf s s.runtime s.forgotten s.pending
  exact ⟨(congrArg ContextState.runtime hsame :), (congrArg ContextState.forgotten hsame :),
    (congrArg ContextState.pending hsame :)⟩

/-- A relation of worlds that holds on when one of its contexts is changed in the first world and another in the second.
The two are the same inside, but for the texts that some questions are about. -/
structure Likeness (P : Guest.Query → Prop) (c c' : ContextId) (R : World → World → Prop) : Prop where
  same {w w' : World} (h : R w w') :
    ∃ runtime forgotten pending, w'.context c' = { w.context c with runtime, forgotten, pending }
  remembers {w w' : World} (h : R w w') {n : Nat} (hn : ¬ P (.remembersTexts n)) :
    n ∈ (w'.context c').forgotten ↔ n ∈ (w.context c).forgotten
  entered {w w' : World} (h : R w w') : (w'.runtimeOf c').entered = (w.runtimeOf c).entered
  change {w w' v v' : World} {f : ContextState → ContextState} (h : R w w') (hf : ContextState.Inner f)
    (hv : w.Changes c f v) (hv' : w'.Changes c' f v') : R v v'
  forget {w w' : World} (h : R w w') (n : Nat) :
    R (w.modifyContext c fun s => { s with forgotten := n :: s.forgotten })
      (w'.modifyContext c' fun s => { s with forgotten := n :: s.forgotten })
  setEntered {w w' : World} (h : R w w') (b : Bool) :
    R (w.modifyRuntime (w.context c).runtime fun r => { r with entered := b })
      (w'.modifyRuntime (w'.context c').runtime fun r => { r with entered := b })
  of_same {w w' v v' : World} (h : R w w') (hruntimes : v.runtimes = w.runtimes) (hcontexts : v.contexts = w.contexts)
    (hruntimes' : v'.runtimes = w'.runtimes) (hcontexts' : v'.contexts = w'.contexts) : R v v'

namespace Likeness

variable {P : Guest.Query → Prop} {c c' : ContextId} {R : World → World → Prop} {w w' : World} (h : Likeness P c c' R)
  (hw : R w w')
include h hw

theorem contextObstacle? : w'.contextObstacle? c' = w.contextObstacle? c := by
  obtain ⟨_, _, _, hsame⟩ := h.same hw
  rw [World.contextObstacle?, World.contextObstacle?, h.entered hw, hsame]

theorem modifyContext {f : ContextState → ContextState} (hf : ContextState.Inner f)
    (hreleased : ∀ s, (f s).isReleased = s.isReleased) : R (w.modifyContext c f) (w'.modifyContext c' f) := by
  have hhome (s : ContextState) : (f s).runtime = s.runtime ∧ (f s).isReleased = s.isReleased :=
    ⟨(hf.keeps s).1, hreleased s⟩
  exact h.change hw hf (.modifyContext w c hhome) (.modifyContext w' c' hhome)

theorem setMachine (m : Guest.Machine) : R (w.setMachine c m) (w'.setMachine c' m) :=
  h.modifyContext hw (fun _ _ _ _ => rfl) fun _ => rfl

theorem enter : R (w.enter c) (w'.enter c') := h.setEntered hw true

theorem lendRegistry : R (w.lendRegistry c) (w'.lendRegistry c') := h.of_same hw rfl rfl rfl rfl

theorem takeBackRegistry : R (w.takeBackRegistry c) (w'.takeBackRegistry c') := h.of_same hw rfl rfl rfl rfl

theorem report (e e' : Event) : R (w.report e) (w'.report e') := h.of_same hw rfl rfl rfl rfl

theorem beginCall (g : Handle) : (w'.beginCall c' g).1 = (w.beginCall c g).1 ∧
    R (w.beginCall c g).2 (w'.beginCall c' g).2 := by
  obtain ⟨_, _, _, hsame⟩ := h.same hw
  simp only [World.beginCall, hsame]
  split
  · exact ⟨rfl, h.modifyContext hw (fun _ _ _ _ => rfl) fun _ => rfl⟩
  · exact ⟨rfl, hw⟩

theorem pin (v : Guest.Value) : (w'.pin c' v).1 = (w.pin c v).1 ∧ R (w.pin c v).2 (w'.pin c' v).2 := by
  obtain ⟨_, _, _, hsame⟩ := h.same hw
  simp only [World.pin, hsame]
  exact ⟨trivial, h.modifyContext hw (fun _ _ _ _ => rfl) fun _ => rfl⟩

variable [Guest.Collector]

theorem reap : R (w.reap c) (w'.reap c') :=
  h.change (f := fun s => s.reaped) hw (fun _ _ _ _ => rfl) ⟨w.life_reap c, fun _ => w.context_reap⟩
    ⟨w'.life_reap c', fun _ => w'.context_reap⟩

theorem makeCall (call : PendingCall) : R (w.makeCall c call) (w'.makeCall c' call) :=
  h.modifyContext (f := fun s => { s with begun := s.begun.erase call }) (h.reap hw) (fun _ _ _ _ => rfl) fun _ => rfl

theorem register (f : HostFn) : (w'.register c' f).1 = (w.register c f).1 ∧ R (w.register c f).2 (w'.register c' f).2 := by
  have hreap := h.reap hw
  obtain ⟨_, _, _, hsame⟩ := h.same hw
  obtain ⟨_, _, _, hsame'⟩ := h.same hreap
  simp only [World.register, hsame, hsame']
  split
  · exact ⟨rfl, hw⟩
  · split
    · refine ⟨rfl, h.report ?_ _ _⟩
      exact h.modifyContext hreap (fun _ _ _ _ => rfl) fun _ => rfl
    · exact ⟨rfl, hreap⟩

theorem answer {q : Guest.Query} (hq : ¬ P q) : (w'.answer c' q).1 = (w.answer c q).1 ∧
    R (w.answer c q).2 (w'.answer c' q).2 := by
  obtain ⟨_, _, _, hsame⟩ := h.same hw
  cases q with
  | isReleased | unmapped | pinned => exact ⟨by simp only [World.answer, hsame], hw⟩
  | register f => exact h.register hw f
  | pin v => exact h.pin hw v
  | beginCall g => exact h.beginCall hw g
  | dropCall => exact ⟨rfl, h.modifyContext hw (fun _ _ _ _ => rfl) fun _ => rfl⟩
  | forgetTexts n => exact ⟨rfl, h.forget hw n⟩
  | remembersTexts n => exact ⟨by simp only [World.answer, List.contains_eq_mem, h.remembers hw hq], hw⟩
  | report e => exact ⟨rfl, h.report (h.reap hw) _ _⟩

theorem leave : R (w.leave c) (w'.leave c') := by
  have hrest := h.modifyContext (f := fun s => { s with machine := s.machine.atRest, begun := [] }) hw
    (fun _ _ _ _ => rfl) fun _ => rfl
  have hhome (v : World) (d : ContextId) : ((v.reap d).context d).runtime = (v.context d).runtime :=
    World.home_of_life (v.life_reap d) d
  have hleave := h.setEntered (h.reap hrest) false
  rwa [hhome, hhome] at hleave

end Likeness

/-- Likeness of contexts of which the second one may forget the texts of a program, and that keep the same results. -/
structure TextLikeness [Guest.Collector] (n : Nat) (c c' : ContextId) (R : World → World → Prop) : Prop
    extends Likeness (· = .remembersTexts n) c c' R where
  forgetting {w w' : World} (h : R w w') : R w (w'.modifyContext c' fun s => { s with forgotten := n :: s.forgotten })
  dropPending {w w' : World} (h : R w w') : R (w.dropPending c) (w'.dropPending c')
  keep {w w' : World} (h : R w w') (pin : Nat) : R (w.modifyContext c fun s => { s with pending := some ⟨c, pin⟩ })
    (w'.modifyContext c' fun s => { s with pending := some ⟨c', pin⟩ })

variable [Guest.Collector] {σ α : Type}

/-- Work comes out in the same way, in worlds that are related. -/
structure Agree {ρ : Type} (R : World → World → Prop) (r r' : (ρ × World) × σ) : Prop where
  result : r'.1.1 = r.1.1
  state : r'.2 = r.2
  world : R r.1.2 r'.1.2

/-- The functions of the host do the same in worlds that are related. -/
structure Handler.Blind (handler : Handler σ) (R : World → World → Prop) : Prop where
  call : ∀ (f : HostFn) (args : List Native) (w w' : World) (s : σ), R w w' →
    Agree R (handler.call f args w s) (handler.call f args w' s)
  drop : ∀ (f : HostFn) (w w' : World) (s : σ), R w w' → Agree R (handler.drop f w s) (handler.drop f w' s)

section

variable (handler : Handler σ) (c : ContextId) (P : Guest.Query → Prop)

/-- Whether a run asks certain questions on the way that it takes. -/
def Handler.Asks : Guest.Run (Except Error α) → World → σ → Prop
  | .done _ _, _, _ | .threw _ _, _, _ | .stopped _ _, _, _ => False
  | .ask q m resume, w, s =>
    P q ∨ match q.refused? ((w.setMachine c m).answer c q).1 with
      | some f =>
        Asks (resume ((w.setMachine c m).answer c q).1)
          ((handler.drop f (((w.setMachine c m).answer c q).2.lendRegistry c) s).1.2.takeBackRegistry c)
          (handler.drop f (((w.setMachine c m).answer c q).2.lendRegistry c) s).2
      | none => Asks (resume ((w.setMachine c m).answer c q).1) ((w.setMachine c m).answer c q).2 s
  | .call call args m resume, w, s =>
    Asks (resume (handler.call call.function args ((w.setMachine c m).makeCall c call) s).1.1)
      (handler.call call.function args ((w.setMachine c m).makeCall c call) s).1.2
      (handler.call call.function args ((w.setMachine c m).makeCall c call) s).2

/-- Whether work asks certain questions, done inside a context. -/
def ContextId.Asks (x : Guest.Bridge α) (w : World) (s : σ) : Prop :=
  handler.Asks c P (x.caught.run Guest.Engine.standard (w.machineFor c)) (w.enter c) s

end

variable {handler : Handler σ} {P : Guest.Query → Prop} {c c' : ContextId} {R : World → World → Prop} {w w' : World} {s : σ}

theorem Handler.asks_ask {q : Guest.Query} {m : Guest.Machine} {resume : q.Reply → Guest.Run (Except Error α)}
    (hq : ∀ f, q ≠ .register f := by intro _ h; cases h) : handler.Asks c P (.ask q m resume) w s ↔
      P q ∨ handler.Asks c P (resume ((w.setMachine c m).answer c q).1) ((w.setMachine c m).answer c q).2 s := by
  rw [Handler.Asks, Guest.Query.refused_eq_none hq]

theorem Handler.not_asks_false {run : Guest.Run (Except Error α)} : ¬ handler.Asks c (fun _ => False) run w s := by
  induction run generalizing w s with
  | done a m | threw v m | stopped why m => exact id
  | ask q m resume ih =>
    rw [Handler.Asks, false_or]
    split
    · exact ih _
    · exact ih _
  | call call args m resume ih => exact ih _

namespace Likeness

variable (h : Likeness P c c' R) (hblind : handler.Blind R) (hw : R w w')
include h hblind hw

theorem follow {run : Guest.Run (Except Error α)} (hasks : ¬ handler.Asks c P run w s) :
    Agree R (handler.follow c run w s) (handler.follow c' run w' s) := by
  induction run generalizing w w' s with
  | done a m | threw v m | stopped why m => exact ⟨rfl, rfl, h.setMachine hw m⟩
  | ask q m resume ih =>
    rw [Handler.Asks] at hasks
    obtain ⟨hq, hrest⟩ := not_or.mp hasks
    obtain ⟨hreply, hanswer⟩ := h.answer (h.setMachine hw m) hq
    cases hrefused : q.refused? ((w.setMachine c m).answer c q).1 with
    | none =>
      rw [hrefused] at hrest
      rw [follow_ask_of_kept handler c s m resume hrefused,
        follow_ask_of_kept handler c' s m resume (hreply.symm ▸ hrefused), hreply]
      exact ih _ hanswer hrest
    | some f =>
      rw [hrefused] at hrest
      obtain ⟨-, hstate, hworld⟩ := hblind.drop f _ _ s (h.lendRegistry hanswer)
      rw [follow_ask_of_refused handler c s m resume hrefused,
        follow_ask_of_refused handler c' s m resume (hreply.symm ▸ hrefused), hreply, hstate]
      exact ih _ (h.takeBackRegistry hworld) hrest
  | call call args m resume ih =>
    obtain ⟨hreply, hstate, hworld⟩ := hblind.call call.function args _ _ s (h.makeCall (h.setMachine hw m) call)
    rw [follow_call, follow_call, hreply, hstate]
    exact ih _ hworld hasks

theorem inside {x : Guest.Bridge α} (hmachine : w'.machineFor c' = w.machineFor c) (hasks : ¬ c.Asks handler P x w s) :
    Agree R ((c.inside x).run handler w s) ((c'.inside x).run handler w' s) := by
  have hobstacle' := h.contextObstacle? hw
  cases hobstacle : w.contextObstacle? c with
  | some e =>
    rw [inside_of_obstacle handler s _ hobstacle, inside_of_obstacle handler s _ (hobstacle'.trans hobstacle)]
    exact ⟨rfl, rfl, hw⟩
  | none =>
    obtain ⟨hresult, hstate, hworld⟩ := h.follow hblind (h.enter hw) hasks
    rw [inside_of_free handler s _ hobstacle, inside_of_free handler s _ (hobstacle'.trans hobstacle), hmachine]
    exact ⟨hresult, hstate, h.leave hworld⟩

end Likeness

theorem follow_setMachine (run : Guest.Run (Except Error α)) (w : World) (s : σ) (m : Guest.Machine) :
    handler.follow c run (w.setMachine c m) s = handler.follow c run w s := by
  have hset (m' : Guest.Machine) := w.setMachine_setMachine c m m'
  cases run with
  | done a m' => exact congrArg (fun w' => ((a, w'), s)) (hset m')
  | threw v m' | stopped why m' => exact congrArg (fun w' => ((Except.error (Error.engine .interrupted), w'), s)) (hset m')
  | ask q m' resume => simp only [Handler.follow, bind, StateT.bind, modify, modifyGet, MonadStateOf.modifyGet, StateT.modifyGet, pure, hset]
  | call call args m' resume => rw [follow_call, follow_call, hset]

theorem asks_setMachine (run : Guest.Run (Except Error α)) (w : World) (s : σ) (m : Guest.Machine) :
    handler.Asks c P run (w.setMachine c m) s ↔ handler.Asks c P run w s := by
  have hset (m' : Guest.Machine) := w.setMachine_setMachine c m m'
  cases run with
  | done a m' | threw v m' | stopped why m' => exact Iff.rfl
  | ask q' m' resume | call begun args m' resume => rw [Handler.Asks, Handler.Asks, hset]

end Embedding
