import Embedding.Proofs.OpenContexts

namespace Embedding

variable {σ α : Type} [Guest.Collector]

/-- What a handler does is a play. The contexts that the host has are told from its state. -/
structure Handler.Plays (handler : Handler σ) (held : σ → List ContextId) : Prop where
  call : ∀ (f : HostFn) (args : List Native) (w : World) (s : σ) (work : List Activity),
    Position.HostMoves ⟨w, held s, work⟩ →
    ∃ ms, Play ⟨w, held s, work⟩ ms
      ⟨(handler.call f args w s).1.2, held (handler.call f args w s).2, work⟩
  drop : ∀ (f : HostFn) (w : World) (s : σ) (work : List Activity), Position.HostMoves ⟨w, held s, work⟩ →
    ∃ ms, Play ⟨w, held s, work⟩ ms ⟨(handler.drop f w s).1.2, held (handler.drop f w s).2, work⟩

omit [Guest.Collector] in
theorem Guest.Query.refused_eq_none {q : Query} (hq : ∀ f, q ≠ .register f) (reply : q.Reply) : q.refused? reply = none := by
  cases q with
  | register f => exact absurd rfl (hq f)
  | _ => rfl

section Equations

variable (handler : Handler σ) (c : ContextId) {w : World} (s : σ)

section

variable {q : Guest.Query} (m : Guest.Machine) (resume : q.Reply → Guest.Run (Except Error α))

theorem follow_ask_of_kept (hkept : q.refused? ((w.setMachine c m).answer c q).1 = none) :
    handler.follow c (.ask q m resume) w s =
      handler.follow c (resume ((w.setMachine c m).answer c q).1) ((w.setMachine c m).answer c q).2 s := by
  have hpure {β : Type} (b : β) : (pure b : StateM σ β) s = (b, s) := rfl
  rw [Handler.follow]
  simp only [bind, StateT.bind, modify, modifyGet, MonadStateOf.modifyGet, StateT.modifyGet, hpure, hkept]

theorem follow_ask_of_refused {f : HostFn} (hrefused : q.refused? ((w.setMachine c m).answer c q).1 = some f) :
    handler.follow c (.ask q m resume) w s =
      handler.follow c (resume ((w.setMachine c m).answer c q).1)
        ((handler.drop f (((w.setMachine c m).answer c q).2.lendRegistry c) s).1.2.takeBackRegistry c)
        (handler.drop f (((w.setMachine c m).answer c q).2.lendRegistry c) s).2 := by
  have hpure {β : Type} (b : β) (s : σ) : (pure b : StateM σ β) s = (b, s) := rfl
  rw [Handler.follow]
  simp only [bind, StateT.bind, modify, modifyGet, MonadStateOf.modifyGet, StateT.modifyGet, hpure, hrefused]
  rfl

theorem follow_ask (hq : ∀ f, q ≠ .register f := by intro _ h; cases h) : handler.follow c (.ask q m resume) w s =
    handler.follow c (resume ((w.setMachine c m).answer c q).1) ((w.setMachine c m).answer c q).2 s :=
  follow_ask_of_kept handler c s m resume (Guest.Query.refused_eq_none hq _)

end

theorem follow_call (call : PendingCall) (args : List Native) (m : Guest.Machine)
    (resume : Except String Native → Guest.Run (Except Error α)) :
    handler.follow c (.call call args m resume) w s =
      handler.follow c (resume (handler.call call.function args ((w.setMachine c m).makeCall c call) s).1.1)
        (handler.call call.function args ((w.setMachine c m).makeCall c call) s).1.2
        (handler.call call.function args ((w.setMachine c m).makeCall c call) s).2 := rfl

variable {c} (x : Guest.Bridge α)

theorem inside_of_obstacle {e : Error} (h : w.contextObstacle? c = some e) :
    (c.inside x).run handler w s = ((.error e, w), s) := by
  apply run_bind_of_error
  unfold ContextId.requireEntry
  rw [run_getThe, h]
  rfl

theorem inside_of_free (h : w.contextObstacle? c = none) : (c.inside x).run handler w s =
    (((handler.follow c (x.caught.run Guest.Engine.standard (w.machineFor c)) (w.enter c) s).1.1,
      (handler.follow c (x.caught.run Guest.Engine.standard (w.machineFor c)) (w.enter c) s).1.2.leave c),
      (handler.follow c (x.caught.run Guest.Engine.standard (w.machineFor c)) (w.enter c) s).2) := by
  unfold ContextId.inside
  have hentry : (c.requireEntry : Attempt σ Unit).run handler w s = ((.ok (), w), s) := by
    unfold ContextId.requireEntry
    rw [run_getThe, h]
    rfl
  rw [run_bind, hentry]
  rfl

end Equations

section Follow

variable {handler : Handler σ} {held : σ → List ContextId} (hplays : handler.Plays held)
include hplays

theorem Handler.Plays.follow (c : ContextId) (work : List Activity) (run : Guest.Run (Except Error α)) (w : World)
    (s : σ) : ∃ ms w' run' m, Guest.Run.final? run' = some m ∧ ((handler.follow c run w s).1.2 = w'.setMachine c m) ∧
      Play ⟨w, held s, .running c run :: work⟩ ms
        ⟨w', held (handler.follow c run w s).2, .running c (run' : Guest.Run (Except Error α)) :: work⟩ := by
  induction run generalizing w s with
  | done a m => exact ⟨[], w, .done a m, m, rfl, rfl, .nil⟩
  | threw v m => exact ⟨[], w, .threw v m, m, rfl, rfl, .nil⟩
  | stopped why m => exact ⟨[], w, .stopped why m, m, rfl, rfl, .nil⟩
  | ask q m resume ih =>
    cases hrefused : q.refused? ((w.setMachine c m).answer c q).1 with
    | none =>
      obtain ⟨ms, w', run', m', hend, hworld, hplay⟩ :=
        ih ((w.setMachine c m).answer c q).1 ((w.setMachine c m).answer c q).2 s
      rw [follow_ask_of_kept handler c s m resume hrefused]
      exact ⟨_, w', run', m', hend, hworld, (Play.one .answer).append hplay⟩
    | some f =>
      rw [follow_ask_of_refused handler c s m resume hrefused]
      generalize hlent : ((w.setMachine c m).answer c q).2.lendRegistry c = w₁
      obtain ⟨ns, hdrop⟩ := hplays.drop f w₁ s (.dropping c (resume ((w.setMachine c m).answer c q).1) :: work) trivial
      obtain ⟨ms, w', run', m', hend, hworld, hplay⟩ := ih ((w.setMachine c m).answer c q).1
        ((handler.drop f w₁ s).1.2.takeBackRegistry c) (handler.drop f w₁ s).2
      have hrefuse : Step ⟨w, held s, .running c (.ask q m resume) :: work⟩ _ _ := .refuse (by rw [hrefused]; rfl)
      rw [hlent] at hrefuse
      exact ⟨_, w', run', m', hend, hworld, ((Play.one hrefuse).append hdrop).append ((Play.one .dropped).append hplay)⟩
  | call call args m resume ih =>
    generalize hmade : (w.setMachine c m).makeCall c call = w₁
    obtain ⟨ns, hcall⟩ := hplays.call call.function args w₁ s (.waiting c resume :: work) trivial
    obtain ⟨ms, w', run', m', hend, hworld, hplay⟩ := ih (handler.call call.function args w₁ s).1.1
      (handler.call call.function args w₁ s).1.2 (handler.call call.function args w₁ s).2
    have hbegin : Step ⟨w, held s, .running c (.call call args m resume) :: work⟩ _ _ := .call
    rw [hmade] at hbegin
    rw [follow_call, hmade]
    exact ⟨_, w', run', m', hend, hworld, ((Play.one hbegin).append hcall).append ((Play.one (.reply _)).append hplay)⟩

theorem Handler.Plays.inside {c : ContextId} (x : Guest.Bridge α) {w : World} {s : σ} {work : List Activity}
    (hc : c.index < w.contexts.size) (hturn : Position.HostMoves ⟨w, held s, work⟩) :
    ∃ ms, Play ⟨w, held s, work⟩ ms
      ⟨((c.inside x).run handler w s).1.2, held ((c.inside x).run handler w s).2, work⟩ := by
  cases hobstacle : w.contextObstacle? c with
  | some e =>
    rw [inside_of_obstacle handler s x hobstacle]
    exact ⟨[], .nil⟩
  | none =>
    obtain ⟨ms, w', run', m, hend, hworld, hplay⟩ :=
      hplays.follow c work (x.caught.run Guest.Engine.standard (w.machineFor c)) (w.enter c) s
    rw [inside_of_free handler s x hobstacle, hworld]
    exact ⟨_, ((Play.one (.enter x hturn hc hobstacle)).append hplay).append (.one (.leave hend))⟩

end Follow

end Embedding
