import Embedding.Proofs.Handlers
import Embedding.Proofs.Runs
import Embedding.World.Object

namespace Embedding

variable {σ α β : Type} [Guest.Collector] {handler : Handler σ} {w : World} {c : ContextId} {s : σ}

theorem World.live_answer (hopen : (w.context c).isReleased = false) (q : Guest.Query) : q.Live (w.answer c q).1 := by
  cases q with
  | isReleased => exact hopen
  | _ => trivial

namespace Guest

theorem Run.Ends.follow (handler : Handler σ) (s : σ) {run : Run (Except Error α)} {post : Except Error α → Machine → Prop} (h : run.Ends post)
    (hopen : (w.context c).isReleased = false) : ∃ (a : Except Error α) (m : Machine) (w' : World),
      handler.follow c run w s = ((a, w'.setMachine c m), s) ∧ post a m ∧ w'.life = w.life := by
  induction run generalizing w with
  | done a m => exact ⟨a, m, w, rfl, h, rfl⟩
  | threw v m => exact h.elim
  | stopped why m => exact h.elim
  | ask q m resume ih =>
    have hset : ((w.setMachine c m).context c).isReleased = false := by
      rw [World.isReleased_of_life (World.life_setMachine w c m)]
      exact hopen
    have hlife := ((w.setMachine c m).life_answer c q).trans (w.life_setMachine c m)
    have hopen' : (((w.setMachine c m).answer c q).2.context c).isReleased = false := by
      rw [World.isReleased_of_life hlife]
      exact hopen
    obtain ⟨a, m', w', hfollow, hpost, hlife'⟩ := ih _ (h.2 _ (World.live_answer hset q)) hopen'
    exact ⟨a, m', w', (follow_ask handler c s m resume h.1).trans hfollow, hpost, hlife'.trans hlife⟩
  | call begun args m resume ih => exact h.elim

omit [Guest.Collector] in
theorem Bridge.Ends.caught {x : Bridge α} {e : Engine} {m : Machine} {P : α → Machine → Prop} (h : x.Ends e m P) :
    x.caught.Ends e m P :=
  Run.Ends.orElse h

theorem Run.exists_gives_of_follow {run : Run (Except Error α)} {a : α}
    (h : (handler.follow c run w s).1.1 = .ok a) : ∃ log m, run.Gives log (.ok a) m := by
  induction run generalizing w s with
  | done b m =>
    cases h
    exact ⟨[], m, .done⟩
  | threw v m => cases h
  | stopped why m => cases h
  | ask q m resume ih =>
    cases hrefused : q.refused? ((w.setMachine c m).answer c q).1 with
    | none =>
      rw [follow_ask_of_kept handler c s m resume hrefused] at h
      obtain ⟨log, m', hgives⟩ := ih _ h
      exact ⟨_, m', .ask hgives⟩
    | some f =>
      rw [follow_ask_of_refused handler c s m resume hrefused] at h
      obtain ⟨log, m', hgives⟩ := ih _ h
      exact ⟨_, m', .ask hgives⟩
  | call call args m resume ih =>
    rw [follow_call] at h
    obtain ⟨log, m', hgives⟩ := ih _ h
    exact ⟨_, m', .call hgives⟩

end Guest

def Attempt.result (handler : Handler σ) (w : World) (s : σ) (x : Attempt σ α) : Except Error α := (x.run handler w s).1.1

omit [Guest.Collector] in
theorem Attempt.result_bind_of_error {x : Attempt σ α} {err : Error} (h : x.result handler w s = .error err)
    (f : α → Attempt σ β) : (x >>= f).result handler w s = .error err := by
  unfold Attempt.result at *
  rw [run_bind]
  rcases hx : x.run handler w s with ⟨⟨e | a, w'⟩, s'⟩
  · rw [hx] at h
    exact congrArg Except.error (Except.error.inj h)
  · rw [hx] at h
    cases h

omit [Guest.Collector] in
theorem Attempt.result_bind {x : Attempt σ α} {a : α} (h : x.result handler w s = .ok a) (f : α → Attempt σ β) :
    (x >>= f).result handler w s = (f a).result handler (x.run handler w s).1.2 (x.run handler w s).2 := by
  unfold Attempt.result at *
  rw [run_bind]
  rcases hx : x.run handler w s with ⟨⟨b | e, w'⟩, s'⟩
  · rw [hx] at h
    cases h
  · rw [hx] at h
    cases h
    rfl

/-- The machine when the host has taken up a value. -/
def Guest.Machine.heldOn (m : Guest.Machine) (x : Guest.Value) : Guest.Machine :=
  { m with roots := .value x :: m.roots }

section Value

variable {v : ValueRef} {x : Guest.Value} {f : Guest.Value → Guest.Bridge α}

/-- The world when the host has taken up a value. -/
def ValueRef.entered (w : World) (v : ValueRef) : World :=
  (w.enter v.context).setMachine v.context (w.machineFor v.context)

variable (hfree : w.contextObstacle? v.context = none) (hpin : (w.context v.context).pins.find? v.pin = some x)
include hfree hpin

theorem ValueRef.run_inside (handler : Handler σ) (s : σ) : (v.inside f).run handler w s =
    (((handler.follow v.context ((f x).caught.run Guest.Engine.standard ((w.machineFor v.context).heldOn x))
        (v.entered w) s).1.1,
      (handler.follow v.context ((f x).caught.run Guest.Engine.standard ((w.machineFor v.context).heldOn x))
        (v.entered w) s).1.2.leave v.context),
      (handler.follow v.context ((f x).caught.run Guest.Engine.standard ((w.machineFor v.context).heldOn x))
        (v.entered w) s).2) := by
  have hanswer : (v.entered w).answer v.context (.pinned v.pin) = (some x, v.entered w) := by
    rw [World.answer, ValueRef.entered, World.setMachine, World.context_modifyContext]
    split <;> exact Prod.ext hpin rfl
  have hrun : handler.follow v.context ((do
      let y ← Guest.Bridge.pinned v.pin
      Guest.Bridge.hold y
      f y : Guest.Bridge α).caught.run Guest.Engine.standard (w.machineFor v.context)) (w.enter v.context) s =
      handler.follow v.context ((f x).caught.run Guest.Engine.standard ((w.machineFor v.context).heldOn x))
        (v.entered w) s := by
    refine (follow_ask (q := .pinned v.pin) handler v.context s _ _).trans ?_
    rw [← ValueRef.entered, hanswer]
    rfl
  unfold ValueRef.inside
  rw [inside_of_free handler s _ hfree, hrun]

theorem ValueRef.result_inside (handler : Handler σ) (s : σ) : (v.inside f).result handler w s = (handler.follow v.context
    ((f x).caught.run Guest.Engine.standard ((w.machineFor v.context).heldOn x)) (v.entered w) s).1.1 ∧
    ((v.inside f).run handler w s).2 = (handler.follow v.context
      ((f x).caught.run Guest.Engine.standard ((w.machineFor v.context).heldOn x)) (v.entered w) s).2 := by
  rw [Attempt.result, ValueRef.run_inside hfree hpin]
  exact ⟨rfl, rfl⟩

theorem ValueRef.inside_of_ends (handler : Handler σ) (s : σ) {P : α → Guest.Machine → Prop}
    (h : (f x).Ends Guest.Engine.standard ((w.machineFor v.context).heldOn x) P) :
    ∃ a m, (v.inside f).result handler w s = .ok a ∧ P a m ∧ ((v.inside f).run handler w s).2 = s := by
  have hopen : ((v.entered w).context v.context).isReleased = false := by
    rw [ValueRef.entered, World.isReleased_of_life (World.life_setMachine ..)]
    exact (World.contextObstacle_eq_none.mp hfree).1
  obtain ⟨_, m', w', hfollow, ⟨a, rfl, ha⟩, -⟩ := h.caught.follow handler s hopen
  obtain ⟨hresult, hstate⟩ := ValueRef.result_inside (f := f) hfree hpin handler s
  rw [hresult, hstate, hfollow]
  exact ⟨a, m', rfl, ha, rfl⟩

omit hpin in
theorem ValueRef.insideObject_of_ends {o : Guest.ObjectId} {g : Guest.ObjectId → Guest.Bridge α}
    (hpin : (w.context v.context).pins.find? v.pin = some (.object o)) (handler : Handler σ) (s : σ)
    {P : α → Guest.Machine → Prop}
    (h : (g o).Ends Guest.Engine.standard ((w.machineFor v.context).heldOn (.object o)) P) :
    ∃ a m, (v.insideObject g).result handler w s = .ok a ∧ P a m ∧ ((v.insideObject g).run handler w s).2 = s :=
  ValueRef.inside_of_ends hfree hpin handler s h

theorem ValueRef.exists_gives_of_inside {a : α} (h : (v.inside f).result handler w s = .ok a) :
    ∃ log m, ((f x).run Guest.Engine.standard ((w.machineFor v.context).heldOn x)).Gives log (.ok a) m := by
  rw [(ValueRef.result_inside hfree hpin handler s).1] at h
  obtain ⟨log, m, hgives⟩ := Guest.Run.exists_gives_of_follow h
  exact ⟨log, m, Guest.Bridge.gives_caught hgives⟩

end Value

end Embedding
