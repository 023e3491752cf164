import Embedding.Proofs.Lifecycle

namespace Embedding

section Answers

variable {σ α β : Type} (handler : Handler σ) (w : World) (s : σ) (r : RuntimeId)

theorem run_bind (x : Attempt σ α) (f : α → Attempt σ β) : (x >>= f).run handler w s =
    match x.run handler w s with
    | ((.ok a, w), s) => (f a).run handler w s
    | ((.error e, w), s) => ((.error e, w), s) := by
  rw [ExceptT.run_bind]
  rcases h : x.run handler w s with ⟨⟨a | e, w'⟩, s'⟩
  · simp only [bind, ReaderT.bind, StateT.bind, h]
    rfl
  · simp only [bind, ReaderT.bind, StateT.bind, h]

theorem run_bind_of_error {x : Attempt σ α} {e : Error} {w' : World} {s' : σ}
    (hx : x.run handler w s = ((.error e, w'), s')) (f : α → Attempt σ β) :
    (x >>= f).run handler w s = ((.error e, w'), s') := by
  rw [run_bind, hx]

theorem run_getThe (f : World → Attempt σ β) : (getThe World >>= f).run handler w s = (f w).run handler w s := by
  rw [run_bind]
  rfl

theorem run_modifyGetThe (f : World → α × World) :
    (modifyGetThe World f : Attempt σ α).run handler w s = ((.ok (f w).1, (f w).2), s) := rfl

theorem newContext_run : (r.newContext : Attempt σ ContextId).run handler w s =
    match w.newContextObstacle? r with
    | some e => ((.error e, w), s)
    | none => ((.ok (w.addContext r).1, (w.addContext r).2), s) := by
  unfold RuntimeId.newContext
  rw [run_getThe]
  generalize w.newContextObstacle? r = o
  cases o with
  | some e => rfl
  | none => exact run_modifyGetThe handler w s _

theorem requireEngine_run : (r.requireEngine : Attempt σ Unit).run handler w s =
    match w.runtimeObstacle? r with
    | some e => ((.error e, w), s)
    | none => ((.ok (), w), s) := by
  unfold RuntimeId.requireEngine
  rw [run_getThe]
  cases w.runtimeObstacle? r <;> rfl

theorem runtimeObstacle_of_freed {w : World} {r : RuntimeId} (h : (w.runtime r).freed = true) :
    w.runtimeObstacle? r = some (.freed .runtime) := by
  simp [World.runtimeObstacle?, h]

/-- What a runtime answers once it is freed. -/
structure AnswersFreed : Prop where
  newContext : (r.newContext : Attempt σ ContextId).run handler w s = ((.error (.freed .runtime), w), s)
  collect : (r.collect : Attempt σ Unit).run handler w s = ((.error (.freed .runtime), w), s)
  memoryUsage : (r.memoryUsage : Attempt σ MemoryUsage).run handler w s = ((.error (.freed .runtime), w), s)

theorem answersFreed_of_freed (h : (w.runtime r).freed = true) : AnswersFreed handler w s r := by
  have hobstacle := runtimeObstacle_of_freed h
  constructor
  · rw [newContext_run, World.newContextObstacle?, hobstacle]
  · apply run_bind_of_error
    rw [requireEngine_run, hobstacle]
  · apply run_bind_of_error
    rw [requireEngine_run, hobstacle]

end Answers

/-- The books of one runtime between moves. -/
structure RuntimeInOrder (p : Position) (r : RuntimeId) : Prop where
  counts : (p.world.runtime r).openContexts = (p.world.openContextsOf r).length
  /-- To release one of them takes one from a count that is not zero. -/
  positive : ∀ c ∈ p.world.openContextsOf r, 0 < (p.world.runtime r).openContexts
  parked : (∀ c ∈ (p.world.runtime r).parked, c ∈ p.world.openContextsOf r) ∧ (p.world.runtime r).parked.Nodup
  /-- Also while a free drains what was parked, each context is open and counted until its turn comes. -/
  drains : (p.world.runtime r).freed = false → ∀ ds c es, (p.world.runtime r).parked = ds ++ c :: es →
    c ∈ (ds.foldl World.release (p.world.closeRuntime r)).openContextsOf r ∧
    0 < ((ds.foldl World.release (p.world.closeRuntime r)).runtime r).openContexts ∧
    ((ds.foldl World.release (p.world.closeRuntime r)).runtime r).openContexts =
      ((ds.foldl World.release (p.world.closeRuntime r)).openContextsOf r).length
  /-- The engine is gone when the runtime is freed and no context is open, and only then. -/
  engine : (p.world.runtime r).hasEngine = false ↔
    (p.world.runtime r).freed = true ∧ (p.world.runtime r).openContexts = 0
  /-- Engines have been released as often as there are runtimes without one. -/
  releases : p.world.engineReleases = p.world.runtimes.countP fun s => !s.hasEngine
  /-- A runtime that is freed stays so, and one without an engine does not get another. -/
  lasting : ∀ {ms : List (Position × Move)} {q : Position}, Play p ms q →
    ((p.world.runtime r).freed = true → (q.world.runtime r).freed = true) ∧
    ((p.world.runtime r).hasEngine = false → (q.world.runtime r).hasEngine = false)
  refusal : ∀ {σ : Type} (handler : Handler σ) (s s' : σ) (e : Error) (w' : World),
    (r.newContext : Attempt σ ContextId).run handler p.world s = ((.error e, w'), s') → w' = p.world ∧ s' = s
  freed : (p.world.runtime r).freed = true → ∀ {σ : Type} (handler : Handler σ) (s : σ),
    AnswersFreed handler p.world s r
  /-- An open context has its engine and can be entered, unless work is under way in its runtime. -/
  works : ∀ c ∈ p.world.openContextsOf r, (p.world.runtime r).hasEngine = true ∧
    ((∀ a ∈ p.work, (p.world.context a.context).runtime ≠ r) → p.world.contextObstacle? c = none)

/-- Whatever a host does, all its runtimes are in order. -/
theorem Position.Reachable.runtimeInOrder {p : Position} (hp : p.Reachable) {r : RuntimeId}
    (hr : r.index < p.world.runtimes.size) : RuntimeInOrder p r where
  counts := hp.books.counted r
  positive c hc := hp.books.openContexts_pos hc
  parked := ⟨fun c hc => (hp.books.parked_open r c hc).1, hp.books.parked_nodup r⟩
  drains hopen ds c es hparked := by
    have hclosed := hp.books.closeRuntime hr hopen
    rw [hparked] at hclosed
    have hdrained := hclosed.drain
    have hhome : ((ds.foldl World.release (p.world.closeRuntime r)).context c).runtime = r := by
      have hc := (p.world.mem_openContextsOf r c).mp (hp.books.parked_open r c (by simp [hparked])).1
      rw [((World.Ages.closeRuntime p.world r).trans (World.Ages.drain _ ds)).home c hc.1]
      exact hc.2.1
    have hc := (hdrained.draining_open c List.mem_cons_self).1
    rw [hhome] at hc
    exact ⟨hc, hdrained.openContexts_pos hc, hdrained.counted r⟩
  engine := ⟨hp.books.engine_gone r, fun h => hp.books.engine_goes r nofun h.1 h.2⟩
  releases := hp.books.engines
  lasting hplay := ⟨hplay.freed, hplay.engine_gone⟩
  refusal handler s s' e w' hrun := by
    rw [newContext_run] at hrun
    split at hrun
    · cases hrun
      exact ⟨rfl, rfl⟩
    · cases hrun
  freed hfreed _ handler s := answersFreed_of_freed handler p.world s r hfreed
  works c hc := by
    have hopen := (p.world.mem_openContextsOf r c).mp hc
    constructor
    · by_contra hgone
      have hzero := (hp.books.engine_gone r (Bool.eq_false_iff.mpr hgone)).2
      exact absurd hzero (Nat.ne_of_gt (hp.books.openContexts_pos hc))
    · intro hidle
      apply World.contextObstacle_eq_none.mpr
      refine ⟨hopen.2.2, Bool.eq_false_iff.mpr fun hentered => ?_⟩
      rw [World.runtimeOf, hopen.2.1] at hentered
      obtain ⟨c', hc', hhome⟩ := (hp.seated.entered r).mp hentered
      obtain ⟨a, ha, rfl⟩ := List.mem_map.mp hc'
      exact hidle a ha hhome

/-- A host that parks a context and frees the runtime while another context is open. -/
def parkThenFree : List Operation :=
  [.newRuntime { cleanup := .manual }, .newContext ⟨0⟩, .newContext ⟨0⟩, .dropContext ⟨0⟩, .freeRuntime ⟨0⟩]

theorem runtimeInOrder_parkThenFree :
    RuntimeInOrder (parkThenFree.foldl Position.operate {}) ⟨0⟩ ∧
    ((parkThenFree.foldl Position.operate {}).world.runtime ⟨0⟩).openContexts = 1 :=
  ⟨Position.Reachable.runtimeInOrder ⟨_, Play.operates _ trivial rfl⟩ (by decide), rfl⟩

end Embedding
