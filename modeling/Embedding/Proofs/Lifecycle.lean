import Embedding.Proofs.ContextCounts

namespace Embedding

variable [Guest.Collector]

/-- What operations do to a runtime: once it is freed it stays so, its engine does not come back, and it is
not entered or left. -/
structure RuntimeState.Ages (s s' : RuntimeState) : Prop where
  freed : s.freed = true → s'.freed = true
  engine : s.hasEngine = false → s'.hasEngine = false
  entered : s'.entered = s.entered

namespace RuntimeState.Ages

variable {s s' s'' : RuntimeState}

section

omit [Guest.Collector]

theorem refl (s : RuntimeState) : s.Ages s := ⟨id, id, rfl⟩

theorem trans (h : s.Ages s') (h' : s'.Ages s'') : s.Ages s'' :=
  ⟨h'.freed ∘ h.freed, h'.engine ∘ h.engine, h'.entered.trans h.entered⟩

theorem closed (s : RuntimeState) : s.Ages s.closed :=
  ⟨id, fun h => by simp [RuntimeState.closed, h], rfl⟩

end

end RuntimeState.Ages

namespace World

/-- What operations do to a world: its runtimes age as they are configured, and a context stays in its runtime. -/
structure Ages (w w' : World) : Prop where
  runtime : ∀ r, (w.runtime r).Ages (w'.runtime r)
  runtimes : w.runtimes.size ≤ w'.runtimes.size
  config : ∀ r, r.index < w.runtimes.size → (w'.runtime r).config = (w.runtime r).config
  size : w.contexts.size ≤ w'.contexts.size
  home : ∀ c, c.index < w.contexts.size → (w'.context c).runtime = (w.context c).runtime

namespace Ages

variable {w w' w'' : World}

section

omit [Guest.Collector]

theorem refl (w : World) : w.Ages w := ⟨fun _ => .refl _, Nat.le_refl _, fun _ _ => rfl, Nat.le_refl _, fun _ _ => rfl⟩

theorem trans (h : w.Ages w') (h' : w'.Ages w'') : w.Ages w'' where
  runtime r := (h.runtime r).trans (h'.runtime r)
  runtimes := Nat.le_trans h.runtimes h'.runtimes
  config r hr := (h'.config r (Nat.lt_of_lt_of_le hr h.runtimes)).trans (h.config r hr)
  size := Nat.le_trans h.size h'.size
  home c hc := (h'.home c (Nat.lt_of_lt_of_le hc h.size)).trans (h.home c hc)

theorem of_life (h : w'.life = w.life) : w.Ages w' where
  runtime r := by
    rw [runtime_of_life h]
    exact .refl _
  runtimes := Nat.le_of_eq (congrArg Array.size (runtimes_of_life h)).symm
  config r _ := by rw [runtime_of_life h]
  size := Nat.le_of_eq (size_contexts_of_life h).symm
  home c _ := home_of_life h c

theorem modifyRuntime (w : World) (r : RuntimeId) (f : RuntimeState → RuntimeState)
    (hf : ∀ s : RuntimeState, s.Ages (f s)) (hconfig : ∀ s, (f s).config = s.config) :
    w.Ages (w.modifyRuntime r f) where
  runtime r' := by
    rw [runtime_modifyRuntime]
    split
    · next h =>
      rw [h.1]
      exact hf _
    · exact .refl _
  runtimes := by simp
  config r' _ := by
    rw [runtime_modifyRuntime]
    split
    · next h => rw [h.1, hconfig]
    · rfl
  size := Nat.le_refl _
  home _ _ := rfl

theorem report (w : World) (e : Event) : w.Ages (w.report e) :=
  ⟨fun _ => .refl _, Nat.le_refl _, fun _ _ => rfl, Nat.le_refl _, fun _ _ => rfl⟩

theorem release (w : World) (c : ContextId) : w.Ages (w.release c) where
  runtime r := by
    by_cases h : (w.context c).isReleased
    · rw [release_of_released h]
      exact .refl _
    · rw [runtime_release r (Bool.eq_false_iff.mpr h)]
      split
      · next hr =>
        rw [hr.1]
        exact .closed _
      · exact .refl _
  runtimes := by simp
  config r _ := by
    by_cases h : (w.context c).isReleased
    · rw [release_of_released h]
    · rw [runtime_release r (Bool.eq_false_iff.mpr h)]
      split
      · next hr => rw [hr.1]; rfl
      · rfl
  size := by simp
  home c' _ := home_release c'

theorem drain (w : World) (cs : List ContextId) : w.Ages (cs.foldl World.release w) := by
  induction cs generalizing w with
  | nil => exact .refl _
  | cons c cs ih => exact (release w c).trans (ih _)

theorem teardown (w : World) (r : RuntimeId) : w.Ages (w.teardown r) := by
  unfold World.teardown
  split
  · apply (Ages.modifyRuntime w r (fun s => { s with hasEngine := false })
      (fun _ => ⟨id, fun _ => rfl, rfl⟩) fun _ => rfl).trans
    exact report _ _
  · exact .refl _

theorem closeRuntime (w : World) (r : RuntimeId) : w.Ages (w.closeRuntime r) := by
  have hclose := Ages.modifyRuntime w r (fun s => { s with freed := true, parked := [] })
    (fun _ => ⟨fun _ => rfl, id, rfl⟩) fun _ => rfl
  simp only [World.closeRuntime]
  split
  · exact hclose
  · exact hclose.trans (report _ _)

theorem freeRuntime (w : World) (r : RuntimeId) : w.Ages (w.freeRuntime r) := by
  by_cases hfreed : (w.runtime r).freed = true
  · rw [freeRuntime_of_freed hfreed]
    exact .refl _
  · rw [freeRuntime_of_open (Bool.eq_false_iff.mpr hfreed)]
    have hdrain := (closeRuntime w r).trans (drain _ (w.runtime r).parked)
    dsimp only
    split
    · exact hdrain.trans (teardown _ r)
    · exact hdrain.trans (report _ _)

theorem dropRuntime (w : World) (r : RuntimeId) : w.Ages (w.dropRuntime r) := by
  simp only [World.dropRuntime]
  split
  · exact .refl _
  · split
    · exact freeRuntime w r
    · exact report _ _
    · exact report _ _

theorem newRuntime (w : World) (config : Config) : w.Ages (w.newRuntime config).2 where
  runtime r := by
    rw [runtime_newRuntime]
    split
    · next h =>
      have hdefault : w.runtime r = default := by simp [World.runtime, h]
      rw [hdefault]
      exact ⟨fun h => (by cases h), fun h => (by cases h), rfl⟩
    · exact .refl _
  runtimes := by simp
  config r hr := by rw [runtime_newRuntime, if_neg (Nat.ne_of_lt hr)]
  size := Nat.le_refl _
  home _ _ := rfl

theorem addContext (w : World) (r : RuntimeId) : w.Ages (w.addContext r).2 where
  runtime r' := by
    rw [runtime_addContext]
    split
    · next h =>
      rw [h.1]
      exact ⟨id, id, rfl⟩
    · exact .refl _
  runtimes := by simp
  config r' _ := by
    rw [runtime_addContext]
    split
    · next h => rw [h.1]
    · rfl
  size := by simp
  home c hc := by
    have h := congrArg Prod.fst (w.home_addContext r c)
    rwa [if_neg (Nat.ne_of_lt hc)] at h

end

end Ages

variable (w : World) (r : RuntimeId) (c : ContextId)

theorem freed_of_newContextObstacle (h : w.newContextObstacle? r = none) : (w.runtime r).freed = false := by
  unfold newContextObstacle? runtimeObstacle? at h
  by_cases hf : (w.runtime r).freed = true
  · simp [hf] at h
  · exact Bool.eq_false_iff.mpr hf

theorem runtime_dropPending : (w.dropPending c).runtime r = w.runtime r := runtime_of_life (w.life_dropPending c) r

theorem home_dropPending (c' : ContextId) : ((w.dropPending c).context c').runtime = (w.context c').runtime :=
  home_of_life (w.life_dropPending c) c'

theorem dropContext_cases :
    (w.dropContext c = w.dropPending c ∧ (w.context c).isReleased = true) ∨
    (w.dropContext c = (w.dropPending c).release c ∧ (w.context c).isReleased = false ∧
      (w.runtimeOf c).config.cleanup = .finalizer) ∨
    (w.dropContext c = ((w.dropPending c).report .contextParked).modifyRuntime (w.context c).runtime
        (fun s => { s with parked := s.parked ++ [c] }) ∧
      (w.context c).isReleased = false ∧ (w.runtimeOf c).config.cleanup = .manual) := by
  have hrel := isReleased_of_life (w.life_dropPending c) c
  simp only [dropContext, runtimeOf, hrel, home_dropPending, runtime_dropPending]
  split
  · next h => exact .inl ⟨rfl, h⟩
  · next h =>
    have h : (w.context c).isReleased = false := Bool.eq_false_iff.mpr h
    split
    · next hf => exact .inr (.inl ⟨rfl, h, hf⟩)
    · next hm => exact .inr (.inr ⟨rfl, h, hm⟩)

end World

namespace Operation

variable (op : Operation) (w : World) (r : RuntimeId)

theorem ages : w.Ages (op.apply w) := by
  cases op with
  | newRuntime config => exact .newRuntime w config
  | dropRuntime r => exact .dropRuntime w r
  | freeRuntime r => exact .freeRuntime w r
  | newContext r =>
    simp only [apply]
    split
    · exact .refl _
    · exact .addContext w r
  | dropContext c =>
    have hlife := World.Ages.of_life (w.life_dropPending c)
    rw [apply]
    rcases w.dropContext_cases c with ⟨h, -⟩ | ⟨h, -⟩ | ⟨h, -⟩
    · rw [h]
      exact hlife
    · rw [h]
      exact hlife.trans (.release _ c)
    · rw [h]
      exact (hlife.trans (.report _ _)).trans
        (.modifyRuntime _ _ _ (fun _ => ⟨id, id, rfl⟩) fun _ => rfl)
  | freeContext c => exact (World.Ages.of_life (w.life_dropPending c)).trans (.release _ c)
  | collect r =>
    simp only [apply]
    split
    · exact .refl _
    · exact .of_life (w.life_collect r)
  | dropPending c => exact .of_life (w.life_dropPending c)
  | keepPending c v => exact .of_life (w.life_modifyContext c _ fun _ => ⟨rfl, rfl⟩)
  | unregister c h => exact .of_life (w.life_unregister c h)
  | copy v => exact .of_life (w.life_copy v)
  | drop v => exact .of_life (w.life_drop v)
  | exposed => exact .report _ _

variable {op w r}

theorem books {held : List ContextId} (b : Books w held [] none) (hallowed : op.allowed w held = true) :
    Books (op.apply w) (op.held w held) [] none := by
  have hruntime : ∀ r ∈ op.runtime?, r.index < w.runtimes.size := by
    intro r hr
    rw [Option.mem_def] at hr
    simpa [hr] using ((Bool.and_eq_true _ _).mp hallowed).1
  have hcontext : ∀ c ∈ op.context?, c ∈ held := by
    intro c hc
    rw [Option.mem_def] at hc
    simpa [hc] using ((Bool.and_eq_true _ _).mp hallowed).2
  cases op with
  | newRuntime config => exact b.newRuntime config
  | dropRuntime r => exact b.dropRuntime (hruntime r rfl)
  | freeRuntime r => exact b.freeRuntime (hruntime r rfl)
  | newContext r =>
    simp only [apply, Operation.held]
    split
    · exact b
    · next h =>
      apply b.addContext (hruntime r rfl)
      exact w.freed_of_newContextObstacle r (by simpa using h)
  | dropContext c => exact b.dropContext (hcontext c rfl)
  | freeContext c => exact b.freeContext (hcontext c rfl)
  | collect r =>
    simp only [apply]
    split
    · exact b
    · exact b.of_life (w.life_collect r)
  | dropPending c => exact b.of_life (w.life_dropPending c)
  | keepPending c v => exact b.of_life (w.life_modifyContext c _ fun _ => ⟨rfl, rfl⟩)
  | unregister c h => exact b.of_life (w.life_unregister c h)
  | copy v => exact b.of_life (w.life_copy v)
  | drop v => exact b.of_life (w.life_drop v)
  | exposed name h => exact b.of_life (World.life_report _ _ rfl)

end Operation

namespace Step

variable {p q : Position} {m : Move} (h : Step p m q)
include h

theorem books (b : Books p.world p.held [] none) : Books q.world q.held [] none := by
  cases h with
  | operate _ _ hallowed => exact Operation.books b hallowed
  | enter => exact b.setEntered _ true
  | answer => exact b.of_life (World.life_asked _ _ _ _)
  | free => exact b.of_life (World.life_freed _ _ _)
  | refuse => exact b.of_life (World.life_refused _ _ _ _)
  | call => exact b.of_life (World.life_called _ _ _ _)
  | reply => exact b
  | dropped => exact b.of_life (World.life_takeBackRegistry _ _)
  | leave =>
    exact ((b.of_life (World.life_setMachine _ _ _)).setEntered _ false).of_life (World.life_leave _ _)

theorem runtime_of_no_operation (hm : ∀ op, m ≠ .operate op) (r : RuntimeId) :
    ∃ e, q.world.runtime r = { p.world.runtime r with entered := e } := by
  have hset (w : World) (r' : RuntimeId) (e : Bool) :
      ∃ e', (w.modifyRuntime r' fun s => { s with entered := e }).runtime r = { w.runtime r with entered := e' } := by
    rw [World.runtime_modifyRuntime]
    split
    · next h =>
      rw [h.1]
      exact ⟨e, rfl⟩
    · exact ⟨_, rfl⟩
  have hsame {w w' : World} (hlife : w'.life = w.life) :
      ∃ e', w'.runtime r = { w.runtime r with entered := e' } := by
    rw [World.runtime_of_life hlife]
    exact ⟨_, rfl⟩
  cases h with
  | operate => exact absurd rfl (hm _)
  | enter => exact hset _ _ true
  | answer => exact hsame (World.life_asked _ _ _ _)
  | free => exact hsame (World.life_freed _ _ _)
  | refuse => exact hsame (World.life_refused _ _ _ _)
  | call => exact hsame (World.life_called _ _ _ _)
  | reply | dropped => exact ⟨_, rfl⟩
  | leave =>
    rw [World.runtime_of_life (World.life_leave _ _)]
    exact hset _ _ false

theorem freed {r : RuntimeId} (hfreed : (p.world.runtime r).freed = true) : (q.world.runtime r).freed = true := by
  by_cases hm : ∃ op, m = .operate op
  · obtain ⟨op, rfl⟩ := hm
    cases h with
    | operate => exact ((Operation.ages op p.world).runtime r).freed hfreed
  · obtain ⟨e, he⟩ := h.runtime_of_no_operation (fun op hop => hm ⟨op, hop⟩) r
    rwa [he]

theorem known {r : RuntimeId} (hr : r.index < p.world.runtimes.size) : r.index < q.world.runtimes.size := by
  have hlife {w' : World} (hlife : w'.life = p.world.life) : r.index < w'.runtimes.size := by
    rwa [World.runtimes_of_life hlife]
  cases h with
  | operate => exact Nat.lt_of_lt_of_le hr (Operation.ages _ _).runtimes
  | enter => exact (World.size_runtimes_modifyRuntime _ _ _).symm ▸ hr
  | answer => exact hlife (World.life_asked _ _ _ _)
  | free => exact hlife (World.life_freed _ _ _)
  | refuse => exact hlife (World.life_refused _ _ _ _)
  | call => exact hlife (World.life_called _ _ _ _)
  | reply | dropped => exact hr
  | leave =>
    rw [World.runtimes_of_life (World.life_leave _ _), World.size_runtimes_modifyRuntime]
    exact hr

theorem config {r : RuntimeId} (hr : r.index < p.world.runtimes.size) :
    (q.world.runtime r).config = (p.world.runtime r).config := by
  by_cases hm : ∃ op, m = .operate op
  · obtain ⟨op, rfl⟩ := hm
    cases h with
    | operate => exact (Operation.ages op p.world).config r hr
  · obtain ⟨e, he⟩ := h.runtime_of_no_operation (fun op hop => hm ⟨op, hop⟩) r
    rw [he]

theorem engine_gone {r : RuntimeId} (hgone : (p.world.runtime r).hasEngine = false) :
    (q.world.runtime r).hasEngine = false := by
  by_cases hm : ∃ op, m = .operate op
  · obtain ⟨op, rfl⟩ := hm
    cases h with
    | operate => exact ((Operation.ages op p.world).runtime r).engine hgone
  · obtain ⟨e, he⟩ := h.runtime_of_no_operation (fun op hop => hm ⟨op, hop⟩) r
    rwa [he]

end Step

namespace Play

variable {p q : Position} {ms : List (Position × Move)} (h : Play p ms q)
include h

theorem freed {r : RuntimeId} (hfreed : (p.world.runtime r).freed = true) : (q.world.runtime r).freed = true :=
  h.keeps (P := fun p => (p.world.runtime r).freed = true) (fun hstep => hstep.freed) hfreed

theorem config {r : RuntimeId} (hr : r.index < p.world.runtimes.size) :
    (q.world.runtime r).config = (p.world.runtime r).config :=
  (h.keeps (P := fun q => r.index < q.world.runtimes.size ∧ (q.world.runtime r).config = (p.world.runtime r).config)
    (fun hstep hq => ⟨hstep.known hq.1, (hstep.config hq.1).trans hq.2⟩) ⟨hr, rfl⟩).2

theorem engine_gone {r : RuntimeId} (hgone : (p.world.runtime r).hasEngine = false) :
    (q.world.runtime r).hasEngine = false :=
  h.keeps (P := fun p => (p.world.runtime r).hasEngine = false) (fun hstep => hstep.engine_gone) hgone

end Play

/-- Work is under way in some contexts: each is known, and it is the only one of its runtime, which is entered
for it. -/
structure Seated (w : World) (cs : List ContextId) : Prop where
  known : ∀ c ∈ cs, c.index < w.contexts.size
  entered : ∀ r, (w.runtime r).entered = true ↔ ∃ c ∈ cs, (w.context c).runtime = r
  once : (cs.map fun c => (w.context c).runtime).Nodup

namespace Seated

variable {w w' : World} {cs : List ContextId}

section

omit [Guest.Collector]

theorem of_ages (s : Seated w cs) (h : w.Ages w') : Seated w' cs where
  known c hc := Nat.lt_of_lt_of_le (s.known c hc) h.size
  entered r := by
    rw [(h.runtime r).entered, s.entered]
    apply exists_congr
    intro c
    apply and_congr_right
    intro hc
    rw [h.home c (s.known c hc)]
  once := by
    have hhomes : (cs.map fun c => (w'.context c).runtime) = cs.map fun c => (w.context c).runtime :=
      List.map_congr_left fun c hc => h.home c (s.known c hc)
    rw [hhomes]
    exact s.once

theorem of_life (s : Seated w cs) (h : w'.life = w.life) : Seated w' cs := s.of_ages (.of_life h)

theorem enter (s : Seated w cs) {c : ContextId} (hc : c.index < w.contexts.size)
    (hr : (w.context c).runtime.index < w.runtimes.size) (hfree : (w.runtimeOf c).entered = false) :
    Seated (w.enter c) (c :: cs) where
  known d hd := by
    rcases List.mem_cons.mp hd with rfl | hd
    · exact hc
    · exact s.known d hd
  entered r := by
    simp only [World.enter, World.context_modifyRuntime, List.mem_cons, exists_eq_or_imp, ← s.entered]
    rw [World.runtime_modifyRuntime]
    by_cases h : r = (w.context c).runtime
    · simp [h, hr]
    · simp [h, Ne.symm h]
  once := by
    simp only [World.enter, World.context_modifyRuntime, List.map_cons, List.nodup_cons]
    refine ⟨?_, s.once⟩
    intro hmem
    obtain ⟨d, hd, hhome⟩ := List.mem_map.mp hmem
    have hentered := (s.entered (w.context c).runtime).mpr ⟨d, hd, hhome⟩
    rw [World.runtimeOf, hentered] at hfree
    cases hfree

end

theorem leave {c : ContextId} (s : Seated w (c :: cs)) (hr : (w.context c).runtime.index < w.runtimes.size) :
    Seated (w.leave c) cs := by
  have honce := List.nodup_cons.mp s.once
  have hleft : Seated (w.modifyRuntime (w.context c).runtime fun s => { s with entered := false }) cs := by
    constructor
    · exact fun d hd => s.known d (List.mem_cons_of_mem c hd)
    · intro r
      simp only [World.context_modifyRuntime]
      rw [World.runtime_modifyRuntime]
      by_cases h : r = (w.context c).runtime
      · rw [if_pos ⟨h, hr⟩, h]
        refine ⟨nofun, ?_⟩
        rintro ⟨d, hd, hhome⟩
        exact absurd (List.mem_map.mpr ⟨d, hd, hhome⟩) honce.1
      · rw [if_neg fun h' => h h'.1, s.entered]
        simp [Ne.symm h]
    · exact honce.2
  exact hleft.of_life (w.life_leave c)

end Seated

namespace World

variable {w : World} {c : ContextId}

omit [Guest.Collector] in
theorem contextObstacle_eq_none : w.contextObstacle? c = none ↔
    (w.context c).isReleased = false ∧ (w.runtimeOf c).entered = false := by
  unfold contextObstacle?
  cases (w.context c).isReleased <;> cases (w.runtimeOf c).entered <;> simp

omit [Guest.Collector] in
theorem contextObstacle?_of_life {w' : World} (h : w'.life = w.life) (c : ContextId) :
    w'.contextObstacle? c = w.contextObstacle? c := by
  rw [contextObstacle?, contextObstacle?, isReleased_of_life h, runtimeOf, runtimeOf, home_of_life h, runtime_of_life h]

end World

omit [Guest.Collector] in
theorem Seated.not_mem_of_free {w : World} {cs : List ContextId} {c : ContextId} (s : Seated w cs)
    (hfree : w.contextObstacle? c = none) : c ∉ cs := by
  intro hmem
  have hentered : (w.runtimeOf c).entered = true := (s.entered _).mpr ⟨c, hmem, rfl⟩
  rw [(World.contextObstacle_eq_none.mp hfree).2] at hentered
  cases hentered

omit [Guest.Collector] in
theorem Seated.others {w : World} {a : Activity} {work : List Activity}
    (h : Seated w ((a :: work).map Activity.context)) : ∀ a' ∈ work, a'.context ≠ a.context := by
  intro a' ha' heq
  have hnodup := h.once
  rw [List.map_cons, List.map_cons, List.nodup_cons] at hnodup
  refine hnodup.1 (List.mem_map.mpr ⟨a'.context, List.mem_map.mpr ⟨a', ha', rfl⟩, ?_⟩)
  rw [heq]

theorem Step.seated {p q : Position} {m : Move} (h : Step p m q) (b : Books p.world p.held [] none)
    (s : Seated p.world (p.work.map Activity.context)) : Seated q.world (q.work.map Activity.context) := by
  cases h with
  | operate => exact s.of_ages (Operation.ages _ _)
  | enter _ _ hc hfree => exact s.enter hc (b.home _ hc) (World.contextObstacle_eq_none.mp hfree).2
  | answer => exact s.of_life (World.life_asked _ _ _ _)
  | free => exact s.of_life (World.life_freed _ _ _)
  | refuse => exact s.of_life (World.life_refused _ _ _ _)
  | call => exact s.of_life (World.life_called _ _ _ _)
  | reply => exact s
  | dropped => exact s.of_life (World.life_takeBackRegistry _ _)
  | @leave w held work c α run m =>
    have s' := s.of_life (w.life_setMachine c m)
    have b' := b.of_life (w.life_setMachine c m)
    exact s'.leave (b'.home c (s'.known c List.mem_cons_self))

namespace Position

theorem Reachable.books {p : Position} (h : p.Reachable) : Books p.world p.held [] none := by
  obtain ⟨ms, hplay⟩ := h
  refine hplay.keeps (P := fun p => Books p.world p.held [] none) (fun hstep => hstep.books) ?_
  constructor
  case home => exact fun c hc => absurd hc (Nat.not_lt_zero _)
  case counted => exact fun _ => rfl
  case held_known => exact fun c hc => absurd hc List.not_mem_nil
  case parked_open => exact fun _ c hc => absurd hc List.not_mem_nil
  case parked_nodup => exact fun _ => List.nodup_nil
  case draining_open => exact fun c hc => absurd hc List.not_mem_nil
  case draining_nodup => exact List.nodup_nil
  case kept => exact fun _ c hc => absurd hc List.not_mem_nil
  case engine_gone => exact fun r hgone => absurd hgone (Bool.noConfusion : ¬true = false)
  case engine_goes => exact fun r _ hfreed => absurd hfreed (Bool.noConfusion : ¬false = true)
  case engines => rfl

theorem Reachable.seated {p : Position} (h : p.Reachable) : Seated p.world (p.work.map Activity.context) := by
  obtain ⟨ms, hplay⟩ := h
  have hboth := hplay.keeps
    (P := fun p => Books p.world p.held [] none ∧ Seated p.world (p.work.map Activity.context))
    (fun hstep hp => ⟨hstep.books hp.1, hstep.seated hp.1 hp.2⟩)
  apply And.right ∘ hboth
  refine ⟨Reachable.books ⟨[], .nil⟩, ?_⟩
  constructor
  · exact fun c hc => absurd hc List.not_mem_nil
  · exact fun r => ⟨nofun, fun ⟨c, hc, _⟩ => absurd hc List.not_mem_nil⟩
  · exact List.nodup_nil

theorem Reachable.append {p q : Position} {ms : List (Position × Move)} (h : p.Reachable) (hplay : Play p ms q) :
    q.Reachable := by
  obtain ⟨ns, h⟩ := h
  exact ⟨ns ++ ms, h.append hplay⟩

end Position

end Embedding
