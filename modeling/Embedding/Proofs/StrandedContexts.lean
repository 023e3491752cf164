import Embedding.Proofs.Lifecycle

namespace Embedding

theorem World.known_of_freed {w : World} {r : RuntimeId} (h : (w.runtime r).freed = true) :
    r.index < w.runtimes.size := by
  by_contra hr
  simp [runtime, hr] at h
  cases h

namespace Operation

variable (op : Operation) (w : World) (r : RuntimeId)

/-- The context that an operation parks in a runtime. -/
def parks : List ContextId :=
  match op with
  | dropContext c =>
    if (w.context c).isReleased = false ∧ (w.context c).runtime = r ∧ (w.runtime r).config.cleanup = .manual then [c]
    else []
  | _ => []

variable {op w r}

theorem parks_of_finalizer (h : (w.runtime r).config.cleanup = .finalizer) : op.parks w r = [] := by
  unfold parks
  split
  · rw [if_neg]
    rintro ⟨-, -, hmanual⟩
    rw [h] at hmanual
    cases hmanual
  · rfl

theorem parked_of_freed (hfreed : (w.runtime r).freed = true) :
    ((op.apply w).runtime r).parked = (w.runtime r).parked ++ op.parks w r := by
  have hr := World.known_of_freed hfreed
  cases op with
  | newRuntime config =>
    simp only [parks, List.append_nil]
    rw [apply, World.runtime_newRuntime, if_neg (Nat.ne_of_lt hr)]
  | dropRuntime r' =>
    simp only [parks, List.append_nil]
    simp only [apply, World.dropRuntime]
    split
    · rfl
    · split
      · rw [World.parked_freeRuntime, if_neg]
        rintro ⟨rfl, -, hopen⟩
        simp [hfreed] at hopen
      · rfl
      · rfl
  | freeRuntime r' =>
    simp only [parks, List.append_nil]
    rw [apply, World.parked_freeRuntime, if_neg]
    rintro ⟨rfl, -, hopen⟩
    simp [hfreed] at hopen
  | newContext r' =>
    simp only [parks, List.append_nil]
    simp only [apply]
    split
    · rfl
    · rw [World.runtime_addContext]
      split
      · next h => rw [h.1]
      · rfl
  | dropContext c =>
    rw [apply]
    rcases w.dropContext_cases c with ⟨h, hrel⟩ | ⟨h, hrel, hclean⟩ | ⟨h, hrel, hclean⟩
    · rw [h, World.runtime_dropPending, parks, if_neg, List.append_nil]
      simp [hrel]
    · rw [h, World.parked_release, World.runtime_dropPending, parks, if_neg, List.append_nil]
      rintro ⟨-, rfl, hmanual⟩
      rw [World.runtimeOf, hmanual] at hclean
      cases hclean
    · rw [h, World.runtime_modifyRuntime, World.runtime_report, World.runtime_report, World.runtime_dropPending,
        World.runtime_dropPending, World.runtimes_report, World.runtimes_of_life (w.life_dropPending c), parks]
      by_cases hrr : (w.context c).runtime = r
      · subst hrr
        rw [if_pos ⟨rfl, hr⟩, if_pos ⟨hrel, rfl, hclean⟩]
      · rw [if_neg fun h => hrr h.1.symm, if_neg fun h => hrr h.2.1, List.append_nil]
  | freeContext c =>
    simp only [parks, List.append_nil]
    rw [apply, World.freeContext, World.parked_release, World.runtime_dropPending]
  | collect r' =>
    simp only [parks, List.append_nil]
    simp only [apply]
    split
    · rfl
    · rw [World.runtime_of_life (w.life_collect r')]
  | dropPending c =>
    simp only [parks, List.append_nil]
    rw [apply, World.runtime_dropPending]
  | unregister c h =>
    simp only [parks, List.append_nil]
    rw [apply, World.runtime_of_life (w.life_unregister c h)]
  | drop v =>
    simp only [parks, List.append_nil]
    rw [apply, World.runtime_of_life (w.life_drop v)]
  | keepPending | copy | exposed =>
    simp only [parks, List.append_nil]
    rfl

theorem parked_of_frees (hopen : (w.runtime r).freed = false) (hfreed : ((op.apply w).runtime r).freed = true) :
    ((op.apply w).runtime r).parked = [] := by
  have hfree (r' : RuntimeId) (h : ((w.freeRuntime r').runtime r).freed = true) :
      ((w.freeRuntime r').runtime r).parked = [] := by
    rw [World.freed_freeRuntime, hopen, Bool.false_or, decide_eq_true_eq] at h
    obtain ⟨rfl, hr⟩ := h
    rw [World.parked_freeRuntime, if_pos ⟨rfl, hr, hopen⟩]
  have hstays {w' : World} (h : w'.life = w.life) : (w'.runtime r).freed = false := by
    rwa [World.runtime_of_life h]
  have hnever {w' : World} (h : (w'.runtime r).freed = true) (h' : (w'.runtime r).freed = false) :
      (w'.runtime r).parked = [] := absurd (h'.symm.trans h) (by decide)
  cases op with
  | newRuntime config =>
    rw [apply, World.runtime_newRuntime] at hfreed ⊢
    split at hfreed
    · cases hfreed
    · exact absurd (hopen.symm.trans hfreed) (by decide)
  | dropRuntime r' =>
    simp only [apply, World.dropRuntime] at hfreed ⊢
    split at hfreed
    · next hr' =>
      rw [if_pos hr']
      exact hnever hfreed hopen
    · next hr' =>
      rw [if_neg hr']
      split at hfreed
      · exact hfree r' hfreed
      · exact hnever hfreed hopen
      · exact hnever hfreed hopen
  | freeRuntime r' => exact hfree r' hfreed
  | newContext r' =>
    apply hnever hfreed
    simp only [apply]
    split
    · exact hopen
    · rw [World.runtime_addContext]
      split
      · next h => rwa [← h.1]
      · exact hopen
  | dropContext c =>
    apply hnever hfreed
    rw [apply]
    rcases w.dropContext_cases c with ⟨h, -⟩ | ⟨h, -⟩ | ⟨h, -⟩
    · rwa [h, World.runtime_dropPending]
    · rwa [h, World.freed_release, World.runtime_dropPending]
    · rw [h, World.runtime_modifyRuntime, World.runtime_report, World.runtime_report, World.runtime_dropPending,
        World.runtime_dropPending]
      split
      · next hr => rwa [← hr.1]
      · exact hopen
  | freeContext c =>
    apply hnever hfreed
    rwa [apply, World.freeContext, World.freed_release, World.runtime_dropPending]
  | collect r' =>
    apply hnever hfreed
    simp only [apply]
    split
    · exact hopen
    · exact hstays (w.life_collect r')
  | dropPending c => exact hnever hfreed (hstays (w.life_dropPending c))
  | unregister c h => exact hnever hfreed (hstays (w.life_unregister c h))
  | drop v => exact hnever hfreed (hstays (w.life_drop v))
  | keepPending | copy | exposed => exact hnever hfreed hopen

end Operation

/-- The contexts that a move strands in a runtime: those it parks there after the runtime was freed. -/
def Move.strands (w : World) (r : RuntimeId) : Move → List ContextId
  | .operate op => if (w.runtime r).freed then op.parks w r else []
  | _ => []

theorem Step.parked {p q : Position} {m : Move} (h : Step p m q) {r : RuntimeId}
    (hfreed : (q.world.runtime r).freed = true) : (q.world.runtime r).parked =
      (if (p.world.runtime r).freed then (p.world.runtime r).parked else []) ++ m.strands p.world r := by
  by_cases hm : ∃ op, m = .operate op
  · obtain ⟨op, rfl⟩ := hm
    cases h with
    | operate =>
      rw [Move.strands]
      split
      · next hbefore => exact Operation.parked_of_freed hbefore
      · next hbefore => exact Operation.parked_of_frees (Bool.eq_false_iff.mpr hbefore) hfreed
  · obtain ⟨e, he⟩ := h.runtime_of_no_operation (fun op hop => hm ⟨op, hop⟩) r
    have hbefore : (p.world.runtime r).freed = true := by rwa [he] at hfreed
    have hnone : m.strands p.world r = [] := by
      cases m with
      | operate op => exact absurd ⟨op, rfl⟩ hm
      | _ => rfl
    rw [he, hnone, if_pos hbefore, List.append_nil]

/-- The contexts that the moves of a play strand in a runtime. -/
def strays (r : RuntimeId) (ms : List (Position × Move)) : List ContextId :=
  ms.flatMap fun pm => pm.2.strands pm.1.world r

namespace Play

variable {p q : Position} {ms : List (Position × Move)} (h : Play p ms q)
include h

/-- What is parked in a freed runtime is what was parked in it when the play began, if it was freed by then,
and what has been stranded in it since. -/
theorem parked {r : RuntimeId} (hfreed : (q.world.runtime r).freed = true) : (q.world.runtime r).parked =
    (if (p.world.runtime r).freed then (p.world.runtime r).parked else []) ++ strays r ms := by
  induction h with
  | nil => simp [hfreed, strays]
  | @cons p p' q m ms hstep hplay ih =>
    have hcons : strays r ((p, m) :: ms) = m.strands p.world r ++ strays r ms := List.flatMap_cons
    rw [ih hfreed, hcons]
    by_cases hnext : (p'.world.runtime r).freed = true
    · rw [if_pos hnext, hstep.parked hnext, List.append_assoc]
    · have hbefore : ¬(p.world.runtime r).freed = true := fun hb => hnext (hstep.freed hb)
      have hnone : m.strands p.world r = [] := by
        cases m with
        | operate op => rw [Move.strands, if_neg hbefore]
        | _ => rfl
      rw [if_neg hnext, if_neg hbefore, hnone]
      rfl

end Play

theorem strays_of_finalizer {p q : Position} {ms : List (Position × Move)} (h : Play p ms q) {r : RuntimeId}
    (hclean : (q.world.runtime r).config.cleanup = .finalizer) : strays r ms = [] := by
  induction h with
  | nil => rfl
  | @cons p p' q m ms hstep hplay ih =>
    have hcons : strays r ((p, m) :: ms) = m.strands p.world r ++ strays r ms := List.flatMap_cons
    rw [hcons, ih hclean, List.append_nil]
    cases m with
    | operate op =>
      rw [Move.strands]
      split
      · next hfreed =>
        have hconfig := (Play.cons hstep hplay).config (World.known_of_freed hfreed)
        rw [hconfig] at hclean
        exact Operation.parks_of_finalizer hclean
      · rfl
    | _ => rfl

/-- What a freed runtime has kept when the host has released or let go of all its contexts: the strays, and with
them its engine. -/
theorem freed_runtime_keeps_strays {q : Position} {ms : List (Position × Move)} (h : Play {} ms q) {r : RuntimeId}
    (hfreed : (q.world.runtime r).freed = true)
    (hdone : ∀ c ∈ q.held, (q.world.context c).runtime = r → (q.world.context c).isReleased = true) :
    (q.world.runtime r).parked = strays r ms ∧
    (q.world.runtime r).openContexts = (strays r ms).length ∧
    ((q.world.runtime r).hasEngine = false ↔ strays r ms = []) ∧
    ((q.world.runtime r).config.cleanup = .finalizer → strays r ms = []) := by
  have hbooks : Books q.world q.held [] none := Position.Reachable.books ⟨ms, h⟩
  have hparked : (q.world.runtime r).parked = strays r ms := h.parked hfreed
  have hperm : (q.world.openContextsOf r).Perm (q.world.runtime r).parked := by
    apply (List.perm_ext_iff_of_nodup (q.world.nodup_openContextsOf r) (hbooks.parked_nodup r)).mpr
    intro c
    refine ⟨fun hc => ?_, fun hc => (hbooks.parked_open r c hc).1⟩
    have hopen := (q.world.mem_openContextsOf r c).mp hc
    rcases hbooks.kept r c hc with hheld | hdraining | hpark
    · rw [hdone c hheld hopen.2.1] at hopen
      exact absurd hopen.2.2 (by decide)
    · cases hdraining
    · exact hpark
  have hcount : (q.world.runtime r).openContexts = (strays r ms).length := by
    rw [hbooks.counted, hperm.length_eq, hparked]
  refine ⟨hparked, hcount, ?_, strays_of_finalizer h⟩
  constructor
  · intro hgone
    have hzero := (hbooks.engine_gone r hgone).2
    rw [hcount] at hzero
    exact List.length_eq_zero_iff.mp hzero
  · intro hnone
    apply hbooks.engine_goes r nofun hfreed
    rw [hcount, hnone]
    rfl

def freeThenDrop : List Operation :=
  [.newRuntime { cleanup := .manual }, .newContext ⟨0⟩, .freeRuntime ⟨0⟩, .dropContext ⟨0⟩]

theorem freed_runtime_keeps_strays_freeThenDrop :
    (freeThenDrop.foldl Position.operate {}).held = [] ∧
    strays ⟨0⟩ (Position.moves {} freeThenDrop) = [⟨0⟩] ∧
    ((freeThenDrop.foldl Position.operate {}).world.runtime ⟨0⟩).parked = [⟨0⟩] :=
  ⟨rfl, rfl, (freed_runtime_keeps_strays (Play.operates _ trivial rfl) (by rfl)
    (fun _ hc => absurd hc List.not_mem_nil)).1⟩

/-- Freeing a runtime and letting go of all its contexts may leave a context open and parked, and the engine. -/
theorem freed_runtime_leaks :
    ¬ ∀ (q : Position) (ms : List (Position × Move)) (r : RuntimeId), Play {} ms q → (q.world.runtime r).freed = true →
      (∀ c ∈ q.held, (q.world.context c).runtime = r → (q.world.context c).isReleased = true) →
      (q.world.runtime r).openContexts = 0 ∧ (q.world.runtime r).parked = [] ∧
        (q.world.runtime r).hasEngine = false := by
  intro hall
  have hleak := hall (freeThenDrop.foldl Position.operate {}) (Position.moves {} freeThenDrop) ⟨0⟩
    (Play.operates _ trivial rfl) (by rfl) (fun _ hc => absurd hc List.not_mem_nil)
  exact absurd hleak.1 (by decide)

end Embedding
