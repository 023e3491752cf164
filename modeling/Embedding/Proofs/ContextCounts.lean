import Embedding.Proofs.Release

namespace Embedding

variable [Guest.Collector]

/-- The books of a world in which the host has some contexts. While a runtime is being freed, the contexts that
were parked in it are drained and its engine may outlast the last of them. -/
structure Books (w : World) (held draining : List ContextId) (closing : Option RuntimeId) : Prop where
  home : ∀ c, c.index < w.contexts.size → (w.context c).runtime.index < w.runtimes.size
  counted : ∀ r, (w.runtime r).openContexts = (w.openContextsOf r).length
  held_known : ∀ c ∈ held, c.index < w.contexts.size
  parked_open : ∀ r, ∀ c ∈ (w.runtime r).parked, c ∈ w.openContextsOf r ∧ c ∉ held
  parked_nodup : ∀ r, (w.runtime r).parked.Nodup
  draining_open : ∀ c ∈ draining, c ∈ w.openContextsOf (w.context c).runtime ∧ c ∉ held ∧ c ∉ (w.runtimeOf c).parked
  draining_nodup : draining.Nodup
  kept : ∀ r, ∀ c ∈ w.openContextsOf r, c ∈ held ∨ c ∈ draining ∨ c ∈ (w.runtime r).parked
  engine_gone : ∀ r, (w.runtime r).hasEngine = false → (w.runtime r).freed = true ∧ (w.runtime r).openContexts = 0
  engine_goes : ∀ r, r ∉ closing → (w.runtime r).freed = true → (w.runtime r).openContexts = 0 →
    (w.runtime r).hasEngine = false
  engines : w.EnginesAccounted

namespace World

section SameLife

variable {w w' : World} (h : w'.life = w.life)
include h

omit [Guest.Collector] in
theorem openContextsOf_of_life (r : RuntimeId) : w'.openContextsOf r = w.openContextsOf r := by
  simp only [openContextsOf, contextsOf, size_contexts_of_life h, home_of_life h, isReleased_of_life h]

omit [Guest.Collector] in
theorem enginesAccounted_of_life (he : w.EnginesAccounted) : w'.EnginesAccounted := by
  rwa [EnginesAccounted, engineReleases_of_life h, runtimes_of_life h]

end SameLife

end World

namespace Books

variable {w : World} {held draining : List ContextId} {closing : Option RuntimeId}

section

omit [Guest.Collector]

theorem of_life {w' : World} (b : Books w held draining closing) (h : w'.life = w.life) :
    Books w' held draining closing := by
  constructor
  case home => simpa only [World.size_contexts_of_life h, World.runtimes_of_life h, World.home_of_life h] using b.home
  case counted => simpa only [World.runtime_of_life h, World.openContextsOf_of_life h] using b.counted
  case held_known => simpa only [World.size_contexts_of_life h] using b.held_known
  case parked_open => simpa only [World.runtime_of_life h, World.openContextsOf_of_life h] using b.parked_open
  case parked_nodup => simpa only [World.runtime_of_life h] using b.parked_nodup
  case draining_open =>
    simpa only [World.runtimeOf, World.runtime_of_life h, World.home_of_life h, World.openContextsOf_of_life h]
      using b.draining_open
  case draining_nodup => exact b.draining_nodup
  case kept => simpa only [World.runtime_of_life h, World.openContextsOf_of_life h] using b.kept
  case engine_gone => simpa only [World.runtime_of_life h] using b.engine_gone
  case engine_goes => simpa only [World.runtime_of_life h] using b.engine_goes
  case engines => exact World.enginesAccounted_of_life h b.engines

theorem openContexts_pos (b : Books w held draining closing) {r : RuntimeId} {c : ContextId}
    (hc : c ∈ w.openContextsOf r) : 0 < (w.runtime r).openContexts := by
  rw [b.counted]
  exact List.length_pos_of_mem hc

theorem release (b : Books w held draining closing) {c : ContextId} (hc : c.index < w.contexts.size)
    (hparked : c ∉ (w.runtimeOf c).parked) : Books (w.release c) held (draining.erase c) closing := by
  by_cases hrel : (w.context c).isReleased = true
  · have hdrain : c ∉ draining := by
      intro hd
      have hopen := (w.mem_openContextsOf _ c).mp (b.draining_open c hd).1
      rw [hrel] at hopen
      exact absurd hopen.2.2 (by decide)
    rwa [World.release_of_released hrel, List.erase_of_not_mem hdrain]
  · have hrel : (w.context c).isReleased = false := Bool.eq_false_iff.mpr hrel
    have hhome := b.home c hc
    have hmem : c ∈ w.openContextsOf (w.context c).runtime := (w.mem_openContextsOf _ c).mpr ⟨hc, rfl, hrel⟩
    have hopen (r : RuntimeId) : (w.release c).openContextsOf r = (w.openContextsOf r).erase c :=
      World.openContextsOf_release r hrel hc
    have hstays (r : RuntimeId) {d : ContextId} (hd : d ∈ (w.openContextsOf r).erase c) : d ≠ c ∧ d ∈ w.openContextsOf r :=
      (w.nodup_openContextsOf r).mem_erase_iff.mp hd
    have hrun (r : RuntimeId) : (w.release c).runtime r =
        if r = (w.context c).runtime then (w.runtimeOf c).closed else w.runtime r := by
      rw [World.runtime_release r hrel]
      simp only [hhome, and_true]
    have hpark (r : RuntimeId) : ((w.release c).runtime r).parked = (w.runtime r).parked := World.parked_release r
    have hparkne (r : RuntimeId) : ∀ d ∈ (w.runtime r).parked, d ≠ c := by
      rintro d hd rfl
      have hd' := (w.mem_openContextsOf r d).mp (b.parked_open r d hd).1
      rw [World.runtimeOf, hd'.2.1] at hparked
      exact hparked hd
    constructor
    case home =>
      intro d hd
      rw [World.home_release, World.size_runtimes_release]
      exact b.home d (by simpa using hd)
    case counted =>
      intro r
      rw [hopen, hrun]
      split
      · next h =>
        subst h
        rw [List.length_erase_of_mem hmem, ← b.counted]
        rfl
      · next h =>
        rw [b.counted, List.erase_of_not_mem]
        intro hcr
        exact h ((w.mem_openContextsOf r c).mp hcr).2.1.symm
    case held_known => simpa using b.held_known
    case parked_open =>
      intro r d hd
      rw [hpark] at hd
      rw [hopen, (w.nodup_openContextsOf r).mem_erase_iff]
      have hd' := b.parked_open r d hd
      exact ⟨⟨hparkne r d hd, hd'.1⟩, hd'.2⟩
    case parked_nodup => simpa only [hpark] using b.parked_nodup
    case draining_open =>
      intro d hd
      obtain ⟨hdc, hd⟩ := b.draining_nodup.mem_erase_iff.mp hd
      have hd' := b.draining_open d hd
      rw [World.home_release, hopen, World.runtimeOf, World.home_release, hpark,
        (w.nodup_openContextsOf _).mem_erase_iff]
      exact ⟨⟨hdc, hd'.1⟩, hd'.2⟩
    case draining_nodup => exact b.draining_nodup.erase c
    case kept =>
      intro r d hd
      rw [hopen] at hd
      obtain ⟨hdc, hd⟩ := hstays r hd
      rw [hpark, b.draining_nodup.mem_erase_iff]
      rcases b.kept r d hd with h | h | h
      · exact .inl h
      · exact .inr (.inl ⟨hdc, h⟩)
      · exact .inr (.inr h)
    case engine_gone =>
      intro r
      rw [hrun]
      split
      · intro hgone
        by_cases he : (w.runtimeOf c).hasEngine = true
        · simp only [RuntimeState.closed, he, Bool.true_and, Bool.not_eq_false', Bool.and_eq_true,
            decide_eq_true_eq] at hgone
          exact ⟨hgone.2, hgone.1⟩
        · have hzero := (b.engine_gone _ (Bool.eq_false_iff.mpr he)).2
          exact absurd hzero (Nat.ne_of_gt (b.openContexts_pos hmem))
      · exact b.engine_gone r
    case engine_goes =>
      intro r
      rw [hrun]
      split
      · intro _ hf hz
        simp only [RuntimeState.closed] at hf hz
        simp [RuntimeState.closed, hf, hz]
      · exact b.engine_goes r
    case engines => exact b.engines.release hhome

theorem drain {ds es : List ContextId} (b : Books w held (ds ++ es) closing) :
    Books (ds.foldl World.release w) held es closing := by
  induction ds generalizing w with
  | nil => exact b
  | cons d ds ih =>
    have hd := b.draining_open d (by simp)
    have hknown := ((w.mem_openContextsOf _ d).mp hd.1).1
    have hrel := b.release hknown hd.2.2
    rw [List.cons_append, List.erase_cons_head] at hrel
    exact ih hrel

theorem closeRuntime (b : Books w held [] none) {r : RuntimeId} (hr : r.index < w.runtimes.size)
    (hopen : (w.runtime r).freed = false) : Books (w.closeRuntime r) held (w.runtime r).parked (some r) := by
  have hrun (r' : RuntimeId) : (w.closeRuntime r).runtime r' =
      if r' = r then { w.runtime r with freed := true, parked := [] } else w.runtime r' := by
    rw [World.runtime_closeRuntime]
    simp only [hr, and_true]
  have hcontext (c : ContextId) : (w.closeRuntime r).context c = w.context c := by
    rw [World.context, World.contexts_closeRuntime, World.context]
  have hopens (r' : RuntimeId) : (w.closeRuntime r).openContextsOf r' = w.openContextsOf r' :=
    World.openContextsOf_of_contexts (w.contexts_closeRuntime r) r'
  have hpark (r' : RuntimeId) : ((w.closeRuntime r).runtime r').parked =
      if r' = r then [] else (w.runtime r').parked := by
    rw [hrun]
    split <;> rfl
  have hcount (r' : RuntimeId) : ((w.closeRuntime r).runtime r').openContexts = (w.runtime r').openContexts := by
    rw [hrun]
    split
    · next h => rw [h]
    · rfl
  constructor
  case home => simpa only [World.contexts_closeRuntime, World.size_runtimes_closeRuntime, hcontext] using b.home
  case counted => simpa only [hcount, hopens] using b.counted
  case held_known => simpa only [World.contexts_closeRuntime] using b.held_known
  case parked_open =>
    intro r' c hc
    rw [hpark] at hc
    split at hc
    · cases hc
    · rw [hopens]
      exact b.parked_open r' c hc
  case parked_nodup =>
    intro r'
    rw [hpark]
    split
    · exact List.nodup_nil
    · exact b.parked_nodup r'
  case draining_open =>
    intro c hc
    have hc' := b.parked_open r c hc
    have hhome := ((w.mem_openContextsOf r c).mp hc'.1).2.1
    rw [World.runtimeOf, hcontext, hhome, hopens, hpark, if_pos rfl]
    exact ⟨hc'.1, hc'.2, List.not_mem_nil⟩
  case draining_nodup => exact b.parked_nodup r
  case kept =>
    intro r' c hc
    rw [hopens] at hc
    rw [hpark]
    rcases b.kept r' c hc with h | h | h
    · exact .inl h
    · cases h
    · by_cases hrr : r' = r
      · subst hrr
        exact .inr (.inl h)
      · rw [if_neg hrr]
        exact .inr (.inr h)
  case engine_gone =>
    intro r' hgone
    rw [hcount]
    have hgone' : (w.runtime r').hasEngine = false := by
      rw [hrun] at hgone
      split at hgone
      · next h => rwa [h]
      · exact hgone
    obtain ⟨hfreed, hzero⟩ := b.engine_gone r' hgone'
    refine ⟨?_, hzero⟩
    rw [hrun]
    split
    · rfl
    · exact hfreed
  case engine_goes =>
    intro r' hr'
    have hne : r' ≠ r := fun h => hr' (h ▸ rfl)
    rw [hrun, if_neg hne]
    exact b.engine_goes r' (by simp)
  case engines => exact b.engines.closeRuntime

theorem teardown {r : RuntimeId} (b : Books w held [] (some r)) (hr : r.index < w.runtimes.size)
    (hfreed : (w.runtime r).freed = true) (hzero : (w.runtime r).openContexts = 0) :
    Books (w.teardown r) held [] none := by
  have hrun (r' : RuntimeId) : (w.teardown r).runtime r' =
      if r' = r then { w.runtime r with hasEngine := false } else w.runtime r' := by
    rw [World.runtime_teardown]
    simp only [hr, and_true]
  have hcontext (c : ContextId) : (w.teardown r).context c = w.context c := by
    rw [World.context, World.contexts_teardown, World.context]
  have hopens (r' : RuntimeId) : (w.teardown r).openContextsOf r' = w.openContextsOf r' :=
    World.openContextsOf_of_contexts (w.contexts_teardown r) r'
  have hsame (r' : RuntimeId) : ((w.teardown r).runtime r').parked = (w.runtime r').parked ∧
      ((w.teardown r).runtime r').openContexts = (w.runtime r').openContexts ∧
      ((w.teardown r).runtime r').freed = (w.runtime r').freed := by
    rw [hrun]
    split
    · next h =>
      rw [h]
      exact ⟨rfl, rfl, rfl⟩
    · exact ⟨rfl, rfl, rfl⟩
  constructor
  case home => simpa only [World.contexts_teardown, World.size_runtimes_teardown, hcontext] using b.home
  case counted => simpa only [hsame, hopens] using b.counted
  case held_known => simpa only [World.contexts_teardown] using b.held_known
  case parked_open => simpa only [hsame, hopens] using b.parked_open
  case parked_nodup => simpa only [hsame] using b.parked_nodup
  case draining_open => exact fun c hc => absurd hc List.not_mem_nil
  case draining_nodup => exact List.nodup_nil
  case kept => simpa only [hsame, hopens] using b.kept
  case engine_gone =>
    intro r' hgone
    simp only [hsame]
    rw [hrun] at hgone
    split at hgone
    · next h =>
      subst h
      exact ⟨hfreed, hzero⟩
    · exact b.engine_gone r' hgone
  case engine_goes =>
    intro r' _
    simp only [hsame]
    rw [hrun]
    split
    · exact fun _ _ => rfl
    · next h => exact b.engine_goes r' (by simpa using Ne.symm h)
  case engines => exact b.engines.teardown hr

theorem settle {r : RuntimeId} (b : Books w held [] (some r)) (hopen : (w.runtime r).openContexts ≠ 0) :
    Books w held [] none where
  home := b.home
  counted := b.counted
  held_known := b.held_known
  parked_open := b.parked_open
  parked_nodup := b.parked_nodup
  draining_open := b.draining_open
  draining_nodup := b.draining_nodup
  kept := b.kept
  engine_gone := b.engine_gone
  engine_goes r' _ hfreed hzero := by
    apply b.engine_goes r' _ hfreed hzero
    rintro h
    cases h
    exact hopen hzero
  engines := b.engines

theorem freeRuntime (b : Books w held [] none) {r : RuntimeId} (hr : r.index < w.runtimes.size) :
    Books (w.freeRuntime r) held [] none := by
  by_cases hfreed : (w.runtime r).freed = true
  · rwa [World.freeRuntime_of_freed hfreed]
  · have hopen : (w.runtime r).freed = false := Bool.eq_false_iff.mpr hfreed
    have hclosed := b.closeRuntime hr hopen
    rw [← List.append_nil (w.runtime r).parked] at hclosed
    have hdrained := hclosed.drain
    rw [World.freeRuntime_of_open hopen]
    dsimp only
    split
    · next hzero =>
      apply hdrained.teardown _ _ hzero
      · simpa using hr
      · rw [World.freed_drain, World.runtime_closeRuntime, if_pos ⟨rfl, hr⟩]
    · next hmore => exact (hdrained.settle hmore).of_life (World.life_report _ _ rfl)

theorem dropRuntime (b : Books w held [] none) {r : RuntimeId} (hr : r.index < w.runtimes.size) :
    Books (w.dropRuntime r) held [] none := by
  simp only [World.dropRuntime]
  split
  · exact b
  · split
    · exact b.freeRuntime hr
    · exact b.of_life (World.life_report _ _ rfl)
    · exact b.of_life (World.life_report _ _ rfl)

theorem letGo (b : Books w held [] none) {c : ContextId} (hc : c ∈ held) :
    Books w (held.filter (· ≠ c)) (if (w.context c).isReleased then [] else [c]) none where
  home := b.home
  counted := b.counted
  held_known d hd := b.held_known d (List.mem_of_mem_filter hd)
  parked_open r d hd := ⟨(b.parked_open r d hd).1, fun h => (b.parked_open r d hd).2 (List.mem_of_mem_filter h)⟩
  parked_nodup := b.parked_nodup
  draining_open d hd := by
    split at hd
    · cases hd
    · next hrel =>
      obtain rfl := List.mem_singleton.mp hd
      have hopen := (w.mem_openContextsOf _ d).mpr ⟨b.held_known d hc, rfl, Bool.eq_false_iff.mpr hrel⟩
      exact ⟨hopen, by simp, fun hp => (b.parked_open _ d hp).2 hc⟩
  draining_nodup := by
    split
    · exact List.nodup_nil
    · exact List.nodup_singleton c
  kept r d hd := by
    by_cases hdc : d = c
    · subst hdc
      have hrel := ((w.mem_openContextsOf r d).mp hd).2.2
      simp [hrel]
    · rcases b.kept r d hd with h | h | h
      · exact .inl (List.mem_filter.mpr ⟨h, by simpa using hdc⟩)
      · cases h
      · exact .inr (.inr h)
  engine_gone := b.engine_gone
  engine_goes := b.engine_goes
  engines := b.engines

theorem park {c : ContextId} (b : Books w held [c] none) :
    Books (w.modifyRuntime (w.context c).runtime fun s => { s with parked := s.parked ++ [c] }) held [] none := by
  have hc := b.draining_open c (List.mem_singleton_self c)
  have hmem := (w.mem_openContextsOf _ c).mp hc.1
  have hhome := b.home c hmem.1
  generalize hr : (w.context c).runtime = r at hc hhome
  have hcr : c ∉ (w.runtime r).parked := by
    rw [← hr]
    exact hc.2.2
  have hrun (r' : RuntimeId) :
      (w.modifyRuntime r fun s => { s with parked := s.parked ++ [c] }).runtime r' =
        if r' = r then { w.runtime r with parked := (w.runtime r).parked ++ [c] } else w.runtime r' := by
    rw [World.runtime_modifyRuntime]
    simp only [hhome, and_true]
  have hpark (r' : RuntimeId) :
      ((w.modifyRuntime r fun s => { s with parked := s.parked ++ [c] }).runtime r').parked =
        if r' = r then (w.runtime r).parked ++ [c] else (w.runtime r').parked := by
    rw [hrun]
    split <;> rfl
  have hsame (r' : RuntimeId) :
      ((w.modifyRuntime r fun s => { s with parked := s.parked ++ [c] }).runtime r').openContexts =
          (w.runtime r').openContexts ∧
        ((w.modifyRuntime r fun s => { s with parked := s.parked ++ [c] }).runtime r').freed =
          (w.runtime r').freed ∧
        ((w.modifyRuntime r fun s => { s with parked := s.parked ++ [c] }).runtime r').hasEngine =
          (w.runtime r').hasEngine := by
    rw [hrun]
    split
    · next h =>
      rw [h]
      exact ⟨rfl, rfl, rfl⟩
    · exact ⟨rfl, rfl, rfl⟩
  have hopens (r' : RuntimeId) :
      (w.modifyRuntime r fun s => { s with parked := s.parked ++ [c] }).openContextsOf r' = w.openContextsOf r' :=
    World.openContextsOf_of_contexts (w.contexts_modifyRuntime r _) r'
  constructor
  case home => simpa using b.home
  case counted => simpa only [hsame, hopens] using b.counted
  case held_known => simpa using b.held_known
  case parked_open =>
    intro r' d hd
    rw [hpark] at hd
    rw [hopens]
    split at hd
    · next h =>
      subst h
      rcases List.mem_append.mp hd with hd | hd
      · exact b.parked_open r' d hd
      · obtain rfl := List.mem_singleton.mp hd
        exact ⟨hc.1, hc.2.1⟩
    · exact b.parked_open r' d hd
  case parked_nodup =>
    intro r'
    rw [hpark]
    split
    · exact (b.parked_nodup r).append (List.nodup_singleton c) (by simpa using hcr)
    · exact b.parked_nodup r'
  case draining_open => exact fun d hd => absurd hd List.not_mem_nil
  case draining_nodup => exact List.nodup_nil
  case kept =>
    intro r' d hd
    rw [hopens] at hd
    rw [hpark]
    rcases b.kept r' d hd with h | h | h
    · exact .inl h
    · obtain rfl := List.mem_singleton.mp h
      have hrr : r' = r := by
        rw [← hr]
        exact ((w.mem_openContextsOf r' d).mp hd).2.1.symm
      rw [if_pos hrr]
      exact .inr (.inr (List.mem_append_right _ (List.mem_singleton_self d)))
    · split
      · next hrr =>
        subst hrr
        exact .inr (.inr (List.mem_append_left _ h))
      · exact .inr (.inr h)
  case engine_gone => simpa only [hsame] using b.engine_gone
  case engine_goes => simpa only [hsame] using b.engine_goes
  case engines => exact b.engines.modifyRuntime _ fun _ => rfl

end

theorem freeContext (b : Books w held [] none) {c : ContextId} (hc : c ∈ held) :
    Books (w.freeContext c) held [] none := by
  have b' := b.of_life (w.life_dropPending c)
  exact b'.release (b'.held_known c hc) fun hp => (b'.parked_open _ c hp).2 hc

theorem dropContext (b : Books w held [] none) {c : ContextId} (hc : c ∈ held) :
    Books (w.dropContext c) (held.filter (· ≠ c)) [] none := by
  have b' := (b.of_life (w.life_dropPending c)).letGo hc
  simp only [World.dropContext]
  generalize w.dropPending c = w' at b'
  split at b'
  · next hrel => rwa [if_pos hrel]
  · next hrel =>
    rw [if_neg hrel]
    have hopen := b'.draining_open c (List.mem_singleton_self c)
    split
    · have hreleased := b'.release ((w'.mem_openContextsOf _ c).mp hopen.1).1 hopen.2.2
      rwa [List.erase_cons_head] at hreleased
    · exact (b'.of_life (World.life_report w' .contextParked rfl)).park

section

omit [Guest.Collector]

theorem newRuntime (b : Books w held [] none) (config : Config) : Books (w.newRuntime config).2 held [] none := by
  have hcontext (c : ContextId) : (w.newRuntime config).2.context c = w.context c := rfl
  have hopens (r : RuntimeId) : (w.newRuntime config).2.openContextsOf r = w.openContextsOf r :=
    World.openContextsOf_of_contexts rfl r
  have hnone (r : RuntimeId) (hr : r.index = w.runtimes.size) : w.openContextsOf r = [] := by
    apply List.eq_nil_iff_forall_not_mem.mpr
    intro c hc
    have hc' := (w.mem_openContextsOf r c).mp hc
    have hhome := b.home c hc'.1
    rw [hc'.2.1] at hhome
    omega
  constructor
  case home =>
    intro c hc
    rw [hcontext, World.size_runtimes_newRuntime]
    exact Nat.lt_succ_of_lt (b.home c hc)
  case counted =>
    intro r
    rw [hopens, World.runtime_newRuntime]
    split
    · next hr => rw [hnone r hr]; rfl
    · exact b.counted r
  case held_known => exact b.held_known
  case parked_open =>
    intro r c hc
    rw [World.runtime_newRuntime] at hc
    split at hc
    · cases hc
    · rw [hopens]
      exact b.parked_open r c hc
  case parked_nodup =>
    intro r
    rw [World.runtime_newRuntime]
    split
    · exact List.nodup_nil
    · exact b.parked_nodup r
  case draining_open => exact fun c hc => absurd hc List.not_mem_nil
  case draining_nodup => exact List.nodup_nil
  case kept =>
    intro r c hc
    rw [hopens] at hc
    rw [World.runtime_newRuntime]
    split
    · next hr =>
      rw [hnone r hr] at hc
      cases hc
    · exact b.kept r c hc
  case engine_gone =>
    intro r hgone
    rw [World.runtime_newRuntime] at hgone ⊢
    split at hgone
    · cases hgone
    · next hr =>
      rw [if_neg hr]
      exact b.engine_gone r hgone
  case engine_goes =>
    intro r _ hfreed
    rw [World.runtime_newRuntime] at hfreed ⊢
    split at hfreed
    · cases hfreed
    · next hr =>
      rw [if_neg hr]
      exact b.engine_goes r (by simp) hfreed
  case engines => exact b.engines.newRuntime config

theorem addContext (b : Books w held [] none) {r : RuntimeId} (hr : r.index < w.runtimes.size)
    (hopen : (w.runtime r).freed = false) : Books (w.addContext r).2 ((w.addContext r).1 :: held) [] none := by
  have hrun (r' : RuntimeId) : (w.addContext r).2.runtime r' =
      if r' = r then { w.runtime r with openContexts := (w.runtime r).openContexts + 1 } else w.runtime r' := by
    rw [World.runtime_addContext]
    simp only [hr, and_true]
  have hpark (r' : RuntimeId) : ((w.addContext r).2.runtime r').parked = (w.runtime r').parked := by
    rw [hrun]
    split
    · next h => rw [h]
    · rfl
  have hnew {c : ContextId} {r' : RuntimeId} (hc : c ∈ w.openContextsOf r') : c ≠ ⟨w.contexts.size⟩ := by
    rintro rfl
    exact absurd ((w.mem_openContextsOf r' _).mp hc).1 (Nat.lt_irrefl _)
  rw [World.fst_addContext]
  constructor
  case home =>
    intro c hc
    rw [World.size_contexts_addContext] at hc
    rw [World.size_runtimes_addContext]
    have hhome := congrArg Prod.fst (w.home_addContext r c)
    dsimp only at hhome
    rw [hhome]
    split
    · exact hr
    · exact b.home c (by omega)
  case counted =>
    intro r'
    rw [hrun, World.openContextsOf_addContext]
    split
    · next h => simp [h, b.counted]
    · simp [b.counted]
  case held_known =>
    intro c hc
    rw [World.size_contexts_addContext]
    rcases List.mem_cons.mp hc with rfl | hc
    · exact Nat.lt_succ_self _
    · exact Nat.lt_succ_of_lt (b.held_known c hc)
  case parked_open =>
    intro r' c hc
    rw [hpark] at hc
    have hc' := b.parked_open r' c hc
    rw [World.openContextsOf_addContext]
    refine ⟨List.mem_append_left _ hc'.1, ?_⟩
    rw [List.mem_cons, not_or]
    exact ⟨hnew hc'.1, hc'.2⟩
  case parked_nodup => simpa only [hpark] using b.parked_nodup
  case draining_open => exact fun c hc => absurd hc List.not_mem_nil
  case draining_nodup => exact List.nodup_nil
  case kept =>
    intro r' c hc
    rw [World.openContextsOf_addContext] at hc
    rw [hpark]
    rcases List.mem_append.mp hc with hc | hc
    · rcases b.kept r' c hc with h | h
      · exact .inl (List.mem_cons_of_mem _ h)
      · exact .inr h
    · split at hc
      · exact .inl (List.mem_cons.mpr (.inl (List.mem_singleton.mp hc)))
      · cases hc
  case engine_gone =>
    intro r' hgone
    rw [hrun] at hgone ⊢
    split at hgone
    · have hfreed := (b.engine_gone r hgone).1
      rw [hopen] at hfreed
      cases hfreed
    · next h =>
      rw [if_neg h]
      exact b.engine_gone r' hgone
  case engine_goes =>
    intro r' _
    rw [hrun]
    split
    · exact fun hfreed _ => absurd (hopen.symm.trans hfreed) (by decide)
    · exact b.engine_goes r' (by simp)
  case engines => exact b.engines.addContext r

theorem setEntered (b : Books w held draining closing) (r : RuntimeId) (e : Bool) :
    Books (w.modifyRuntime r fun s => { s with entered := e }) held draining closing := by
  have hsame (r' : RuntimeId) :
      ((w.modifyRuntime r fun s => { s with entered := e }).runtime r').openContexts = (w.runtime r').openContexts ∧
        ((w.modifyRuntime r fun s => { s with entered := e }).runtime r').freed = (w.runtime r').freed ∧
        ((w.modifyRuntime r fun s => { s with entered := e }).runtime r').hasEngine = (w.runtime r').hasEngine ∧
        ((w.modifyRuntime r fun s => { s with entered := e }).runtime r').parked = (w.runtime r').parked := by
    rw [World.runtime_modifyRuntime]
    split
    · next h =>
      rw [h.1]
      exact ⟨rfl, rfl, rfl, rfl⟩
    · exact ⟨rfl, rfl, rfl, rfl⟩
  have hopens (r' : RuntimeId) :
      (w.modifyRuntime r fun s => { s with entered := e }).openContextsOf r' = w.openContextsOf r' :=
    World.openContextsOf_of_contexts (w.contexts_modifyRuntime r _) r'
  constructor
  case home => simpa using b.home
  case counted => simpa only [hsame, hopens] using b.counted
  case held_known => simpa using b.held_known
  case parked_open => simpa only [hsame, hopens] using b.parked_open
  case parked_nodup => simpa only [hsame] using b.parked_nodup
  case draining_open => simpa only [World.runtimeOf, World.context_modifyRuntime, hsame, hopens] using b.draining_open
  case draining_nodup => exact b.draining_nodup
  case kept => simpa only [hsame, hopens] using b.kept
  case engine_gone => simpa only [hsame] using b.engine_gone
  case engine_goes => simpa only [hsame] using b.engine_goes
  case engines => exact b.engines.modifyRuntime _ fun _ => rfl

end

end Books

end Embedding
