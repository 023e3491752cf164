import Embedding.Proofs.Callbacks
import Embedding.Proofs.Operations

namespace Embedding

namespace World

/-- What is borrowed stays borrowed, and the host panics on the way just if something is the case. -/
structure PanicsIf (w w' : World) (P : Prop) : Prop where
  borrowed : w'.borrowed = w.borrowed
  panicked : w'.panicked = true ↔ w.panicked = true ∨ P

/-- Whether a context that is open has lent its builtins or its registry. -/
def Lends (w : World) (c : ContextId) : Prop :=
  (w.context c).isReleased = false ∧ (0 < (w.context c).machine.borrows ∨ c ∈ w.borrowed)

variable {w w' w'' : World} {c c' : ContextId} {r : RuntimeId} {P Q : Prop}

namespace PanicsIf

theorem refl (w : World) : w.PanicsIf w False := ⟨rfl, (or_false _).to_iff.symm⟩

theorem of_same (hborrowed : w'.borrowed = w.borrowed) (hpanicked : w'.panicked = w.panicked) : w.PanicsIf w' False :=
  ⟨hborrowed, by rw [hpanicked, or_false]⟩

theorem congr (h : w.PanicsIf w' P) (hP : P ↔ Q) : w.PanicsIf w' Q := ⟨h.borrowed, by rw [h.panicked, hP]⟩

theorem trans (h : w.PanicsIf w' P) (h' : w'.PanicsIf w'' Q) : w.PanicsIf w'' (P ∨ Q) :=
  ⟨h'.borrowed.trans h.borrowed, by rw [h'.panicked, h.panicked, or_assoc]⟩

theorem before (h : w.PanicsIf w' False) (h' : w'.PanicsIf w'' Q) : w.PanicsIf w'' Q :=
  (h.trans h').congr (or_iff_right id)

theorem after (h : w.PanicsIf w' P) (h' : w'.PanicsIf w'' False) : w.PanicsIf w'' P :=
  (h.trans h').congr (or_iff_left id)

theorem modifyContext (w : World) (c : ContextId) (f : ContextState → ContextState) :
    w.PanicsIf (w.modifyContext c f) False := .of_same rfl rfl

theorem modifyRuntime (w : World) (r : RuntimeId) (f : RuntimeState → RuntimeState) :
    w.PanicsIf (w.modifyRuntime r f) False := .of_same rfl rfl

theorem report (w : World) (e : Event) : w.PanicsIf (w.report e) False := .of_same rfl rfl

theorem useRegistry (w : World) (c : ContextId) : w.PanicsIf (w.useRegistry c) (c ∈ w.borrowed) := by
  unfold World.useRegistry
  split
  · next h => exact ⟨rfl, by simp [h]⟩
  · next h => exact (PanicsIf.refl w).congr (iff_of_false id h)

theorem unregister (w : World) (c : ContextId) (h : Handle) : w.PanicsIf (w.unregister c h).2 (c ∈ w.borrowed) := by
  simp only [World.unregister]
  split
  · exact (useRegistry w c).after (.of_same rfl rfl)
  · exact useRegistry w c

theorem unregisterAll (w : World) (c : ContextId) (hs : List Handle) :
    w.PanicsIf (w.unregisterAll c hs) (hs ≠ [] ∧ c ∈ w.borrowed) := by
  unfold World.unregisterAll
  induction hs generalizing w with
  | nil => exact (PanicsIf.refl w).congr (by simp)
  | cons h hs ih =>
    have hfirst := unregister w c h
    refine (hfirst.trans (ih _)).congr ?_
    rw [hfirst.borrowed]
    simp

theorem endLeases (w : World) (c : ContextId) (places : List Nat) : w.PanicsIf (w.endLeases c places)
    (c ∈ w.borrowed ∧ ∃ l ∈ (w.context c).leases, l.function ∈ places) := by
  refine ((modifyContext w c _).before (unregisterAll _ c _)).congr ?_
  rw [and_comm]
  refine and_congr_right fun _ => ?_
  rw [Ne, List.map_eq_nil_iff, List.filterMap_eq_nil_iff]
  simp only [List.find?_eq_none, decide_eq_true_eq]
  push Not
  constructor
  · rintro ⟨o, ho, l, hl, rfl⟩
    exact ⟨l, hl, ho⟩
  · rintro ⟨l, hl, ho⟩
    exact ⟨_, ho, l, hl, rfl⟩

theorem teardown (w : World) (r : RuntimeId) : w.PanicsIf (w.teardown r) False := by
  unfold World.teardown
  split
  · exact .of_same rfl rfl
  · exact .refl w

theorem closeContext (w : World) (r : RuntimeId) : w.PanicsIf (w.closeContext r) False := by
  simp only [World.closeContext]
  split
  · exact (modifyRuntime w r _).before (teardown _ r)
  · exact modifyRuntime w r _

theorem closeRuntime (w : World) (r : RuntimeId) : w.PanicsIf (w.closeRuntime r) False := by
  simp only [World.closeRuntime]
  split <;> exact .of_same rfl rfl

theorem takeAll (w : World) (c : ContextId) :
    w.PanicsIf (w.takeAll c) (0 < (w.context c).machine.borrows ∨ c ∈ w.borrowed) := by
  unfold World.takeAll
  split
  · next h => exact (useRegistry w c).congr (by simp [h])
  · next h => exact ⟨rfl, by simp [Nat.pos_iff_ne_zero.mpr h]⟩

theorem release (w : World) (c : ContextId) : w.PanicsIf (w.release c) (w.Lends c) := by
  by_cases hr : (w.context c).isReleased = true
  · rw [release_of_released hr]
    exact (refl w).congr (by simp [Lends, hr])
  · have hopen := Bool.eq_false_iff.mpr hr
    rw [release_of_open hopen]
    refine (((((takeAll w c).after (report _ _)).after (modifyContext _ _ _)).after (closeContext _ _)).after
      (report _ _)).congr ?_
    rw [Lends, and_iff_right hopen]

end PanicsIf

theorem lends_of_same (hreleased : (w'.context c).isReleased = (w.context c).isReleased)
    (hborrows : (w'.context c).machine.borrows = (w.context c).machine.borrows) (hborrowed : w'.borrowed = w.borrowed) :
    w'.Lends c ↔ w.Lends c := by
  rw [Lends, hreleased, hborrows, hborrowed]
  rfl

theorem known_of_lends (h : w.Lends c) (hborrowed : ∀ c ∈ w.borrowed, c.index < w.contexts.size) :
    c.index < w.contexts.size := by
  obtain ⟨-, hborrows | hc⟩ := h
  · by_contra hc
    rw [context_of_le hc] at hborrows
    exact absurd hborrows (Nat.lt_irrefl 0)
  · exact hborrowed c hc

theorem lends_release (hborrowed : ∀ c ∈ w.borrowed, c.index < w.contexts.size) :
    (w.release c).Lends c' ↔ w.Lends c' ∧ c' ≠ c := by
  have hsame := (PanicsIf.release w c).borrowed
  by_cases hr : (w.context c).isReleased = true
  · rw [release_of_released hr, iff_self_and]
    rintro h rfl
    rw [h.1] at hr
    cases hr
  · have hcontext := context_release c' (Bool.eq_false_iff.mpr hr)
    by_cases hc : c' = c
    · subst hc
      refine iff_of_false (fun h => ?_) fun h => h.2 rfl
      have hknown : c'.index < w.contexts.size := by
        have hknown := known_of_lends h (by simpa [hsame] using hborrowed)
        simpa using hknown
      rw [if_pos ⟨rfl, hknown⟩] at hcontext
      rw [Lends, hcontext] at h
      cases h.1
    · rw [if_neg fun h => hc h.1] at hcontext
      rw [Lends, hcontext, hsame, and_iff_left hc]
      rfl

theorem isReleased_of_release (h : ((w.release c).context c').isReleased = true) :
    (w.context c').isReleased = true ∨ c' = c := by
  by_cases hr : (w.context c).isReleased = true
  · rw [release_of_released hr] at h
    exact .inl h
  · rw [context_release c' (Bool.eq_false_iff.mpr hr)] at h
    split at h
    · next hc => exact .inr hc.1
    · exact .inl h

theorem isReleased_of_drain {cs : List ContextId} (h : ((cs.foldl release w).context c).isReleased = true) :
    (w.context c).isReleased = true ∨ c ∈ cs := by
  induction cs generalizing w with
  | nil => exact .inl h
  | cons d cs ih =>
    rcases ih h with h | h
    · exact (isReleased_of_release h).imp_right fun hc => List.mem_cons.mpr (.inl hc)
    · exact .inr (List.mem_cons_of_mem d h)

theorem isReleased_of_freeRuntime (h : ((w.freeRuntime r).context c).isReleased = true) :
    (w.context c).isReleased = true ∨ (w.runtime r).freed = false ∧ c ∈ (w.runtime r).parked := by
  by_cases hf : (w.runtime r).freed = true
  · rw [freeRuntime_of_freed hf] at h
    exact .inl h
  · have hopen := Bool.eq_false_iff.mpr hf
    have hdrained : (((w.runtime r).parked.foldl release (w.closeRuntime r)).context c).isReleased = true := by
      rw [freeRuntime_of_open hopen] at h
      dsimp only at h
      split at h
      · rwa [context_of_contexts (contexts_teardown _ _)] at h
      · exact h
    rcases isReleased_of_drain hdrained with h | h
    · rw [context_of_contexts (w.contexts_closeRuntime r)] at h
      exact .inl h
    · exact .inr ⟨hopen, h⟩

namespace PanicsIf

variable (hborrowed : ∀ c ∈ w.borrowed, c.index < w.contexts.size)
include hborrowed

theorem drain (cs : List ContextId) : w.PanicsIf (cs.foldl World.release w) (∃ c ∈ cs, w.Lends c) := by
  induction cs generalizing w with
  | nil => exact (refl w).congr (by simp)
  | cons c cs ih =>
    have hfirst := release w c
    refine (hfirst.trans (ih (by simpa [hfirst.borrowed] using hborrowed))).congr ?_
    simp only [lends_release hborrowed, List.mem_cons]
    grind

theorem freeRuntime (r : RuntimeId) : w.PanicsIf (w.freeRuntime r)
    ((w.runtime r).freed = false ∧ ∃ c ∈ (w.runtime r).parked, w.Lends c) := by
  by_cases hf : (w.runtime r).freed = true
  · rw [freeRuntime_of_freed hf]
    exact (refl w).congr (by simp [hf])
  · have hopen := Bool.eq_false_iff.mpr hf
    have hclose := closeRuntime w r
    have hlends (c : ContextId) : (w.closeRuntime r).Lends c ↔ w.Lends c := by
      have hsame := context_of_contexts (w.contexts_closeRuntime r) c
      exact lends_of_same (by rw [hsame]) (by rw [hsame]) hclose.borrowed
    have hdrain := hclose.before (drain (by simpa [hclose.borrowed] using hborrowed) (w.runtime r).parked)
    simp only [hlends] at hdrain
    rw [freeRuntime_of_open hopen]
    refine World.PanicsIf.congr ?_ (and_iff_right hopen).symm
    dsimp only
    split
    · exact hdrain.after (teardown _ _)
    · exact hdrain.after (report _ _)

end PanicsIf

end World

section

variable [Guest.Collector]

/-- Whether the engine has freed functions of a context that are leased. -/
def ContextState.Frees (s : ContextState) : Prop := ∃ l ∈ s.leases, s.Freed l.function

namespace World

/-- Whether the engine frees functions that are leased when the host lets go of a value. -/
def FreesBy (w : World) (v : ValueRef) : Prop :=
  ContextState.Frees { w.context v.context with pins := (w.context v.context).pins.remove v.pin }

variable {w : World} {c c' : ContextId}

theorem freesBy_of_same {w' : World} {v : ValueRef} (hmachine : (w'.context v.context).machine = (w.context v.context).machine)
    (hleases : (w'.context v.context).leases = (w.context v.context).leases)
    (hpins : (w'.context v.context).pins = (w.context v.context).pins) : w'.FreesBy v ↔ w.FreesBy v := by
  simp only [FreesBy, ContextState.Frees, ContextState.Freed, hmachine, hleases, hpins]

namespace PanicsIf

theorem reap (w : World) (c : ContextId) : w.PanicsIf (w.reap c) (c ∈ w.borrowed ∧ (w.context c).Frees) := by
  simp only [World.reap]
  split
  · next hempty =>
    refine (refl w).congr (iff_of_false id ?_)
    rintro ⟨-, l, hl, -⟩
    rw [List.isEmpty_iff.mp hempty] at hl
    cases hl
  · exact endLeases w c _

theorem collectIn (w : World) (c : ContextId) (hc : c ∉ w.borrowed) : w.PanicsIf (w.collectIn c) False := by
  simp only [World.collectIn]
  split
  · exact .refl w
  · exact (endLeases w c _).congr (iff_of_false (fun h => hc h.1) id)

theorem collect (w : World) (r : RuntimeId) (h : ∀ c ∈ w.contextsOf r, c ∉ w.borrowed) : w.PanicsIf (w.collect r) False := by
  unfold World.collect
  generalize w.contextsOf r = cs at h
  induction cs generalizing w with
  | nil => exact .refl w
  | cons c cs ih =>
    obtain ⟨hc, hcs⟩ := List.forall_mem_cons.mp h
    have hfirst := collectIn w c hc
    exact hfirst.before (ih _ fun d hd => hfirst.borrowed ▸ hcs d hd)

theorem drop (w : World) (v : ValueRef) : w.PanicsIf (w.drop v) (v.context ∈ w.borrowed ∧ w.FreesBy v) := by
  refine ((modifyContext w _ _).before (reap _ _)).congr (and_congr_right fun _ => ?_)
  by_cases hknown : v.context.index < w.contexts.size
  · rw [context_modifyContext_self _ hknown]
    exact Iff.rfl
  · have hnone : (w.context v.context).leases = [] := by rw [context_of_le hknown]; rfl
    rw [context_modifyContext, if_neg fun h => hknown h.2]
    simp [FreesBy, ContextState.Frees, hnone]

theorem dropPending (w : World) (c : ContextId) : w.PanicsIf (w.dropPending c)
    (∃ v, (w.context c).pending = some v ∧ v.context ∈ w.borrowed ∧ w.FreesBy v) := by
  unfold World.dropPending
  split
  · next v hv =>
    have hsame (d : ContextId) : ((w.modifyContext c fun s => { s with pending := none }).context d).machine =
        (w.context d).machine ∧ ((w.modifyContext c fun s => { s with pending := none }).context d).leases =
        (w.context d).leases ∧ ((w.modifyContext c fun s => { s with pending := none }).context d).pins =
        (w.context d).pins := by
      rw [context_modifyContext]
      split
      · next hd => rw [hd.1]; exact ⟨rfl, rfl, rfl⟩
      · exact ⟨rfl, rfl, rfl⟩
    obtain ⟨hmachine, hleases, hpins⟩ := hsame v.context
    refine ((modifyContext w c _).before (drop _ v)).congr ?_
    rw [freesBy_of_same hmachine hleases hpins, hv]
    simp only [Option.some.injEq, exists_eq_left']
    exact Iff.rfl
  · next hv => exact (refl w).congr (by simp [hv])

end PanicsIf

theorem lends_dropPending : (w.dropPending c').Lends c ↔ w.Lends c :=
  lends_of_same (isReleased_of_life (w.life_dropPending c') c)
    (congrArg Guest.Machine.borrows (w.dropPending_context c' c).1) (PanicsIf.dropPending w c').borrowed

end World

namespace Operation

/-- Whether an operation releases a context if that is open. -/
def Releases (w : World) (c : ContextId) : Operation → Prop
  | freeContext c' => c' = c
  | dropContext c' => c' = c ∧ (w.runtimeOf c).config.cleanup = .finalizer
  | freeRuntime r => (w.runtime r).freed = false ∧ c ∈ (w.runtime r).parked
  | dropRuntime r => (w.runtime r).freed = false ∧ (w.runtime r).config.cleanup = .finalizer ∧ c ∈ (w.runtime r).parked
  | _ => False

/-- The value that an operation lets go of. -/
def letsGo? (w : World) : Operation → Option ValueRef
  | drop v => some v
  | dropPending c | freeContext c | dropContext c => (w.context c).pending
  | _ => none

/-- Whether an operation ends registrations of a context, by their handles or with functions that the engine frees. A
collection is left out, which no context has part in that is at work. -/
def Unregisters (w : World) (c : ContextId) (op : Operation) : Prop :=
  (∃ h, op = unregister c h) ∨ ∃ v, op.letsGo? w = some v ∧ v.context = c ∧ w.FreesBy v

/-- Whether an operation takes something that a context has lent. -/
def TakesLent (w : World) (op : Operation) : Prop :=
  ∃ c, op.Releases w c ∧ w.Lends c ∨ op.Unregisters w c ∧ c ∈ w.borrowed

variable (op : Operation) {w : World}

theorem takesLent_iff {op : Operation} (hu : ∀ c h, op ≠ unregister c h) : op.TakesLent w ↔
    (∃ v, op.letsGo? w = some v ∧ v.context ∈ w.borrowed ∧ w.FreesBy v) ∨ ∃ c, op.Releases w c ∧ w.Lends c := by
  unfold TakesLent Unregisters
  constructor
  · rintro ⟨c, h | ⟨⟨h, hop⟩ | ⟨v, hv, rfl, hfrees⟩, hc⟩⟩
    · exact .inr ⟨c, h⟩
    · exact (hu c h hop).elim
    · exact .inl ⟨v, hv, hc, hfrees⟩
  · rintro (⟨v, hv, hc, hfrees⟩ | ⟨c, h⟩)
    · exact ⟨v.context, .inr ⟨.inr ⟨v, hv, rfl, hfrees⟩, hc⟩⟩
    · exact ⟨c, .inl h⟩

theorem panicsIf_apply (hborrowed : ∀ c ∈ w.borrowed, c.index < w.contexts.size ∧ (w.runtimeOf c).entered = true) :
    w.PanicsIf (op.apply w) (op.TakesLent w) := by
  have hcases {op : Operation} {w' : World} {P : Prop} (hpanics : w.PanicsIf w' P)
      (hP : P ↔ (∃ v, op.letsGo? w = some v ∧ v.context ∈ w.borrowed ∧ w.FreesBy v) ∨ ∃ c, op.Releases w c ∧ w.Lends c)
      (hu : ∀ c h, op ≠ unregister c h := by intro _ _ h; cases h) :
      w.PanicsIf w' (op.TakesLent w) := hpanics.congr (hP.trans (takesLent_iff hu).symm)
  have hknown (c : ContextId) (hc : c ∈ w.borrowed) := (hborrowed c hc).1
  cases op with
  | newRuntime | keepPending | exposed | copy =>
    exact hcases (.of_same rfl rfl) (by simp [letsGo?, Releases])
  | newContext r =>
    refine hcases (P := False) ?_ (by simp [letsGo?, Releases])
    simp only [apply]
    split <;> exact .of_same rfl rfl
  | collect r =>
    refine hcases (P := False) ?_ (by simp [letsGo?, Releases])
    simp only [apply]
    split
    · exact .refl w
    · next hfree =>
      refine .collect w r fun c hc hlent => ?_
      have hentered := (hborrowed c hlent).2
      rw [World.runtimeOf, (w.mem_contextsOf r c).mp hc |>.2] at hentered
      rw [World.runtimeObstacle?, hentered] at hfree
      revert hfree
      cases (w.runtime r).freed <;> simp
  | dropPending c => exact hcases (.dropPending w c) (by simp [letsGo?, Releases])
  | drop v => exact hcases (.drop w v) (by simp [letsGo?, Releases])
  | unregister c h =>
    refine (World.PanicsIf.unregister w c h).congr ?_
    simp [TakesLent, Releases, Unregisters, letsGo?]
  | freeContext c =>
    refine hcases ((World.PanicsIf.dropPending w c).trans (.release _ c)) ?_
    rw [World.lends_dropPending]
    simp [letsGo?, Releases]
  | dropContext c =>
    have hpending := World.PanicsIf.dropPending w c
    simp only [apply]
    rcases w.dropContext_cases c with ⟨h, hr⟩ | ⟨h, hr, hcleanup⟩ | ⟨h, hr, hcleanup⟩
    · rw [h]
      exact hcases hpending (by simp [letsGo?, Releases, World.Lends, hr])
    · rw [h]
      refine hcases (hpending.trans (.release _ c)) ?_
      rw [World.lends_dropPending]
      simp [letsGo?, Releases, hcleanup]
    · rw [h]
      exact hcases ((hpending.after (.report _ _)).after (.modifyRuntime _ _ _))
       (by simp [letsGo?, Releases, hcleanup])
  | freeRuntime r =>
    exact hcases (.freeRuntime hknown r) (by simp [letsGo?, Releases, and_assoc])
  | dropRuntime r =>
    simp only [apply, World.dropRuntime]
    split
    · next hf => exact hcases (.refl w) (by simp [letsGo?, Releases, hf])
    · split
      · next hcleanup =>
        exact hcases (.freeRuntime hknown r) (by simp [letsGo?, Releases, hcleanup, and_assoc])
      · next hcleanup _ => exact hcases (.report w _) (by simp [letsGo?, Releases, hcleanup])
      · next hcleanup _ => exact hcases (.report w _) (by simp [letsGo?, Releases, hcleanup])

theorem isReleased_apply {c : ContextId} (hknown : c.index < w.contexts.size)
    (h : ((op.apply w).context c).isReleased = true) : (w.context c).isReleased = true ∨ op.Releases w c := by
  have hlife {w' : World} (hlife : w'.life = w.life) (hr : (w'.context c).isReleased = true) :
      (w.context c).isReleased = true := by rwa [World.isReleased_of_life hlife] at hr
  cases op with
  | newRuntime | exposed => exact .inl h
  | keepPending c' v =>
    exact .inl (hlife (w.life_modifyContext c' (fun s => { s with pending := some v }) fun _ => ⟨rfl, rfl⟩) h)
  | copy v => exact .inl (hlife (w.life_copy v) h)
  | newContext r =>
    simp only [apply] at h
    split at h
    · exact .inl h
    · have hhome := congrArg Prod.snd (w.home_addContext r c)
      rw [if_neg (Nat.ne_of_lt hknown)] at hhome
      exact .inl (hhome.symm.trans h)
  | collect r =>
    simp only [apply] at h
    split at h
    · exact .inl h
    · exact .inl (hlife (w.life_collect r) h)
  | dropPending c' => exact .inl (hlife (w.life_dropPending c') h)
  | drop v => exact .inl (hlife (w.life_drop v) h)
  | unregister c' g => exact .inl (hlife (w.life_unregister c' g) h)
  | freeContext c' =>
    exact (World.isReleased_of_release h).imp (hlife (w.life_dropPending c')) Eq.symm
  | dropContext c' =>
    simp only [apply] at h
    rcases w.dropContext_cases c' with ⟨heq, -⟩ | ⟨heq, -, hcleanup⟩ | ⟨heq, -⟩ <;> rw [heq] at h
    · exact .inl (hlife (w.life_dropPending c') h)
    · refine (World.isReleased_of_release h).imp (hlife (w.life_dropPending c')) ?_
      rintro rfl
      exact ⟨rfl, hcleanup⟩
    · exact .inl (hlife (w.life_dropPending c') h)
  | freeRuntime r => exact World.isReleased_of_freeRuntime h
  | dropRuntime r =>
    simp only [apply, World.dropRuntime] at h
    split at h
    · exact .inl h
    · split at h
      · next hcleanup => exact (World.isReleased_of_freeRuntime h).imp_right fun h => ⟨h.1, hcleanup, h.2⟩
      · exact .inl h
      · exact .inl h

end Operation

namespace World

variable {w : World} {c : ContextId}

theorem refused_answer {q : Guest.Query} (h : (q.refused? (w.answer c q).1).isSome) :
    (w.context c).isReleased = false ∧ ∃ f limit, q = .register f ∧ (w.register c f).1 = .error (.registryFull limit) := by
  obtain ⟨f', hf⟩ := Option.isSome_iff_exists.mp h
  unfold Guest.Query.refused? at hf
  split at hf
  · next f limit hfull =>
    have hfull : (w.register c f).1 = .error (.registryFull limit) := hfull
    refine ⟨?_, f, limit, rfl, hfull⟩
    by_contra hr
    rw [register, if_pos (Bool.not_eq_false _ ▸ hr)] at hfull
    cases hfull
  · cases hf

namespace PanicsIf

variable (hc : c ∉ w.borrowed)
include hc

theorem reap_of_own : w.PanicsIf (w.reap c) False := (reap w c).congr (iff_of_false (fun h => hc h.1) id)

theorem answer (q : Guest.Query) : w.PanicsIf (w.answer c q).2 False := by
  have hreap := reap_of_own hc
  cases q with
  | isReleased | unmapped | pinned | remembersTexts => exact .refl w
  | register f =>
    show w.PanicsIf (w.register c f).2 False
    simp only [World.register]
    split
    · exact .refl w
    · split
      · exact (hreap.after (.modifyContext _ _ _)).after (.report _ _)
      · exact hreap
  | pin | dropCall | forgetTexts => exact .modifyContext w _ _
  | beginCall h =>
    show w.PanicsIf (w.beginCall c h).2 False
    simp only [World.beginCall]
    split
    · exact .modifyContext w _ _
    · exact .refl w
  | report n => exact hreap.after (.report _ _)

theorem makeCall (call : PendingCall) : w.PanicsIf (w.makeCall c call) False := (reap_of_own hc).after (.modifyContext _ _ _)

theorem leave : w.PanicsIf (w.leave c) False := by
  have hrest := modifyContext w c fun s => { s with machine := s.machine.atRest, begun := [] }
  exact (hrest.before (reap_of_own (hrest.borrowed ▸ hc))).after (.modifyRuntime _ _ _)

end PanicsIf

end World

/-- Whether the host is to drop functions where some work of a context is under way. -/
def Activity.Drops (c : ContextId) : Activity → Prop
  | .dropping c' _ => c' = c
  | _ => False

/-- A registry is only borrowed while a function is dropped that it was to keep, by a context that is open. -/
structure Position.Lent (p : Position) : Prop where
  drops : ∀ c ∈ p.world.borrowed, ∃ a ∈ p.work, a.Drops c
  isOpen : ∀ c ∈ p.world.borrowed, (p.world.context c).isReleased = true → p.world.panicked = true

namespace Position.Lent

variable {p : Position} {c : ContextId}

omit [Guest.Collector] in
theorem mem_work (h : p.Lent) (hc : c ∈ p.world.borrowed) : c ∈ p.work.map Activity.context := by
  obtain ⟨a, ha, hdrops⟩ := h.drops c hc
  refine List.mem_map.mpr ⟨a, ha, ?_⟩
  cases a with
  | dropping => exact hdrops
  | running | waiting => exact hdrops.elim

omit [Guest.Collector] in
theorem known (h : p.Lent) (hseated : Seated p.world (p.work.map Activity.context)) (hc : c ∈ p.world.borrowed) :
    c.index < p.world.contexts.size ∧ (p.world.runtimeOf c).entered = true :=
  ⟨hseated.known c (h.mem_work hc), (hseated.entered _).mpr ⟨c, h.mem_work hc, rfl⟩⟩

omit [Guest.Collector] in
theorem not_borrowed {w : World} {held : List ContextId} {work : List Activity} {α : Type} {run : Guest.Run α}
    (h : Lent ⟨w, held, .running c run :: work⟩) (hseated : Seated w ((Activity.running c run :: work).map Activity.context)) :
    c ∉ w.borrowed := by
  intro hc
  obtain ⟨a, ha, hdrops⟩ := h.drops c hc
  rcases List.mem_cons.mp ha with rfl | ha
  · exact hdrops
  · refine hseated.others a ha ?_
    cases a with
    | dropping => exact hdrops
    | running | waiting => exact hdrops.elim

end Position.Lent

/-- Whether a move takes something that a context has lent. -/
def Move.TakesLent (w : World) : Move → Prop
  | .operate op => op.TakesLent w
  | _ => False

namespace Step

variable {p q : Position} {m : Move} (hstep : Step p m q) (hseated : Seated p.world (p.work.map Activity.context))
  (hlent : p.Lent)
include hstep hseated hlent

theorem panicked_iff : q.world.panicked = true ↔ p.world.panicked = true ∨ m.TakesLent p.world := by
  cases hstep with
  | operate op => exact (op.panicsIf_apply fun c hc => hlent.known hseated hc).panicked
  | enter | reply | dropped => exact (or_iff_left id).symm
  | @answer w held work c α q m resume | @refuse w held work c α q m resume =>
    have hown : c ∉ (w.setMachine c m).borrowed := hlent.not_borrowed hseated
    exact (World.PanicsIf.answer hown q).panicked
  | @free w held work c α q m resume =>
    have hown : c ∉ (w.setMachine c m).borrowed := hlent.not_borrowed hseated
    exact (World.PanicsIf.reap_of_own hown).panicked
  | @call w held work c α call args m resume =>
    have hown : c ∉ (w.setMachine c m).borrowed := hlent.not_borrowed hseated
    exact (World.PanicsIf.makeCall hown call).panicked
  | @leave w held work c α run m hend =>
    have hown : c ∉ (w.setMachine c m).borrowed := hlent.not_borrowed hseated
    exact (World.PanicsIf.leave hown).panicked

theorem lent_of_same (hborrowed : q.world.borrowed = p.world.borrowed)
    (hwork : ∀ c, ∀ a ∈ p.work, a.Drops c → a ∈ q.work) : q.Lent where
  drops c hc := by
    obtain ⟨a, ha, hdrops⟩ := hlent.drops c (hborrowed ▸ hc)
    exact ⟨a, hwork c a ha hdrops, hdrops⟩
  isOpen c hc hr := by
    rw [hborrowed] at hc
    by_cases hr' : (p.world.context c).isReleased = true
    · exact (hstep.panicked_iff hseated hlent).mpr (.inl (hlent.isOpen c hc hr'))
    · cases hstep with
      | operate op =>
        have hreleases := (op.isReleased_apply (hlent.known hseated hc).1 hr).resolve_left hr'
        have hlends : p.world.Lends c := ⟨Bool.eq_false_iff.mpr hr', .inr hc⟩
        exact (op.panicsIf_apply fun c hc => hlent.known hseated hc).panicked.mpr (.inr ⟨c, .inl ⟨hreleases, hlends⟩⟩)
      | enter | reply | dropped => exact absurd hr hr'
      | answer => exact absurd (World.isReleased_of_life (World.life_asked _ _ _ _) c ▸ hr) hr'
      | free => exact absurd (World.isReleased_of_life (World.life_freed _ _ _) c ▸ hr) hr'
      | refuse => exact absurd (World.isReleased_of_life (World.life_refused _ _ _ _) c ▸ hr) hr'
      | call => exact absurd (World.isReleased_of_life (World.life_called _ _ _ _) c ▸ hr) hr'
      | leave =>
        rw [World.isReleased_of_life (World.life_leave _ _), World.context_modifyRuntime,
          World.isReleased_of_life (World.life_setMachine _ _ _)] at hr
        exact absurd hr hr'

theorem lent : q.Lent := by
  have hsame := hstep.lent_of_same hseated hlent
  have htail {a : Activity} {work : List Activity} (ha : ∀ c, ¬ a.Drops c) :
      ∀ c, ∀ b ∈ a :: work, b.Drops c → b ∈ work := by
    intro c b hb hdrops
    rcases List.mem_cons.mp hb with rfl | hb
    · exact (ha c hdrops).elim
    · exact hb
  cases hstep with
  | operate op =>
    exact hsame (op.panicsIf_apply fun c hc => hlent.known hseated hc).borrowed fun _ _ ha _ => ha
  | enter => exact hsame rfl fun _ _ ha _ => List.mem_cons_of_mem _ ha
  | reply => exact hsame rfl fun c a ha hdrops => List.mem_cons_of_mem _ (htail (fun _ => id) c a ha hdrops)
  | @answer w held work c α q m resume =>
    have hown : c ∉ (w.setMachine c m).borrowed := hlent.not_borrowed hseated
    exact hsame (World.PanicsIf.answer hown q).borrowed fun c a ha hdrops =>
      List.mem_cons_of_mem _ (htail (fun _ => id) c a ha hdrops)
  | @free w held work c α q m resume =>
    have hown : c ∉ (w.setMachine c m).borrowed := hlent.not_borrowed hseated
    exact hsame (World.PanicsIf.reap_of_own hown).borrowed fun c a ha hdrops =>
      List.mem_cons_of_mem _ (htail (fun _ => id) c a ha hdrops)
  | @call w held work c α call args m resume =>
    have hown : c ∉ (w.setMachine c m).borrowed := hlent.not_borrowed hseated
    exact hsame (World.PanicsIf.makeCall hown call).borrowed fun c a ha hdrops =>
      List.mem_cons_of_mem _ (htail (fun _ => id) c a ha hdrops)
  | @leave w held work c α run m hend =>
    have hown : c ∉ (w.setMachine c m).borrowed := hlent.not_borrowed hseated
    exact hsame (World.PanicsIf.leave hown).borrowed (htail fun _ => id)
  | @refuse w held work c α q m resume hrefused =>
    have hown : c ∉ (w.setMachine c m).borrowed := hlent.not_borrowed hseated
    have hanswer := World.PanicsIf.answer hown q
    have hlife := World.isReleased_of_life (w.life_refused c m q)
    constructor
    · intro d hd
      rcases List.mem_cons.mp hd with rfl | hd
      · exact ⟨_, List.mem_cons_self, rfl⟩
      · obtain ⟨a, ha, hdrops⟩ := hlent.drops d (hanswer.borrowed ▸ hd)
        exact ⟨a, List.mem_cons_of_mem _ (htail (fun _ => id) d a ha hdrops), hdrops⟩
    · intro d hd hr
      have hr' : (w.context d).isReleased = true := (hlife d).symm.trans hr
      rcases List.mem_cons.mp hd with rfl | hd
      · have hopen := (World.refused_answer hrefused).1
        rw [World.isReleased_of_life (w.life_setMachine d m), hr'] at hopen
        cases hopen
      · exact hanswer.panicked.mpr (.inl (hlent.isOpen d (hanswer.borrowed ▸ hd) hr'))
  | @dropped w held work c α rest =>
    have hmem {d : ContextId} (hd : d ∈ (w.takeBackRegistry c).borrowed) : d ∈ w.borrowed ∧ d ≠ c := by
      simpa [World.takeBackRegistry] using hd
    refine ⟨fun d hd => ?_, fun d hd hr => hlent.isOpen d (hmem hd).1 hr⟩
    obtain ⟨hd, hne⟩ := hmem hd
    obtain ⟨a, ha, hdrops⟩ := hlent.drops d hd
    rcases List.mem_cons.mp ha with rfl | ha
    · exact absurd hdrops.symm hne
    · exact ⟨a, List.mem_cons_of_mem _ ha, hdrops⟩

end Step

theorem Position.Reachable.lent {p : Position} (hp : p.Reachable) : p.Lent := by
  obtain ⟨ms, hplay⟩ := hp
  refine (hplay.keeps (P := fun p => p.Reachable ∧ p.Lent) (fun hstep hp => ?_) ⟨⟨[], .nil⟩, nofun, nofun⟩).2
  exact ⟨hp.1.append (.one hstep), hstep.lent hp.1.seated hp.2⟩

end

end Embedding
