import Embedding.Proofs.Correspondence
import Embedding.Proofs.Exclusive

namespace Embedding

namespace World

variable {w : World} {c : ContextId} {h : Handle}

theorem unregister_of_lacks (hg : w.Lacks c h) : w.unregister c h = (false, w.useRegistry c) := by
  have hremove : (w.context c).registry.remove h = (none, (w.context c).registry) := by
    rw [Registry.remove, hg]
  simp only [unregister, context_useRegistry, hremove]

theorem exists_of_unregister (h' : (w.unregister c h).1 = true) : ∃ f, (w.context c).registry.get? h = some f := by
  by_contra hnone
  have hlacks : w.Lacks c h := Option.eq_none_iff_forall_ne_some.mpr fun f hf => hnone ⟨f, hf⟩
  rw [unregister_of_lacks hlacks] at h'
  cases h'

theorem get?_unregister {c' : ContextId} {g : Handle} (hne : (c', g) ≠ (c, h)) :
    ((w.unregister c h).2.context c').registry.get? g = (w.context c').registry.get? g := by
  rw [context_unregister]
  split
  · next hc =>
    obtain ⟨rfl, -⟩ := hc
    rw [Registry.get?_remove_eq, if_neg fun hg => hne (by rw [hg])]
  · rfl

end World

/-- Whether a move unregisters, with success, what a handle finds in a context. -/
def Move.revokes (c : ContextId) (h : Handle) (p : Position) : Move → Bool
  | .operate (.unregister c' h') => c' = c ∧ h' = h ∧ (p.world.unregister c h).1
  | _ => false

namespace Play

variable {p q : Position} {m : Move} {ms : List (Position × Move)} {c : ContextId} {h : Handle}

/-- How often a play unregisters, with success, what a handle finds in a context. -/
def revocations (c : ContextId) (h : Handle) (ms : List (Position × Move)) : Nat :=
  ms.countP fun pm => pm.2.revokes c h pm.1

theorem revocations_append :
    revocations c h (ms ++ [(p, m)]) = revocations c h ms + if m.revokes c h p then 1 else 0 := by
  rw [revocations, List.countP_append, List.countP_singleton, revocations]

theorem eq_of_revokes (hm : m.revokes c h p = true) :
    m = .operate (.unregister c h) ∧ (p.world.unregister c h).1 = true := by
  unfold Move.revokes at hm
  split at hm
  · obtain ⟨rfl, rfl, hremoved⟩ := of_decide_eq_true hm
    exact ⟨rfl, hremoved⟩
  · cases hm

theorem not_revokes_of_lacks (hg : p.world.Lacks c h) : m.revokes c h p = false := by
  by_contra hm
  have hremoved := (eq_of_revokes (Bool.not_eq_false _ ▸ hm)).2
  rw [World.unregister_of_lacks hg] at hremoved
  cases hremoved

theorem revocations_eq_zero (hms : ∀ pm ∈ ms, pm.2 ≠ .operate (.unregister c h)) : revocations c h ms = 0 := by
  rw [revocations, List.countP_eq_zero]
  exact fun pm hpm hm => hms pm hpm (eq_of_revokes hm).1

theorem revocations_of_lacks {later : List (Position × Move)} (hplay : Play p (ms ++ later) q)
    (hissue : ∀ pm ∈ ms, ¬ pm.2.Issues c h) (hg : p.world.Lacks c h) : revocations c h ms = 0 := by
  induction ms generalizing p with
  | nil => rfl
  | cons pm ms ih =>
    cases hplay with
    | cons hstep hrest =>
      have hnext := hstep.lacks (hissue _ List.mem_cons_self) hg
      have htail := ih hrest (fun pm hpm => hissue pm (List.mem_cons_of_mem _ hpm)) hnext
      rw [revocations, List.countP_cons, not_revokes_of_lacks hg]
      exact htail

theorem lacks_start (c : ContextId) (h : Handle) : World.Lacks {} c h := Registry.get?_ofLimit h 1

/-- What can be unregistered is what the handle was given out for, and it has not been unregistered before. -/
theorem exists_givesOut (hplay : Play {} ms p) (hfew : ∀ i, removals c i p ms < 2 ^ 32)
    (hremoved : (p.world.unregister c h).1 = true) :
    ∃ f later, GivesOut ms c h f later ∧ (p.world.context c).registry.get? h = some f ∧ revocations c h ms = 0 := by
  obtain ⟨f, hf⟩ := World.exists_of_unregister hremoved
  have hopen : (p.world.context c).isReleased = false := by
    by_contra hr
    rw [Position.Reachable.sealed ⟨ms, hplay⟩ (Bool.not_eq_false _ ▸ hr) h] at hf
    cases hf
  obtain ⟨handles, hkept⟩ := hplay.kept hopen hfew
  obtain ⟨l, hl, rfl⟩ := hkept.accounted.leased.leased h f hf
  obtain ⟨f', later, hgives, hor⟩ := hkept.recorded.given l hl
  rcases hor with ⟨hf', hlater⟩ | ⟨hnone, -⟩
  · refine ⟨f', later, hgives, hf', ?_⟩
    obtain ⟨earlier, p', rfl, hearlier, -⟩ := hgives
    have hbefore := revocations_of_lacks hplay hearlier (lacks_start c _)
    have hafter := revocations_eq_zero hlater
    rw [revocations] at hbefore hafter
    rw [revocations, List.countP_append, List.countP_cons, hbefore, hafter]
    rfl
  · rw [hf] at hnone
    cases hnone

theorem revocations_le_one (hplay : Play {} ms p) (hfew : ∀ i, removals c i p ms < 2 ^ 32) :
    revocations c h ms ≤ 1 := by
  refine hplay.induction (P := fun ms p => (∀ i, removals c i p ms < 2 ^ 32) → revocations c h ms ≤ 1) ?_
    (fun _ => Nat.zero_le _) hfew
  intro ms p m q hplay hstep ih hfew
  have hfew' (i : Nat) : removals c i p ms < 2 ^ 32 := by
    have hi := hfew i
    rw [removals_append] at hi
    omega
  rw [revocations_append]
  cases hm : m.revokes c h p with
  | false => exact ih hfew'
  | true =>
    obtain ⟨-, -, -, -, hnone⟩ := exists_givesOut hplay hfew' (eq_of_revokes hm).2
    rw [hnone]
    exact Nat.le_refl _

end Play

/-- A handle and the registrations of a context, after the moves of a play. -/
structure Identifies (ms : List (Position × Move)) (p : Position) (c : ContextId) (h : Handle) : Prop where
  /-- What can be unregistered is the one registration that the context gave out the handle for. -/
  own : (p.world.unregister c h).1 = true →
    ∃ f later, Play.GivesOut ms c h f later ∧ (p.world.context c).registry.get? h = some f
  gone : (p.world.unregister c h).2.Lacks c h
  others : ∀ c' g, (c', g) ≠ (c, h) →
    ((p.world.unregister c h).2.context c').registry.get? g = (p.world.context c').registry.get? g
  /-- A context that has not given out the handle refuses it, and nothing changes. It is a panic, though, to ask a context
  whose registry is borrowed. -/
  foreign : (∀ pm ∈ ms, ¬ pm.2.Issues c h) → p.world.unregister c h = (false, p.world.useRegistry c)
  once : Play.revocations c h ms ≤ 1

/-- Within one context a handle stands for one registration, as long as no slot has been emptied `2 ^ 32` times. -/
theorem Play.handle_identifies {p : Position} {ms : List (Position × Move)} {c : ContextId} (hplay : Play {} ms p)
    (hfew : ∀ i, Play.removals c i p ms < 2 ^ 32) (h : Handle) : Identifies ms p c h where
  own hremoved := by
    obtain ⟨f, later, hgives, hf, -⟩ := exists_givesOut hplay hfew hremoved
    exact ⟨f, later, hgives, hf⟩
  gone := World.lacks_unregister
  others _ _ hne := World.get?_unregister hne
  foreign hissue := World.unregister_of_lacks (hplay.lacks hissue (lacks_start c h))
  once := revocations_le_one hplay hfew

theorem Play.exists_sameHandle : ∃ (ms : List (Position × Move)) (p : Position), Play {} ms p ∧ ms.length = 14 ∧
    p.HostMoves ∧ p.held = [⟨1⟩, ⟨0⟩] ∧
    (p.world.context ⟨0⟩).registry.get? ⟨0, 0⟩ = some ⟨7⟩ ∧ (p.world.context ⟨1⟩).registry.get? ⟨0, 0⟩ = some ⟨8⟩ := by
  have hopen := Play.operates [.newRuntime {}, .newRuntime {}, .newContext ⟨0⟩, .newContext ⟨1⟩] (p := {}) trivial rfl
  obtain ⟨ms, w, m, hfirst, hlength, hlife, -, hother, hcontext⟩ := Play.exists_calling_new (n := 4096) (c := ⟨0⟩)
    (p := List.foldl Position.operate {} [.newRuntime {}, .newRuntime {}, .newContext ⟨0⟩, .newContext ⟨1⟩]) trivial
    (by decide) rfl rfl rfl rfl ⟨7⟩
  have hsecond := hother ⟨1⟩ (by decide)
  obtain ⟨ns, w', m', hplay, hlength', -, -, hother', hcontext'⟩ := Play.exists_calling_new (n := 4096) (c := ⟨1⟩)
    (p := ⟨w, [⟨1⟩, ⟨0⟩], [.waiting ⟨0⟩ _]⟩) trivial (by rw [World.size_contexts_of_life hlife]; decide) (by
      rw [World.contextObstacle?_of_life hlife]
      rfl) (by rw [hsecond]; rfl) (by rw [hsecond]; rfl) (by rw [hsecond]; rfl) ⟨8⟩
  refine ⟨_, _, (hopen.append hfirst).append hplay, ?_, trivial, rfl, ?_, ?_⟩
  · rw [List.length_append, List.length_append, hlength, hlength']
    rfl
  · rw [hother' ⟨0⟩ (by decide), hcontext]
    exact Registry.get?_first 4096 ⟨7⟩
  · rw [hcontext']
    exact Registry.get?_first 4096 ⟨8⟩

/-- What a handle stands for is told within its context only. Through a handle that one context has given out, the
host can unregister what another has given out the same handle for, and the handle is unregistered twice. -/
theorem unregistered_in_two_contexts : ∃ (ms : List (Position × Move)) (p : Position), Play {} ms p ∧
    (∀ c i, Play.removals c i p ms < 2 ^ 32) ∧
    Play.revocations ⟨1⟩ ⟨0, 0⟩ ms = 1 ∧ Play.revocations ⟨0⟩ ⟨0, 0⟩ ms = 1 := by
  obtain ⟨ms, p, hplay, hlength, hturn, hheld, hf, hf'⟩ := Play.exists_sameHandle
  have hremoved' := World.unregister_of_get? hf'
  have hother : (((p.world.unregister ⟨1⟩ ⟨0, 0⟩).2).context ⟨0⟩).registry.get? ⟨0, 0⟩ = some ⟨7⟩ := by
    rw [World.get?_unregister (by decide), hf]
  have hremoved := World.unregister_of_get? hother
  have hone : Step p (.operate (.unregister ⟨1⟩ ⟨0, 0⟩)) (p.operate (.unregister ⟨1⟩ ⟨0, 0⟩)) := .operate _ hturn (by
    simp [Operation.allowed, Operation.runtime?, Operation.context?, hheld])
  have hzero : Step (p.operate (.unregister ⟨1⟩ ⟨0, 0⟩)) (.operate (.unregister ⟨0⟩ ⟨0, 0⟩))
      ((p.operate (.unregister ⟨1⟩ ⟨0, 0⟩)).operate (.unregister ⟨0⟩ ⟨0, 0⟩)) := .operate _ hturn (by
    simp [Operation.allowed, Operation.runtime?, Operation.context?, Position.operate, Operation.held, hheld])
  have hall := (hplay.append (.one hone)).append (.one hzero)
  have hfew (c : ContextId) := Play.removals_lt (c := c) hplay (by omega)
  obtain ⟨-, -, -, -, hnone'⟩ := Play.exists_givesOut hplay (hfew ⟨1⟩) hremoved'
  obtain ⟨-, -, -, -, hnone⟩ := Play.exists_givesOut hplay (hfew ⟨0⟩) (World.unregister_of_get? hf)
  refine ⟨_, _, hall, fun c => Play.removals_lt hall (by simp [hlength]), ?_, ?_⟩
  · rw [Play.revocations_append, Play.revocations_append, hnone', if_pos (by simp [Move.revokes, hremoved']),
      if_neg (by simp [Move.revokes])]
  · rw [Play.revocations_append, Play.revocations_append, hnone, if_neg (by simp [Move.revokes]),
      if_pos (by simp [Move.revokes, Position.operate, Operation.apply, hremoved])]

/-- Each of two contexts unregisters what it has given out the handle for. -/
theorem handle_identifies_sameHandle : ∃ (ms : List (Position × Move)) (p : Position), Play {} ms p ∧
    (∀ i, Play.removals ⟨1⟩ i p ms < 2 ^ 32) ∧ (p.world.unregister ⟨1⟩ ⟨0, 0⟩).1 = true ∧
    Identifies ms p ⟨1⟩ ⟨0, 0⟩ := by
  obtain ⟨ms, p, hplay, hlength, -, -, -, hf⟩ := Play.exists_sameHandle
  have hfew := Play.removals_lt (c := ⟨1⟩) hplay (by omega)
  exact ⟨ms, p, hplay, hfew, World.unregister_of_get? hf, Play.handle_identifies hplay hfew ⟨0, 0⟩⟩

end Embedding
