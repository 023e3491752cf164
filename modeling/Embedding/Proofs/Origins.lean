import Embedding.Proofs.Histories
import Embedding.Proofs.OtherContexts
import Embedding.Proofs.ReleasedContexts

namespace Embedding

namespace Move

/-- Whether a move has to do with a context. -/
def Concerns (w : World) (c : ContextId) : Move → Prop
  | operate op => op.Concerns w c
  | enter c' | answer c' .. | call c' .. | reply c' _ | freed c' | dropped c' | leave c' => c' = c

/-- Whether a move may make objects in a context: guest code of the context has run, or the context is made. -/
def MakesIn (w : World) (c : ContextId) : Move → Prop
  | operate (.newContext _) => c.index = w.contexts.size
  | operate _ | enter _ | reply .. | dropped _ => False
  | answer c' .. | call c' .. | freed c' | leave c' => c' = c

def KeepsOwn : Move → Prop
  | operate (.keepPending c v) => v.context = c
  | _ => True

/-- A value of a context is handed out to the host. -/
def HandsOut (c : ContextId) (x : Guest.Value) (m : Move) : Prop := ∃ id, m = answer c (.pin x) id

end Move

theorem Operation.machine_apply {op : Operation} {w : World} {c : ContextId} (h : ¬ (Move.operate op).MakesIn w c) :
    ((op.apply w).context c).machine = (w.context c).machine := by
  by_cases hnew : ∃ r, op = .newContext r
  · obtain ⟨r, rfl⟩ := hnew
    simp only [apply]
    split
    · rfl
    · rw [World.context_addContext_of_ne r h]
  · by_cases hkeep : ∃ c' v, op = .keepPending c' v
    · obtain ⟨c', v, rfl⟩ := hkeep
      rw [apply, World.context_modifyContext]
      split
      · next h => rw [h.1]
      · rfl
    · exact ((op.touches w (not_exists.mp hnew) (fun c' v hop => hkeep ⟨c', v, hop⟩)).lightens c).machine

namespace Step

variable {p q : Position} {m : Move} {c : ContextId} (hstep : Step p m q)
include hstep

theorem knownContext (hc : c.index < p.world.contexts.size) : c.index < q.world.contexts.size := by
  have hlife {w' : World} (hlife : w'.life = p.world.life) : c.index < w'.contexts.size := by
    rwa [World.size_contexts_of_life hlife]
  cases hstep with
  | operate => exact Nat.lt_of_lt_of_le hc (Operation.ages _ _).size
  | enter | reply | dropped => exact hc
  | answer => exact hlife (World.life_asked _ _ _ _)
  | free => exact hlife (World.life_freed _ _ _)
  | refuse => exact hlife (World.life_refused _ _ _ _)
  | call => exact hlife (World.life_called _ _ _ _)
  | leave =>
    rw [World.size_contexts_leave, World.size_contexts_setMachine]
    exact hc

theorem context_of_not_concerns (hc : c.index < p.world.contexts.size) (h : ¬ m.Concerns p.world c) :
    q.world.context c = p.world.context c := by
  cases hstep with
  | operate => exact Operation.context_of_not_concerns hc h
  | enter | reply | dropped => rfl
  | answer => rw [World.context_answer_of_ne _ (Ne.symm h), World.context_setMachine_of_ne (Ne.symm h)]
  | refuse =>
    exact (World.context_answer_of_ne _ (Ne.symm h)).trans (World.context_setMachine_of_ne (Ne.symm h))
  | free => rw [World.context_reap_of_ne (Ne.symm h), World.context_setMachine_of_ne (Ne.symm h)]
  | call => rw [World.context_makeCall_of_ne _ (Ne.symm h), World.context_setMachine_of_ne (Ne.symm h)]
  | leave => rw [World.context_leave_of_ne (Ne.symm h), World.context_setMachine_of_ne (Ne.symm h)]

theorem machine_of_not_makesIn (h : ¬ m.MakesIn p.world c) :
    (q.world.context c).machine = (p.world.context c).machine := by
  cases hstep with
  | operate => exact Operation.machine_apply h
  | enter | reply | dropped => rfl
  | answer => rw [World.context_answer_of_ne _ (Ne.symm h), World.context_setMachine_of_ne (Ne.symm h)]
  | refuse =>
    exact congrArg (·.machine)
      ((World.context_answer_of_ne _ (Ne.symm h)).trans (World.context_setMachine_of_ne (Ne.symm h)))
  | free => rw [World.context_reap_of_ne (Ne.symm h), World.context_setMachine_of_ne (Ne.symm h)]
  | call => rw [World.context_makeCall_of_ne _ (Ne.symm h), World.context_setMachine_of_ne (Ne.symm h)]
  | leave => rw [World.context_leave_of_ne (Ne.symm h), World.context_setMachine_of_ne (Ne.symm h)]

end Step

/-- All that the host holds on to in a context, and keeps as its result, is from before, or a move has brought it. -/
structure ContextState.HoldsOn (m : Move) (c : ContextId) (s s' : ContextState) : Prop where
  pins : ∀ x ∈ s'.pins.values, x ∈ s.pins.values ∨ x = .undefined ∨ m.HandsOut c x
  pending : ∀ v, s'.pending = some v → s.pending = some v ∨ m = .operate (.keepPending c v)

namespace ContextState

variable {m : Move} {c : ContextId} {s s' : ContextState}

theorem Lightens.holdsOn (h : s.Lightens s') : s.HoldsOn m c s' where
  pins x hx := (h.pins x hx).imp_right .inl
  pending v hv := .inl (h.pending v hv)

theorem HoldsOn.of_same (h : s'.pins = s.pins ∧ s'.pending = s.pending) : s.HoldsOn m c s' :=
  ⟨fun _ hx => .inl (h.1 ▸ hx), fun _ hv => .inl (h.2 ▸ hv)⟩

theorem HoldsOn.after {s₁ : ContextState} (h : s₁.HoldsOn m c s') (hsame : s₁.pins = s.pins ∧ s₁.pending = s.pending) :
    s.HoldsOn m c s' :=
  ⟨hsame.1 ▸ h.pins, hsame.2 ▸ h.pending⟩

end ContextState

theorem Operation.holdsOn (op : Operation) (w : World) (c : ContextId) :
    (w.context c).HoldsOn (.operate op) c ((op.apply w).context c) := by
  by_cases hnew : ∃ r, op = .newContext r
  · obtain ⟨r, rfl⟩ := hnew
    simp only [apply]
    split
    · exact .of_same ⟨rfl, rfl⟩
    · by_cases hc : c.index = w.contexts.size
      · simp only [World.addContext, World.context_report, World.context_modifyRuntime]
        simp only [World.context, Array.getD_eq_getD_getElem?, hc, Array.getElem?_push_size, Option.getD_some]
        exact ⟨fun _ hl => (by cases hl), fun _ hl => (by cases hl)⟩
      · rw [World.context_addContext_of_ne r hc]
        exact .of_same ⟨rfl, rfl⟩
  · by_cases hkeep : ∃ c' v, op = .keepPending c' v
    · obtain ⟨c', v, rfl⟩ := hkeep
      rw [apply, World.context_modifyContext]
      split
      · next h =>
        obtain ⟨rfl, -⟩ := h
        exact ⟨fun _ => .inl, fun v' hv => by cases hv; exact .inr rfl⟩
      · exact .of_same ⟨rfl, rfl⟩
    · exact ((op.touches w (not_exists.mp hnew) (fun c' v hop => hkeep ⟨c', v, hop⟩)).lightens c).holdsOn

theorem World.holdsOn_answer (w : World) (c c' : ContextId) (q : Guest.Query) (r : q.Reply) :
    (w.context c).HoldsOn (.answer c' q r) c ((w.answer c' q).2.context c) := by
  by_cases hpin : ∃ x, q = .pin x
  · obtain ⟨x, rfl⟩ := hpin
    rw [answer, pin, context_modifyContext]
    split
    · next h =>
      obtain ⟨rfl, -⟩ := h
      refine ⟨fun y hy => ?_, fun _ => .inl⟩
      rcases List.mem_cons.mp hy with rfl | hy
      · dsimp only
        split
        · exact .inr (.inr ⟨r, rfl⟩)
        · exact .inr (.inl rfl)
      · exact .inl hy
    · exact .of_same ⟨rfl, rfl⟩
  · exact (lightens_answer q (fun x hq => hpin ⟨x, hq⟩) c).holdsOn

theorem Step.holdsOn {p q : Position} {m : Move} (hstep : Step p m q) (c : ContextId) :
    (p.world.context c).HoldsOn m c (q.world.context c) := by
  cases hstep with
  | operate op => exact op.holdsOn p.world c
  | enter | reply | dropped => exact .of_same ⟨rfl, rfl⟩
  | answer | refuse => exact (World.holdsOn_answer _ _ _ _ _).after (World.pins_setMachine _ c)
  | free =>
    have hreap {w' : World} {c' : ContextId} : w'.Touches (fun _ => True) (w'.reap c') := .reap trivial
    exact (hreap.lightens c).holdsOn.after (World.pins_setMachine _ c)
  | call => exact (World.lightens_makeCall _ c).holdsOn.after (World.pins_setMachine _ c)
  | leave =>
    obtain ⟨hpins, hpending⟩ := World.pins_leave (w := World.setMachine _ _ _) c
    exact (ContextState.HoldsOn.of_same ⟨hpins, hpending⟩).after (World.pins_setMachine _ c)

namespace Play

variable {p q : Position} {ms : List (Position × Move)} {c : ContextId}

/-- An object was made by a move that may make objects in the context: before it there was no such object. -/
def Made (ms : List (Position × Move)) (p : Position) (c : ContextId) (o : Guest.ObjectId) : Prop :=
  ∃ earlier p' m later, ms = earlier ++ (p', m) :: later ∧ m.MakesIn p'.world c ∧
    (p'.world.context c).machine.objects.size ≤ o ∧ o < ((next p later).world.context c).machine.objects.size

/-- A value has been handed out to the host in the context. It is no object if it is not there. -/
def HandedOut (ms : List (Position × Move)) (c : ContextId) (x : Guest.Value) : Prop :=
  x = .undefined ∨ ∃ pm ∈ ms, pm.2.HandsOut c x

theorem HandedOut.append {x : Guest.Value} (h : HandedOut ms c x) (ns : List (Position × Move)) :
    HandedOut (ms ++ ns) c x :=
  h.imp_right fun ⟨pm, hpm, hout⟩ => ⟨pm, List.mem_append_left ns hpm, hout⟩

theorem split {ns : List (Position × Move)} (hplay : Play p (ms ++ ns) q) : ∃ r, Play p ms r ∧ Play r ns q := by
  induction ms generalizing p with
  | nil => exact ⟨p, .nil, hplay⟩
  | cons pm ms ih =>
    cases hplay with
    | cons hstep hrest =>
      obtain ⟨r, hms, hns⟩ := ih hrest
      exact ⟨r, .cons hstep hms, hns⟩

theorem made (hplay : Play {} ms p) : ∀ o < (p.world.context c).machine.objects.size, Made ms p c o := by
  refine hplay.induction (P := fun ms p => ∀ o < (p.world.context c).machine.objects.size, Made ms p c o) ?_ nofun
  intro ms p m q _ hstep ih o ho
  by_cases hold : o < (p.world.context c).machine.objects.size
  · obtain ⟨earlier, p', m', later, rfl, hmakes, hbefore, hafter⟩ := ih o hold
    refine ⟨earlier, p', m', later ++ [(p, m)], by simp, hmakes, hbefore, ?_⟩
    rwa [next_append]
  · refine ⟨ms, p, m, [], rfl, ?_, Nat.not_lt.mp hold, ho⟩
    by_contra hmakes
    rw [hstep.machine_of_not_makesIn hmakes] at ho
    exact hold ho

theorem handedOut (hplay : Play {} ms p) : ∀ x ∈ (p.world.context c).pins.values, HandedOut ms c x := by
  refine hplay.induction (P := fun ms p => ∀ x ∈ (p.world.context c).pins.values, HandedOut ms c x) ?_ nofun
  intro ms p m q _ hstep ih x hx
  rcases (hstep.holdsOn c).pins x hx with hold | hnone | hout
  · exact (ih x hold).append _
  · exact .inl hnone
  · exact .inr ⟨(p, m), by simp, hout⟩

theorem pending_own (hplay : Play {} ms p) (hown : ∀ pm ∈ ms, pm.2.KeepsOwn) :
    ∀ v, (p.world.context c).pending = some v → v.context = c := by
  refine hplay.induction (P := fun ms p => (∀ pm ∈ ms, pm.2.KeepsOwn) →
    ∀ v, (p.world.context c).pending = some v → v.context = c) ?_ (fun _ => nofun) hown
  intro ms p m q _ hstep ih hown v hv
  rcases (hstep.holdsOn c).pending v hv with hold | rfl
  · exact ih (fun pm hpm => hown pm (List.mem_append_left _ hpm)) v hold
  · exact hown (p, .operate (.keepPending c v)) (by simp)

theorem context_of_not_concerns (hplay : Play p ms q) (hc : c.index < p.world.contexts.size)
    (h : ∀ pm ∈ ms, ¬ pm.2.Concerns pm.1.world c) :
    q.world.context c = p.world.context c ∧ c.index < q.world.contexts.size := by
  induction hplay with
  | nil => exact ⟨rfl, hc⟩
  | cons hstep _ ih =>
    obtain ⟨hcontext, hknown⟩ := ih (hstep.knownContext hc) fun pm hpm => h pm (List.mem_cons_of_mem _ hpm)
    exact ⟨hcontext.trans (hstep.context_of_not_concerns hc (h _ List.mem_cons_self)), hknown⟩

end Play

end Embedding
