import Embedding.Proofs.Calling
import Embedding.Proofs.Registrations

namespace Embedding

section

variable [Guest.Collector]

namespace Play

def next (q : Position) : List (Position × Move) → Position
  | [] => q
  | (p, _) :: _ => p

/-- How often a slot of a context is emptied in a play. Each time it gets another generation. -/
def removals (c : ContextId) (i : Nat) (q : Position) : List (Position × Move) → Nat
  | [] => 0
  | (p, _) :: ms =>
    removals c i q ms +
      if ((next q ms).world.context c).registry.generationAt i = (p.world.context c).registry.generationAt i then 0 else 1

section

variable {p q : Position} {m : Move} {ms : List (Position × Move)} {c : ContextId} {i : Nat}

section

omit [Guest.Collector]

theorem next_append : next q (ms ++ [(p, m)]) = next p ms := by
  cases ms <;> rfl

theorem removals_append : removals c i q (ms ++ [(p, m)]) = removals c i p ms +
    if (q.world.context c).registry.generationAt i = (p.world.context c).registry.generationAt i then 0 else 1 := by
  induction ms with
  | nil => rfl
  | cons pm ms ih =>
    rw [List.cons_append, removals, removals, ih, next_append]
    omega

theorem removals_le_length : removals c i q ms ≤ ms.length := by
  induction ms with
  | nil => exact Nat.le_refl _
  | cons pm ms ih =>
    rw [removals, List.length_cons]
    split <;> omega

end

theorem removals_lt (_ : Play p ms q) (hlength : ms.length < 2 ^ 32) : ∀ i, removals c i q ms < 2 ^ 32 :=
  fun _ => Nat.lt_of_le_of_lt removals_le_length hlength

/-- A handle is given out for a function, and not before or after; `later` are the moves that come after. -/
def GivesOut (ms : List (Position × Move)) (c : ContextId) (h : Handle) (f : HostFn)
    (later : List (Position × Move)) : Prop :=
  ∃ earlier p, ms = earlier ++ (p, .answer c (.register f) (.ok h)) :: later ∧
    (∀ pm ∈ earlier, ¬ pm.2.Issues c h) ∧ ∀ pm ∈ later, ¬ pm.2.Issues c h

omit [Guest.Collector] in
theorem GivesOut.append {h : Handle} {f : HostFn} {later : List (Position × Move)} (hgives : GivesOut ms c h f later)
    (hm : ¬ m.Issues c h) : GivesOut (ms ++ [(p, m)]) c h f (later ++ [(p, m)]) := by
  obtain ⟨earlier, p', rfl, hearlier, hlater⟩ := hgives
  refine ⟨earlier, p', by simp, hearlier, fun pm hpm => ?_⟩
  rcases List.mem_append.mp hpm with hpm | hpm
  · exact hlater pm hpm
  · obtain rfl := List.mem_singleton.mp hpm
    exact hm

end

/-- What a play has left registered. All handles that it gave out have been issued, and a function that leases a
handle got it for a function of the host, which is registered unless the handle has been unregistered since. -/
structure Recorded (ms : List (Position × Move)) (c : ContextId) (s : ContextState) : Prop where
  issued : ∀ pm ∈ ms, ∀ h, pm.2.Issues c h → s.registry.Issued h
  given : ∀ l ∈ s.leases, ∃ f later, GivesOut ms c l.handle f later ∧
    (s.registry.get? l.handle = some f ∧ (∀ pm ∈ later, pm.2 ≠ .operate (.unregister c l.handle)) ∨
      s.registry.get? l.handle = none ∧ ∃ pm ∈ later, pm.2 = .operate (.unregister c l.handle))

end Play

theorem Step.lacks_of_unregister {p q : Position} {c : ContextId} {h : Handle}
    (hstep : Step p (.operate (.unregister c h)) q) : (q.world.context c).registry.get? h = none := by
  cases hstep with
  | operate => exact World.lacks_unregister

theorem Step.runsIn_of_registered {p p' : Position} {m : Move} {c : ContextId} {f : HostFn} {h : Handle}
    (hstep : Step p m p') (hm : m = .answer c (.register f) (.ok h)) : p'.RunsIn c := by
  cases hstep with
  | answer =>
    injection hm with hc
  | @refuse w held work c' α q m resume hrefused =>
    generalize ((w.setMachine c' m).answer c' q).1 = reply at hm hrefused
    cases hm
    cases hrefused
  | _ => cases hm

namespace ContextState

variable {s s' : ContextState} {handles : Guest.ObjectId → Option Handle} {m : Move} {c : ContextId}

theorem Moved.ascends (h : s.Moved m c s')
    (hfew : ∀ i, (s.registry.generationAt i).toNat +
      (if s'.registry.generationAt i = s.registry.generationAt i then 0 else 1) < 2 ^ 32) :
    s.registry.Ascends s'.registry ∧ ∀ i, (s'.registry.generationAt i).toNat = (s.registry.generationAt i).toNat +
      if s'.registry.generationAt i = s.registry.generationAt i then 0 else 1 := by
  cases h with
  | shed hsheds => exact hsheds.registry.ascends hfew
  | opened limit hs hregistry =>
    have hzero (i : Nat) : s'.registry.generationAt i = s.registry.generationAt i := by
      rw [hregistry, hs]
      rfl
    refine ⟨fun i => ?_, fun i => ?_⟩
    · rw [hzero]
      exact UInt32.le_refl _
    · rw [hzero, if_pos rfl, Nat.add_zero]
  | @registered f o i s₁ hm hsheds hsize _ hregistry =>
    have hsame (j : Nat) : s'.registry.generationAt j = s₁.registry.generationAt j := by
      rw [hregistry, Registry.generationAt_occupy hsize]
    simp only [hsame] at hfew
    have hpruned := hsheds.registry.ascends hfew
    simpa only [Registry.Ascends, hsame] using hpruned

/-- An entry that a move takes away is unregistered, or its function gives up its lease. -/
theorem Moved.gone (h : s.Moved m c s') {g : Handle} {f : HostFn} (hf : s.registry.get? g = some f)
    (hnone : s'.registry.get? g = none) : m = .operate (.unregister c g) ∨
      ∃ l ∈ s.leases, l.handle = g ∧ l ∉ s'.leases ∧
        (s'.Freed l.function ∨ (∃ r, m = .operate (.collect r)) ∧ s'.Unreachable l.function) := by
  cases h with
  | shed hsheds =>
    rcases hsheds.gone g f hf hnone with hremoved | ⟨l, hl, hg, hl'⟩
    · exact .inl hremoved
    · exact .inr ⟨l, hl, hg, hl', hsheds.freed l hl hl'⟩
  | opened limit hs =>
    rw [hs] at hf
    cases (Registry.get?_ofLimit g 1).symm.trans hf
  | @registered f' o i s₁ hm hsheds hsize hfree hregistry hleases =>
    rw [hregistry, Registry.get?_occupy hsize hfree] at hnone
    split at hnone
    · cases hnone
    · next hg =>
      rcases hsheds.gone g f hf hnone with hremoved | ⟨l, hl, hl', hgone⟩
      · cases hremoved
      · refine .inr ⟨l, hl, hl', fun hmem => ?_, .inl (hsheds.freed l hl hgone)⟩
        rw [hleases] at hmem
        rcases List.mem_cons.mp hmem with rfl | hmem
        · exact hg hl'.symm
        · exact hgone hmem

omit [Guest.Collector] in
theorem Leased.stays (h : s.Leased handles) {removed : Handle → Prop} {freed : Guest.ObjectId → Prop}
    (hsheds : s.Sheds s' removed freed) {l : Lease} (hl : l ∈ s'.leases) (hkept : ¬ removed l.handle) {f : HostFn}
    (hf : s.registry.get? l.handle = some f) : s'.registry.get? l.handle = some f := by
  cases hafter : s'.registry.get? l.handle with
  | none =>
    rcases hsheds.gone _ f hf hafter with hremoved | ⟨l', hl', heq, hgone⟩
    · exact absurd hremoved hkept
    · rw [h.unique hl' (hsheds.leases l hl) heq] at hgone
      exact absurd hl hgone
  | some f' => rw [← hf, hsheds.registry.get? hafter]

end ContextState

namespace Play.Recorded

variable {ms : List (Position × Move)} {c : ContextId} {s s' : ContextState}
  {handles : Guest.ObjectId → Option Handle} {p q : Position} {m : Move}

section

omit [Guest.Collector]

/-- A function that leases an entry after a move got it before, and at most the move has unregistered it. -/
theorem given_shed (hrec : Recorded ms c s) (h : s.Leased handles) {freed : Guest.ObjectId → Prop}
    (hsheds : s.Sheds s' (fun g => m = .operate (.unregister c g)) freed)
    (hgone : ∀ g, m = .operate (.unregister c g) → s'.registry.get? g = none) {l : Lease} (hl : l ∈ s'.leases)
    (hissue : ¬ m.Issues c l.handle) : ∃ f later, GivesOut (ms ++ [(p, m)]) c l.handle f later ∧
      (s'.registry.get? l.handle = some f ∧ (∀ pm ∈ later, pm.2 ≠ .operate (.unregister c l.handle)) ∨
        s'.registry.get? l.handle = none ∧ ∃ pm ∈ later, pm.2 = .operate (.unregister c l.handle)) := by
  obtain ⟨f, later, hgives, hor⟩ := hrec.given l (hsheds.leases l hl)
  refine ⟨f, _, hgives.append hissue, ?_⟩
  by_cases hm : m = .operate (.unregister c l.handle)
  · exact .inr ⟨hgone _ hm, (p, m), List.mem_append_right _ (List.mem_singleton_self _), hm⟩
  · rcases hor with ⟨hf, hkept⟩ | ⟨hnone, pm, hpm, hremoved⟩
    · refine .inl ⟨h.stays hsheds hl hm hf, fun pm hpm => ?_⟩
      rcases List.mem_append.mp hpm with hpm | hpm
      · exact hkept pm hpm
      · obtain rfl := List.mem_singleton.mp hpm
        exact hm
    · exact .inr ⟨hsheds.registry.get?_eq_none hnone, pm, List.mem_append_left _ hpm, hremoved⟩

/-- A move that sheds entries unregisters one of them at most; the others are still as they were given out. -/
theorem shed (hrec : Recorded ms c s) (h : s.Leased handles) {freed : Guest.ObjectId → Prop}
    (hsheds : s.Sheds s' (fun g => m = .operate (.unregister c g)) freed) (hascends : s.registry.Ascends s'.registry)
    (hissue : ∀ g, ¬ m.Issues c g) (hgone : ∀ g, m = .operate (.unregister c g) → s'.registry.get? g = none) :
    Recorded (ms ++ [(p, m)]) c s' where
  issued pm hpm g hg := by
    rcases List.mem_append.mp hpm with hpm | hpm
    · exact (hrec.issued pm hpm g hg).prune hsheds.registry hascends
    · obtain rfl := List.mem_singleton.mp hpm
      exact absurd hg (hissue g)
  given _ hl := hrec.given_shed h hsheds hgone hl (hissue _)

theorem register (hrec : Recorded ms c s) (h : s.Leased handles) {f : HostFn} {o : Guest.ObjectId} {i : Nat}
    {s₁ : ContextState} {freed : Guest.ObjectId → Prop}
    (hm : m = .answer c (.register f) (.ok ⟨i, s₁.registry.generationAt i⟩)) (hsheds : s.Sheds s₁ (fun _ => False) freed)
    (hsize : i ≤ s₁.registry.slots.size) (hfree : s₁.registry.isFree i = true)
    (hregistry : s'.registry = s₁.registry.occupy i f)
    (hleases : s'.leases = ⟨o, ⟨i, s₁.registry.generationAt i⟩⟩ :: s₁.leases)
    (hascends : s.registry.Ascends s'.registry) : Recorded (ms ++ [(p, m)]) c s' := by
  have hascends₁ : s.registry.Ascends s₁.registry := fun j => by
    have hj := hascends j
    rwa [hregistry, Registry.generationAt_occupy hsize] at hj
  have hissued₁ (g : Handle) (hg : s.registry.Issued g) : s₁.registry.Issued g := hg.prune hsheds.registry hascends₁
  have hnew (g : Handle) (hg : s.registry.Issued g) : ¬ m.Issues c g := by
    rw [hm]
    rintro ⟨-, hok⟩
    cases hok
    exact Registry.not_issued_of_isFree hfree (hissued₁ _ hg)
  have hnot (g : Handle) : m ≠ .operate (.unregister c g) := by
    rw [hm]
    exact nofun
  constructor
  case issued =>
    intro pm hpm g hg
    rw [hregistry]
    rcases List.mem_append.mp hpm with hpm | hpm
    · exact (hissued₁ g (hrec.issued pm hpm g hg)).occupy hsize f
    · obtain rfl := List.mem_singleton.mp hpm
      rw [hm] at hg
      obtain ⟨-, hok⟩ := hg
      cases hok
      apply Registry.Issued.of_get? (f := f)
      rw [Registry.get?_occupy hsize hfree, if_pos rfl]
  case given =>
    intro l hl
    rw [hleases] at hl
    rcases List.mem_cons.mp hl with rfl | hl
    · refine ⟨f, [], ⟨ms, p, by rw [hm], fun pm hpm hg => ?_, fun _ => by simp⟩, .inl ⟨?_, fun _ => by simp⟩⟩
      · exact hnew _ (hrec.issued pm hpm _ hg) (by rw [hm]; exact ⟨rfl, rfl⟩)
      · rw [hregistry, Registry.get?_occupy hsize hfree, if_pos rfl]
    · have hissued := h.issued _ _ (h.holds l (hsheds.leases l hl))
      have hget : s'.registry.get? l.handle = s₁.registry.get? l.handle := by
        rw [hregistry, Registry.get?_occupy hsize hfree, if_neg]
        intro heq
        exact Registry.not_issued_of_isFree hfree (heq ▸ hissued₁ _ hissued)
      rw [hget]
      exact hrec.given_shed h (hsheds.imp (fun _ => False.elim) fun _ => id) (fun g hg => absurd hg (hnot g)) hl
        (hnew _ hissued)

end

theorem step (hrec : Recorded ms c s) (h : s.Leased handles) (hmoved : s.Moved m c s')
    (hascends : s.registry.Ascends s'.registry) (hgone : ∀ g, m = .operate (.unregister c g) → s'.registry.get? g = none) :
    Recorded (ms ++ [(p, m)]) c s' := by
  cases hmoved with
  | shed hsheds hissue => exact hrec.shed h hsheds hascends hissue hgone
  | opened limit hs hregistry hleases hissue =>
    constructor
    case issued =>
      intro pm hpm g hg
      rcases List.mem_append.mp hpm with hpm | hpm
      · obtain ⟨t, ht, -⟩ := hrec.issued pm hpm g hg
        rw [hs] at ht
        cases ht
      · obtain rfl := List.mem_singleton.mp hpm
        exact absurd hg (hissue g)
    case given =>
      intro l hl
      rw [hleases] at hl
      cases hl
  | registered f o i hm hsheds hsize hfree hregistry hleases =>
    exact hrec.register h hm hsheds hsize hfree hregistry hleases hascends

end Play.Recorded

/-- What is registered in a context and the guest functions that lease it correspond, after the moves of a play. -/
structure Corresponds (ms : List (Position × Move)) (p : Position) (c : ContextId) : Prop where
  leased : ∀ h f, (p.world.context c).registry.get? h = some f →
    ∃ l ∈ (p.world.context c).leases, l.handle = h ∧ ∀ l' ∈ (p.world.context c).leases, l'.handle = h → l' = l
  /-- While no guest code of the context runs, the functions with leases are those with a handle of the host that the
  engine has not freed. No other function has the handle. -/
  unfreed : ¬ p.RunsIn c → ∀ l ∈ (p.world.context c).leases, ¬ (p.world.context c).Freed l.function ∧
    ∀ o, (p.world.context c).machine.handleAt? o = some l.handle ↔ o = l.function
  /-- A function that has not been freed leases an entry of its own, with the function of the host that it was made
  for, until its handle is unregistered. -/
  own : ∀ l ∈ (p.world.context c).leases, ∃ f later, Play.GivesOut ms c l.handle f later ∧
    (((p.world.context c).registry.get? l.handle = some f ∧ ∀ pm ∈ later, pm.2 ≠ .operate (.unregister c l.handle)) ∨
      ((p.world.context c).registry.get? l.handle = none ∧ ∃ pm ∈ later, pm.2 = .operate (.unregister c l.handle)))
  /-- An entry that a move takes away is unregistered, or goes with its function: the engine frees it, or a full
  collection does. -/
  gone : ∀ m q, Step p m q → (q.world.context c).isReleased = false →
    ∀ h f, (p.world.context c).registry.get? h = some f → (q.world.context c).registry.get? h = none →
      m = .operate (.unregister c h) ∨
      ∃ l ∈ (p.world.context c).leases, l.handle = h ∧ l ∉ (q.world.context c).leases ∧
        ((q.world.context c).Freed l.function ∨
          (∃ r, m = .operate (.collect r)) ∧ (q.world.context c).Unreachable l.function)
  /-- To free functions whose entries have gone before takes nothing away, whatever is in their slots now. -/
  stale : ∀ places : List Nat,
    (∀ l ∈ (p.world.context c).leases, l.function ∈ places → (p.world.context c).registry.get? l.handle = none) →
    ∀ h, ((p.world.context c).endLeases places).registry.get? h = (p.world.context c).registry.get? h
  /-- A move after which no guest code runs takes away exactly the entries whose functions the engine has freed, if it
  neither unregisters nor collects. -/
  exact : ∀ m q, Step p m q → (q.world.context c).isReleased = false → ¬ q.RunsIn c →
    ∀ l ∈ (p.world.context c).leases, ∀ f, (p.world.context c).registry.get? l.handle = some f →
      m ≠ .operate (.unregister c l.handle) → (∀ r, m ≠ .operate (.collect r)) →
      ((q.world.context c).registry.get? l.handle = none ↔ (q.world.context c).Freed l.function)

structure Play.Kept (ms : List (Position × Move)) (p : Position) (c : ContextId)
    (handles : Guest.ObjectId → Option Handle) : Prop where
  accounted : p.Accounted c handles
  recorded : Play.Recorded ms c (p.world.context c)
  generations : ∀ i, ((p.world.context c).registry.generationAt i).toNat = Play.removals c i p ms

theorem Play.kept [Guest.Collector.Lawful] {p : Position} {ms : List (Position × Move)} {c : ContextId} (hplay : Play {} ms p)
    (hopen : (p.world.context c).isReleased = false) (hfew : ∀ i, Play.removals c i p ms < 2 ^ 32) :
    ∃ handles, Play.Kept ms p c handles := by
  refine hplay.induction (P := fun ms p => (p.world.context c).isReleased = false →
    (∀ i, Play.removals c i p ms < 2 ^ 32) → ∃ handles, Play.Kept ms p c handles) ?_ ?_ hopen hfew
  · intro ms p m q hplay hstep ih hopen hfew
    simp only [removals_append] at hfew
    obtain ⟨handles, hkept⟩ := ih (hstep.open_before hopen) fun i => Nat.lt_of_le_of_lt (Nat.le_add_right _ _) (hfew i)
    simp only [← hkept.generations] at hfew
    have haccounts := hstep.accounts (Position.Reachable.seated ⟨ms, hplay⟩) hkept.accounted hopen
    obtain ⟨hascends, hcount⟩ := haccounts.moved.ascends hfew
    obtain ⟨handles', haccounted⟩ := haccounts.accounted hascends
    refine ⟨handles', haccounted, ?_, fun i => ?_⟩
    · refine hkept.recorded.step hkept.accounted.leased haccounts.moved hascends fun g hg => ?_
      rw [hg] at hstep
      exact hstep.lacks_of_unregister
    · rw [hcount, hkept.generations, removals_append]
  · intro _ _
    refine ⟨fun _ => none, ⟨⟨nofun, nofun, ?_, nofun, Registry.sound_ofLimit 1⟩, nofun, ?_⟩, ⟨nofun, nofun⟩, ?_⟩
    · intro h f hf
      rw [show (World.context {} c).registry = Registry.ofLimit 1 from rfl, Registry.get?_ofLimit] at hf
      cases hf
    · exact fun _ => ⟨rfl, nofun⟩
    · exact fun _ => rfl

/-- In every context that is open, as long as no slot has been emptied `2 ^ 32` times. -/
theorem Play.corresponds [Guest.Collector.Lawful] {p : Position} {ms : List (Position × Move)} {c : ContextId} (hplay : Play {} ms p)
    (hopen : (p.world.context c).isReleased = false) (hfew : ∀ i, Play.removals c i p ms < 2 ^ 32) :
    Corresponds ms p c := by
  obtain ⟨handles, hkept⟩ := hplay.kept hopen hfew
  have hleased := hkept.accounted.leased
  have hseated := Position.Reachable.seated ⟨ms, hplay⟩
  constructor
  case leased =>
    intro h f hf
    obtain ⟨l, hl, hh⟩ := hleased.leased h f hf
    exact ⟨l, hl, hh, fun l' hl' hh' => hleased.unique hl' hl (hh'.trans hh.symm)⟩
  case unfreed =>
    intro hturn l hl
    have hsettled := hkept.accounted.settled hturn
    refine ⟨hsettled.kept l hl, fun o => ?_⟩
    rw [hsettled.machine]
    exact ⟨fun ho => hleased.apart _ _ _ ho (hleased.holds l hl), fun ho => ho ▸ hleased.holds l hl⟩
  case own => exact hkept.recorded.given
  case gone =>
    intro m q hstep hopenq h f hf hnone
    exact (hstep.accounts hseated hkept.accounted hopenq).moved.gone hf hnone
  case stale =>
    intro places hstale h
    rw [hleased.get?_endLeases]
    split
    · next hended =>
      obtain ⟨l, hl, rfl, ho⟩ := hended
      exact (hstale l hl ho).symm
    · rfl
  case exact =>
    intro m q hstep hopenq hturn l hl f hf hm hcollect
    have haccounts := hstep.accounts hseated hkept.accounted hopenq
    constructor
    · intro hnone
      rcases haccounts.moved.gone hf hnone with hremoved | ⟨l', hl', hh, -, hfreed | ⟨⟨r, hr⟩, -⟩⟩
      · exact absurd hremoved hm
      · exact hleased.unique hl' hl hh ▸ hfreed
      · exact absurd hr (hcollect r)
    · intro hfreed
      have hgone : l ∉ (q.world.context c).leases := fun hl' => haccounts.kept hturn l hl' hfreed
      cases haccounts.moved with
      | shed hsheds => exact hsheds.ended l hl hgone
      | opened limit hs =>
        rw [hs] at hf
        cases (Registry.get?_ofLimit l.handle 1).symm.trans hf
      | registered f' o i hmove => exact absurd (hstep.runsIn_of_registered hmove) hturn

end

/-- A function that guest code has been given and calls: while the host carries out the call, its entry is there. -/
theorem Play.corresponds_duringCall :
    ∃ (p : Position) (ms : List (Position × Move)), Play {} ms p ∧ p.HostMoves ∧
      (p.world.context ⟨0⟩).isReleased = false ∧ (p.world.context ⟨0⟩).registry.get? ⟨0, 0⟩ = some ⟨7⟩ ∧
      (∀ i, Play.removals ⟨0⟩ i p ms < 2 ^ 32) ∧ Corresponds ms p ⟨0⟩ := by
  have hmade := Play.operates [.newRuntime {}, .newContext ⟨0⟩] (p := {}) trivial rfl
  have hturn : (([.newRuntime {}, .newContext ⟨0⟩] : List Operation).foldl Position.operate {}).HostMoves := trivial
  obtain ⟨ms, w, m, hcall, hlength, hlife, -, -, hcontext⟩ := Play.exists_calling_new (c := ⟨0⟩) (n := 4096) hturn
    (by decide) rfl rfl rfl rfl ⟨7⟩
  have hplay := hmade.append hcall
  have hopen : (w.context ⟨0⟩).isReleased = false := (World.isReleased_of_life hlife ⟨0⟩).trans rfl
  have hfew := Play.removals_lt (c := ⟨0⟩) hplay (by simp [Position.moves, hlength])
  refine ⟨_, _, hplay, trivial, hopen, ?_, hfew, Play.corresponds hplay hopen hfew⟩
  rw [hcontext]
  rfl

end Embedding
