import Embedding.Proofs.Operations

namespace Embedding

variable [Guest.Collector]

def Activity.Honest (handles : Guest.ObjectId → Option Handle) : Activity → Prop
  | running _ run => run.Honest handles
  | waiting _ resume => ∀ r, (resume r).Honest handles
  | dropping _ rest => rest.Honest handles

/-- Whether guest code of a context is running. -/
def Position.RunsIn (p : Position) (c : ContextId) : Prop :=
  match p.work with
  | .running c' _ :: _ => c' = c
  | _ => False

omit [Guest.Collector] in
theorem Position.HostMoves.not_runsIn {p : Position} (h : p.HostMoves) (c : ContextId) : ¬ p.RunsIn c := by
  obtain ⟨w, held, work⟩ := p
  cases work with
  | nil => exact id
  | cons a work =>
    cases a with
    | running c' run => exact absurd h id
    | waiting | dropping => exact id

namespace Guest

omit [Guest.Collector] in
theorem Run.Honest.final {run : Run α} {handles : ObjectId → Option Handle} (h : run.Honest handles) {m : Machine}
    (hend : run.final? = some m) : m.handleAt? = handles := by
  cases run with
  | done a m' | threw v m' | stopped why m' =>
    cases hend
    exact h
  | ask q m' resume | call begun args m' resume => cases hend

variable (m : Machine)

omit [Guest.Collector] in
theorem Machine.grant_of_ne {q : Query} (h : ∀ f, q ≠ .register f) (r : q.Reply) : m.grant q r = m := by
  cases q with
  | register f => exact absurd rfl (h f)
  | _ => rfl

omit [Guest.Collector] in
theorem Machine.handleAt?_grant (f : HostFn) (h : Handle) : (m.grant (.register f) (.ok h)).handleAt? =
    fun o => if o = m.objects.size then some h else m.handleAt? o := funext fun o => m.handleAt?_push _ o

end Guest

section

variable {work : List Activity} {c : ContextId} {α : Type} {m : Guest.Machine} {handles : Guest.ObjectId → Option Handle}
  (hothers : ∀ a ∈ work, a.context ≠ c)
include hothers

omit [Guest.Collector] in
theorem Activity.honest_of_ask {q : Guest.Query} {resume : q.Reply → Guest.Run α}
    (h : ∀ a ∈ running c (.ask q m resume) :: work, a.context = c → a.Honest handles) :
    m.handleAt? = handles ∧ ∀ r, ∀ a ∈ running c (resume r) :: work, a.context = c →
      a.Honest (m.grant q r).handleAt? := by
  obtain ⟨hsame, hresume⟩ : m.handleAt? = handles ∧ ∀ r, (resume r).Honest (m.grant q r).handleAt? :=
    h _ List.mem_cons_self rfl
  refine ⟨hsame, fun r a ha hc => ?_⟩
  rcases List.mem_cons.mp ha with rfl | ha
  · exact hresume r
  · exact absurd hc (hothers a ha)

omit [Guest.Collector] in
theorem Activity.honest_of_call {call : PendingCall} {args : List Native} {resume : Except String Native → Guest.Run α}
    (h : ∀ a ∈ running c (.call call args m resume) :: work, a.context = c → a.Honest handles) {next : Activity}
    (hnext : (∀ r, (resume r).Honest handles) → next.Honest handles) :
    m.handleAt? = handles ∧ ∀ a ∈ next :: work, a.context = c → a.Honest handles := by
  obtain ⟨hsame, hresume⟩ : m.handleAt? = handles ∧ ∀ r, (resume r).Honest handles := h _ List.mem_cons_self rfl
  refine ⟨hsame, fun a ha hc => ?_⟩
  rcases List.mem_cons.mp ha with rfl | ha
  · exact hnext hresume
  · exact absurd hc (hothers a ha)

end

namespace ContextState

/-- No guest code is running: the functions that are leased have their handles, and have not been freed. -/
structure Settled (s : ContextState) (handles : Guest.ObjectId → Option Handle) : Prop where
  machine : s.machine.handleAt? = handles
  kept : ∀ l ∈ s.leases, ¬ s.Freed l.function

/-- What a move does to the registry and the leases of a context that is open afterwards. -/
inductive Moved (m : Move) (c : ContextId) (s s' : ContextState) : Prop where
  | shed (h : s.Sheds s' (fun h => m = .operate (.unregister c h))
      fun o => s'.Freed o ∨ (∃ r, m = .operate (.collect r)) ∧ s'.Unreachable o)
      (hissue : ∀ h, ¬ m.Issues c h)
  | opened (limit : Nat) (hs : s = default) (hregistry : s'.registry = Registry.ofLimit limit)
      (hleases : s'.leases = []) (hissue : ∀ h, ¬ m.Issues c h)
  | registered (f : HostFn) (o : Guest.ObjectId) (i : Nat) {s₁ : ContextState}
      (hm : m = .answer c (.register f) (.ok ⟨i, s₁.registry.generationAt i⟩))
      (hsheds : s.Sheds s₁ (fun _ => False) s'.Freed)
      (hsize : i ≤ s₁.registry.slots.size) (hfree : s₁.registry.isFree i = true)
      (hregistry : s'.registry = s₁.registry.occupy i f)
      (hleases : s'.leases = ⟨o, ⟨i, s₁.registry.generationAt i⟩⟩ :: s₁.leases)

section

variable {s s' s₁ : ContextState} {handles : Guest.ObjectId → Option Handle}

omit [Guest.Collector] in
theorem Leased.congr (h : s.Leased handles) (hregistry : s'.registry = s.registry) (hleases : s'.leases = s.leases) :
    s'.Leased handles where
  issued := hregistry ▸ h.issued
  apart := h.apart
  leased := hregistry ▸ hleases ▸ h.leased
  holds := hleases ▸ h.holds
  sound := hregistry ▸ h.sound

theorem Freed.congr {o : Guest.ObjectId} (h : s.Freed o) (hmachine : s'.machine = s.machine)
    (hpins : s'.pins = s.pins) : s'.Freed o := by
  rwa [Freed, hmachine, hpins]

theorem Leased.sheds_reaped (h : s.Leased handles) (s₁ : ContextState) (hregistry : s₁.registry = s.registry)
    (hleases : s₁.leases = s.leases) : s.Sheds s₁.reaped (fun _ => False) s₁.reaped.Freed := by
  have hended : s₁.Sheds s₁.reaped (fun _ => False) s₁.Freed := (h.congr hregistry hleases).sheds_endLeases
  exact (Sheds.of_same hregistry hleases).trans hended

theorem settled_reaped (hmachine : s.machine.handleAt? = handles) : s.reaped.Settled handles :=
  ⟨hmachine, fun _ => not_freed_of_mem_reaped (s := s)⟩

namespace Operated

variable {op : Operation} {c : ContextId} (hop : s.Operated op c s') (h : s.Leased handles)
  (hsettled : s.Settled handles)
include hop

section

include h

theorem moved : s.Moved (.operate op) c s' := by
  cases hop with
  | kept hregistry hleases => exact .shed (.of_same hregistry hleases) fun _ => id
  | removed g hop =>
    have hsheds : s.Sheds { s with registry := (s.registry.remove g).2 } (· = g) fun _ => False :=
      .remove g rfl rfl
    refine .shed (hsheds.imp ?_ fun _ => False.elim) fun _ => id
    rintro _ rfl
    rw [hop]
  | @reaped s₁ hregistry hleases =>
    exact .shed ((h.sheds_reaped _ hregistry hleases).imp (fun _ => False.elim) fun _ => .inl) fun _ => id
  | collected r hop =>
    exact .shed (h.sheds_endLeases.imp (fun _ => False.elim) fun o ho => .inr ⟨⟨r, by rw [hop]⟩, ho⟩) fun _ => id
  | opened limit hs hregistry hleases => exact .opened limit hs hregistry hleases fun _ => id

end

include hsettled

theorem settled [Guest.Collector.Lawful] : s'.Settled handles := by
  cases hop with
  | kept hregistry hleases hmachine hpins =>
    refine ⟨hmachine ▸ hsettled.machine, fun l hl hfreed => ?_⟩
    rw [Freed, hmachine] at hfreed
    exact hsettled.kept l (hleases ▸ hl) (Guest.Collector.Lawful.of_more hpins hfreed)
  | removed g => exact ⟨hsettled.machine, hsettled.kept⟩
  | reaped _ _ hmachine => exact settled_reaped (hmachine ▸ hsettled.machine)
  | collected => exact ⟨hsettled.machine, fun l hl => hsettled.kept l (List.mem_of_mem_filter hl)⟩
  | opened limit hs hregistry hleases hmachine =>
    refine ⟨?_, fun l hl => ?_⟩
    · rw [hmachine, ← hsettled.machine, hs]
      rfl
    · rw [hleases] at hl
      cases hl

include h

theorem leased (hascends : s.registry.Ascends s'.registry) : s'.Leased handles := by
  cases hop.moved h with
  | shed hsheds => exact h.sheds hsheds hascends
  | opened limit hs hregistry hleases =>
    have hnone : handles = fun _ => none := by
      rw [← hsettled.machine, hs]
      rfl
    subst hnone
    constructor
    case issued => exact nofun
    case apart => exact nofun
    case leased =>
      intro g f hf
      rw [hregistry, Registry.get?_ofLimit] at hf
      cases hf
    case holds =>
      intro l hl
      rw [hleases] at hl
      cases hl
    case sound => exact hregistry ▸ Registry.sound_ofLimit limit
  | registered f o i hm => cases hm

end Operated

end

end ContextState

namespace World

variable {w : World} {c c' : ContextId}

/-- A function of the host is kept when there is room for it, once all has ended that is not in use any more. -/
theorem context_register_self (f : HostFn) (h : c.index < w.contexts.size) (hopen : (w.context c).isReleased = false)
    (hsound : (w.context c).reaped.registry.Sound) :
    ((w.context c).reaped.registry.live < (w.context c).reaped.registry.limit ∧
      ∃ i ≤ (w.context c).reaped.registry.slots.size, i < (w.context c).reaped.registry.limit ∧
        (w.context c).reaped.registry.isFree i = true ∧
        (w.register c f).1 = .ok ⟨i, (w.context c).reaped.registry.generationAt i⟩ ∧
        (w.register c f).2.context c = { (w.context c).reaped with
          registry := (w.context c).reaped.registry.occupy i f
          leases := ⟨(w.context c).machine.objects.size, ⟨i, (w.context c).reaped.registry.generationAt i⟩⟩ ::
            (w.context c).reaped.leases }) ∨
    ((w.context c).reaped.registry.limit ≤ (w.context c).reaped.registry.live ∧
      (w.register c f).1 = .error (.registryFull (w.context c).reaped.registry.limit) ∧
        (w.register c f).2.context c = (w.context c).reaped) := by
  have hreap : (w.reap c).context c = (w.context c).reaped := by rw [context_reap, if_pos ⟨rfl, h⟩]
  have hmachine := (w.context c).machine_reaped
  have hsize : c.index < (w.reap c).contexts.size := by rwa [size_contexts_reap]
  simp only [register, hopen, Bool.false_eq_true, if_false, hreap]
  rw [← hmachine]
  generalize (w.context c).reaped = s at *
  rcases hsound.insert f with ⟨hroom, i, hi, hlimit, hfree, hok⟩ | ⟨hfull, herror⟩
  · refine .inl ⟨hroom, i, hi, hlimit, hfree, ?_⟩
    simp only [hok, context_report, context_modifyContext_self _ hsize, hreap, and_self]
  · exact .inr ⟨hfull, by simp only [herror, hreap, and_self]⟩

end World

structure Move.Spares (m : Move) (p q : Position) (c : ContextId) : Prop where
  size : q.world.contexts.size = p.world.contexts.size
  context : q.world.context c = p.world.context c
  work : ∀ a, a.context = c → (a ∈ q.work ↔ a ∈ p.work)
  issues : ∀ h, ¬ m.Issues c h

theorem Step.spares {p q : Position} {m : Move} {c c' : ContextId} (hstep : Step p m q) (hruns : p.RunsIn c')
    (hc : c ≠ c') : m.Spares p q c := by
  have hleft {a b : Activity} {work : List Activity} (hb : b.context = c') (hac : a.context = c) :
      a ∈ b :: work ↔ a ∈ work :=
    List.mem_cons.trans (or_iff_right fun hab => hc (hac.symm.trans (hab ▸ hb)))
  have hwork {a b b' : Activity} {work : List Activity} (hb : b.context = c') (hb' : b'.context = c')
      (hac : a.context = c) : a ∈ b :: work ↔ a ∈ b' :: work :=
    (hleft hb hac).trans (hleft hb' hac).symm
  cases hstep with
  | operate op hturn => exact absurd hruns (hturn.not_runsIn c')
  | enter x hturn => exact absurd hruns (hturn.not_runsIn c')
  | reply | dropped => exact absurd hruns id
  | @answer w held work _ α q m resume | @refuse w held work _ α q m resume =>
    cases hruns
    refine ⟨World.size_contexts_of_life (World.life_asked _ _ _ _),
      (World.context_answer_of_ne q hc).trans (World.context_setMachine_of_ne hc), fun _ => hwork rfl rfl, fun h => ?_⟩
    cases q with
    | register f => exact fun hissue => hc hissue.1.symm
    | _ => exact id
  | @free w held work _ α q m resume =>
    cases hruns
    exact ⟨World.size_contexts_of_life (World.life_freed _ _ _),
      (World.context_reap_of_ne hc).trans (World.context_setMachine_of_ne hc), fun _ => hwork rfl rfl, fun _ => id⟩
  | call =>
    cases hruns
    exact ⟨World.size_contexts_of_life (World.life_called _ _ _ _),
      (World.context_makeCall_of_ne _ hc).trans (World.context_setMachine_of_ne hc), fun _ => hwork rfl rfl, fun _ => id⟩
  | leave hend =>
    cases hruns
    exact ⟨(World.size_contexts_of_life (World.life_leave _ _)).trans (World.size_contexts_setMachine ..),
      (World.context_leave_of_ne hc).trans (World.context_setMachine_of_ne hc), fun _ hac => (hleft rfl hac).symm,
      fun _ => id⟩

omit [Guest.Collector] in
theorem Position.RunsIn.eq {p : Position} {c c' : ContextId} (h : p.RunsIn c) (h' : p.RunsIn c') : c = c' := by
  obtain ⟨w, held, work⟩ := p
  cases work with
  | nil => exact h.elim
  | cons a work =>
    cases a with
    | running => exact h.symm.trans h'
    | waiting | dropping => exact h.elim

/-- What work accounts for in a context: the leases, the functions of the host that running code has at hand, and,
when none runs, what the engine has freed. -/
structure Position.Accounted (p : Position) (c : ContextId) (handles : Guest.ObjectId → Option Handle) : Prop where
  leased : (p.world.context c).Leased handles
  honest : ∀ a ∈ p.work, a.context = c → a.Honest handles
  settled : ¬ p.RunsIn c → (p.world.context c).Settled handles

/-- What a move does to a context, and to what is accounted for in it as long as no generation starts over. -/
structure Move.Accounts (m : Move) (p q : Position) (c : ContextId) : Prop where
  moved : (p.world.context c).Moved m c (q.world.context c)
  kept : ¬ q.RunsIn c → ∀ l ∈ (q.world.context c).leases, ¬ (q.world.context c).Freed l.function
  accounted : (p.world.context c).registry.Ascends (q.world.context c).registry → ∃ handles, q.Accounted c handles

section Accounts

variable {p q : Position} {m : Move} {c : ContextId} {handles : Guest.ObjectId → Option Handle}

theorem Position.Accounted.elsewhere (hp : p.Accounted c handles) (h : m.Spares p q c) (hruns : ¬ p.RunsIn c) :
    m.Accounts p q c := by
  refine ⟨.shed ?_ h.issues, fun _ => ?_, fun _ => ⟨handles, ?_, ?_, ?_⟩⟩
  · exact h.context ▸ .of_same rfl rfl
  · exact h.context ▸ (hp.settled hruns).kept
  · exact h.context ▸ hp.leased
  · exact fun a ha hc => hp.honest a ((h.work a hc).mp ha) hc
  · exact fun _ => h.context ▸ hp.settled hruns

theorem Position.Accounted.shed (hp : p.Accounted c handles)
    (hsheds : (p.world.context c).Sheds (q.world.context c) (fun _ => False) (q.world.context c).Freed)
    (hhonest : ∀ a ∈ q.work, a.context = c → a.Honest handles)
    (hsettled : ¬ q.RunsIn c → (q.world.context c).Settled handles) (hissue : ∀ h, ¬ m.Issues c h) :
    m.Accounts p q c :=
  ⟨.shed (hsheds.imp (fun _ => False.elim) fun _ => .inl) hissue, fun h => (hsettled h).kept,
    fun hascends => ⟨handles, hp.leased.sheds hsheds hascends, hhonest, hsettled⟩⟩

end Accounts

namespace Position.Accounted

variable {w : World} {held : List ContextId} {work : List Activity} {c : ContextId} {α : Type}
  {m : Guest.Machine} {handles : Guest.ObjectId → Option Handle}

theorem answer_of_ne {q : Guest.Query} {resume : q.Reply → Guest.Run α} (hq : ∀ f, q ≠ .register f)
    (hp : Position.Accounted ⟨w, held, .running c (.ask q m resume) :: work⟩ c handles)
    (hknown : c.index < w.contexts.size) (hothers : ∀ a ∈ work, a.context ≠ c) :
    Move.Accounts (.answer c q ((w.setMachine c m).answer c q).1)
      ⟨w, held, .running c (.ask q m resume) :: work⟩
      ⟨((w.setMachine c m).answer c q).2, held, .running c (resume ((w.setMachine c m).answer c q).1) :: work⟩ c := by
  obtain ⟨rfl, hrest⟩ := Activity.honest_of_ask hothers hp.honest
  have hset := World.context_setMachine_self m hknown
  obtain ⟨s₁, hregistry, hleases, hor⟩ := World.context_answer_self (w := w.setMachine c m) (c := c) q hq
    (by rwa [World.size_contexts_setMachine])
  rw [hset] at hregistry hleases
  generalize w.setMachine c m = w₁ at *
  have hissue (h : Handle) : ¬ Move.Issues c h (.answer c q (w₁.answer c q).1) := by
    cases q with
    | register f => exact absurd rfl (hq f)
    | _ => exact id
  have hrest := hrest (w₁.answer c q).1
  rw [m.grant_of_ne hq] at hrest
  refine hp.shed ?_ hrest (fun h => absurd rfl h) hissue
  rcases hor with hcontext | hcontext
  · rw [hcontext]
    exact .of_same hregistry hleases
  · rw [hcontext]
    exact hp.leased.sheds_reaped _ hregistry hleases

section

variable {f : HostFn} {resume : (Guest.Query.register f).Reply → Guest.Run α}
  (hp : Position.Accounted ⟨w, held, .running c (.ask (.register f) m resume) :: work⟩ c handles)
  (hknown : c.index < w.contexts.size) (hopen : (w.context c).isReleased = false) (hothers : ∀ a ∈ work, a.context ≠ c)
include hp hknown hopen hothers

/-- A run asks for a function of the host: it gets one that is leased from then on, or the registry is full. -/
theorem answer_register : Move.Accounts (.answer c (.register f) ((w.setMachine c m).register c f).1)
    ⟨w, held, .running c (.ask (.register f) m resume) :: work⟩
    ⟨((w.setMachine c m).register c f).2, held, .running c (resume ((w.setMachine c m).register c f).1) :: work⟩ c := by
  obtain ⟨rfl, hrest⟩ := Activity.honest_of_ask hothers hp.honest
  have hleased : (w.context c).Leased m.handleAt? := hp.leased
  have hset := World.context_setMachine_self m hknown
  have hregistry : ((w.setMachine c m).context c).registry = (w.context c).registry := by rw [hset]
  have hleases : ((w.setMachine c m).context c).leases = (w.context c).leases := by rw [hset]
  have hmachine : ((w.setMachine c m).context c).machine = m := by rw [hset]
  have hopen' : ((w.setMachine c m).context c).isReleased = false := by rw [hset]; exact hopen
  have hknown' : c.index < (w.setMachine c m).contexts.size := by rwa [World.size_contexts_setMachine]
  have hreaped := hleased.sheds_reaped _ hregistry hleases
  clear hset
  generalize w.setMachine c m = w₁ at *
  rcases World.context_register_self f hknown' hopen' (hreaped.sound hleased.sound) with
    ⟨-, i, hsize, hlimit, hfree, hok, hcontext⟩ | ⟨-, herror, hcontext⟩
  · refine ⟨.registered f m.objects.size i (congrArg _ hok) (hreaped.imp (fun _ => id) fun o ho => ?_) hsize hfree
      ?_ ?_, fun h => absurd rfl h, fun hascends => ⟨_, ?_, hrest _, fun h => absurd rfl h⟩⟩
    · apply ho.congr <;> rw [hcontext]
    · rw [hcontext]
    · rw [hcontext, hmachine]
    · have hascends' : (w.context c).registry.Ascends (w₁.context c).reaped.registry := fun j => by
        have hj := hascends j
        rw [hcontext] at hj
        rwa [Registry.generationAt_occupy hsize] at hj
      have hnew : m.handleAt? m.objects.size = none := by simp [Guest.Machine.handleAt?]
      rw [hcontext, hok, Guest.Machine.handleAt?_grant, hmachine]
      exact (hleased.sheds hreaped hascends').register hsize hlimit hfree f hnew
  · have hissue (h : Handle) : ¬ Move.Issues c h (.answer c (.register f) (w₁.register c f).1) := by
      rintro ⟨-, hok⟩
      rw [herror] at hok
      cases hok
    refine hp.shed ?_ ?_ (fun h => absurd rfl h) hissue
    · rw [hcontext]
      exact hreaped
    · have hrest := hrest (w₁.register c f).1
      rw [herror] at hrest
      rwa [herror]

end

theorem answer {q : Guest.Query} {resume : q.Reply → Guest.Run α}
    (hp : Position.Accounted ⟨w, held, .running c (.ask q m resume) :: work⟩ c handles)
    (hknown : c.index < w.contexts.size) (hopen : (w.context c).isReleased = false)
    (hothers : ∀ a ∈ work, a.context ≠ c) : Move.Accounts (.answer c q ((w.setMachine c m).answer c q).1)
      ⟨w, held, .running c (.ask q m resume) :: work⟩
      ⟨((w.setMachine c m).answer c q).2, held, .running c (resume ((w.setMachine c m).answer c q).1) :: work⟩ c := by
  cases q with
  | register f => exact hp.answer_register hknown hopen hothers
  | _ => exact answer_of_ne nofun hp hknown hothers

/-- The host drops a function that is refused: the registry is full, though all has ended that is not in use any more. -/
theorem refuse {q : Guest.Query} {resume : q.Reply → Guest.Run α}
    (hp : Position.Accounted ⟨w, held, .running c (.ask q m resume) :: work⟩ c handles)
    (hknown : c.index < w.contexts.size) (hopen : (w.context c).isReleased = false) (hothers : ∀ a ∈ work, a.context ≠ c)
    (hrefused : (q.refused? ((w.setMachine c m).answer c q).1).isSome) :
    Move.Accounts (.answer c q ((w.setMachine c m).answer c q).1) ⟨w, held, .running c (.ask q m resume) :: work⟩
      ⟨((w.setMachine c m).answer c q).2.lendRegistry c, held,
        .dropping c (resume ((w.setMachine c m).answer c q).1) :: work⟩ c := by
  obtain ⟨f, rfl⟩ : ∃ f, q = .register f := by
    cases q with
    | register f => exact ⟨f, rfl⟩
    | _ => cases hrefused
  obtain ⟨rfl, hrest⟩ := Activity.honest_of_ask hothers hp.honest
  have hleased : (w.context c).Leased m.handleAt? := hp.leased
  have hset := World.context_setMachine_self m hknown
  have hreaped := hleased.sheds_reaped { w.context c with machine := m } rfl rfl
  rcases World.context_register_self f (w := w.setMachine c m) (by rwa [World.size_contexts_setMachine])
      (by rw [hset]; exact hopen) (by rw [hset]; exact hreaped.sound hleased.sound) with
    ⟨-, i, -, -, -, hok, -⟩ | ⟨-, herror, hcontext⟩
  · rw [World.answer, hok] at hrefused
    cases hrefused
  · have hcontext' : (((w.setMachine c m).register c f).2.lendRegistry c).context c =
        ContextState.reaped { w.context c with machine := m } := by rw [← hset]; exact hcontext
    have hissue (h : Handle) : ¬ Move.Issues c h (.answer c (.register f) ((w.setMachine c m).register c f).1) := by
      rintro ⟨-, hok⟩
      rw [herror] at hok
      cases hok
    refine hp.shed ?_ (fun a ha hac => ?_) (fun _ => ?_) hissue
    · rw [World.answer, hcontext']
      exact hreaped
    · rcases List.mem_cons.mp ha with rfl | ha
      · have hnext := hrest ((w.setMachine c m).register c f).1 _ List.mem_cons_self rfl
        rw [herror] at hnext
        rwa [World.answer, herror]
      · exact absurd hac (hothers a ha)
    · rw [World.answer, hcontext']
      exact ContextState.settled_reaped rfl

theorem free {q : Guest.Query} {resume : q.Reply → Guest.Run α}
    (hp : Position.Accounted ⟨w, held, .running c (.ask q m resume) :: work⟩ c handles)
    (hknown : c.index < w.contexts.size) (hothers : ∀ a ∈ work, a.context ≠ c) :
    Move.Accounts (.freed c) ⟨w, held, .running c (.ask q m resume) :: work⟩
      ⟨(w.setMachine c m).reap c, held, .dropping c (.ask q m resume) :: work⟩ c := by
  obtain ⟨rfl, -⟩ := Activity.honest_of_ask hothers hp.honest
  have hleased : (w.context c).Leased m.handleAt? := hp.leased
  have hcontext : ((w.setMachine c m).reap c).context c = ContextState.reaped { w.context c with machine := m } := by
    rw [World.context_reap, if_pos ⟨rfl, by rwa [World.size_contexts_setMachine]⟩, World.context_setMachine_self m hknown]
  refine hp.shed ?_ (fun a ha hac => ?_) (fun _ => ?_) fun _ => id
  · rw [hcontext]
    exact hleased.sheds_reaped _ rfl rfl
  · rcases List.mem_cons.mp ha with rfl | ha
    · exact hp.honest (.running c (.ask q m resume)) List.mem_cons_self rfl
    · exact absurd hac (hothers a ha)
  · rw [hcontext]
    exact ContextState.settled_reaped rfl

theorem call {call : PendingCall} {args : List Native} {resume : Except String Native → Guest.Run α}
    (hp : Position.Accounted ⟨w, held, .running c (.call call args m resume) :: work⟩ c handles)
    (hknown : c.index < w.contexts.size) (hothers : ∀ a ∈ work, a.context ≠ c) :
    Move.Accounts (.call c call args) ⟨w, held, .running c (.call call args m resume) :: work⟩
      ⟨(w.setMachine c m).makeCall c call, held, .waiting c resume :: work⟩ c := by
  have hwaiting : (∀ r, (resume r).Honest handles) → Activity.Honest handles (.waiting c resume) := id
  obtain ⟨rfl, hrest⟩ := Activity.honest_of_call hothers hp.honest hwaiting
  have hleased : (w.context c).Leased m.handleAt? := hp.leased
  have hcontext := World.context_makeCall_self (w := w.setMachine c m) (c := c) call
    (by rwa [World.size_contexts_setMachine])
  rw [World.context_setMachine_self m hknown] at hcontext
  have hreaped := hleased.sheds_reaped { w.context c with machine := m } rfl rfl
  have hsettled := ContextState.settled_reaped (s := { w.context c with machine := m }) rfl
  generalize ContextState.reaped { w.context c with machine := m } = s₁ at *
  refine hp.shed ?_ hrest (fun _ => ?_) fun _ => id
  · rw [hcontext]
    have hsame : s₁.Sheds { s₁ with begun := (w.context c).begun.erase call } (fun _ => False) s₁.Freed := .of_same rfl rfl
    exact hreaped.trans hsame
  · rw [hcontext]
    exact ⟨hsettled.machine, hsettled.kept⟩

theorem leave {run : Guest.Run α}
    (hp : Position.Accounted ⟨w, held, .running c run :: work⟩ c handles) (hend : run.final? = some m)
    (hknown : c.index < w.contexts.size) (hothers : ∀ a ∈ work, a.context ≠ c) :
    Move.Accounts (.leave c) ⟨w, held, .running c run :: work⟩ ⟨(w.setMachine c m).leave c, held, work⟩ c := by
  have hrun : run.Honest handles := hp.honest _ List.mem_cons_self rfl
  obtain rfl := hrun.final hend
  have hleased : (w.context c).Leased m.handleAt? := hp.leased
  have hcontext := World.context_leave_self (w := w.setMachine c m) (c := c) (by rwa [World.size_contexts_setMachine])
  rw [World.context_setMachine_self m hknown] at hcontext
  have hreaped := hleased.sheds_reaped { w.context c with machine := m.atRest, begun := [] } rfl rfl
  have hsettled := ContextState.settled_reaped (s := { w.context c with machine := m.atRest, begun := [] })
    m.handleAt?_atRest
  refine hp.shed ?_ ?_ (fun _ => ?_) fun _ => id
  · rw [hcontext]
    exact hreaped
  · exact fun a ha hc => absurd hc (hothers a ha)
  · rw [hcontext]
    exact hsettled

end Position.Accounted

theorem Step.accounts [Guest.Collector.Lawful] {p q : Position} {m : Move} {c : ContextId} {handles : Guest.ObjectId → Option Handle}
    (hstep : Step p m q) (hseated : Seated p.world (p.work.map Activity.context)) (hp : p.Accounted c handles)
    (hopen : (q.world.context c).isReleased = false) : m.Accounts p q c := by
  have hopen' := hstep.open_before hopen
  by_cases helse : ∃ c', p.RunsIn c' ∧ c ≠ c'
  · obtain ⟨c', hruns, hc⟩ := helse
    exact hp.elsewhere (hstep.spares hruns hc) fun h => hc (h.eq hruns)
  have hhere {c' : ContextId} (hruns : p.RunsIn c') : c = c' := by_contra fun hc => helse ⟨c', hruns, hc⟩
  cases hstep with
  | operate op hturn =>
    have hop := op.operated p.world c hopen
    have hsettled := hp.settled (hturn.not_runsIn c)
    have hsettled' := hop.settled hsettled
    exact ⟨hop.moved hp.leased, fun _ => hsettled'.kept, fun hascends =>
      ⟨handles, hop.leased hp.leased hsettled hascends, hp.honest, fun _ => hsettled'⟩⟩
  | @enter _ c' α x hturn hc hfree =>
    have hsettled := hp.settled (hturn.not_runsIn c)
    refine hp.shed (.of_same rfl rfl) (fun a ha hac => ?_) (fun _ => hsettled) fun _ => id
    rcases List.mem_cons.mp ha with rfl | ha
    · obtain rfl : c' = c := hac
      have hrun := (x.caught.run Guest.Engine.standard).honest (p.world.machineFor c')
      rwa [Guest.Machine.handleAt?_of_objects (p.world.objects_machineFor c'), hsettled.machine] at hrun
    · exact hp.honest a ha hac
  | answer =>
    cases hhere rfl
    exact hp.answer (hseated.known c List.mem_cons_self) hopen' hseated.others
  | free =>
    cases hhere rfl
    exact hp.free (hseated.known c List.mem_cons_self) hseated.others
  | refuse hrefused =>
    cases hhere rfl
    exact hp.refuse (hseated.known c List.mem_cons_self) hopen' hseated.others hrefused
  | call =>
    cases hhere rfl
    exact hp.call (hseated.known c List.mem_cons_self) hseated.others
  | @reply w held work c' α resume r =>
    refine hp.shed (.of_same rfl rfl) (fun a ha hac => ?_) (fun _ => hp.settled id) fun _ => id
    rcases List.mem_cons.mp ha with rfl | ha
    · exact hp.honest _ List.mem_cons_self hac r
    · exact hp.honest a (List.mem_cons_of_mem _ ha) hac
  | @dropped w held work c' α rest =>
    refine hp.shed (.of_same rfl rfl) (fun a ha hac => ?_) (fun _ => hp.settled id) fun _ => id
    rcases List.mem_cons.mp ha with rfl | ha
    · exact hp.honest (.dropping c' rest) List.mem_cons_self hac
    · exact hp.honest a (List.mem_cons_of_mem _ ha) hac
  | leave hend =>
    cases hhere rfl
    exact hp.leave hend (hseated.known c List.mem_cons_self) hseated.others

end Embedding
