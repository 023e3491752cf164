import Embedding.Proofs.ClosedMachines
import Embedding.Proofs.Origins

namespace Embedding

open Guest

def Activity.Accrues (n : Nat) : Activity → Prop
  | running _ run => run.Accrues n
  | waiting _ resume => ∀ r, (resume r).Accrues n
  | dropping _ rest => rest.Accrues n

/-- Work that waits for a function of the host. -/
def Activity.IsWaiting : Activity → Prop
  | waiting .. => True
  | _ => False

/-- There is no work in a context but such as waits for a function of the host. -/
def Position.Rests (p : Position) (c : ContextId) : Prop := ∀ a ∈ p.work, a.context = c → a.IsWaiting

/-- A context that refers to nothing but what it has, and that leases no function which has been freed. -/
structure ContextState.Steady (s : ContextState) : Prop where
  closed : s.machine.Closed
  kept : ∀ l ∈ s.leases, ¬ s.Freed l.function

/-- A context is tended by the work in it: the functions that are leased and the values that the host holds on to are
among so many objects, none of which is taken away, and while the work waits the context is steady. -/
structure Position.Tended (p : Position) (c : ContextId) (n : Nat) : Prop where
  realm : c.index < p.world.contexts.size → Intrinsic.globalObject < n
  placed : ∀ l ∈ (p.world.context c).leases, l.function < n
  pinned : ∀ x ∈ (p.world.context c).pins.values, ∀ t ∈ Target.ofValue x, t.Known n
  accrues : ∀ a ∈ p.work, a.context = c → a.Accrues n
  steady : p.Rests c → n ≤ (p.world.context c).machine.objects.size ∧ (p.world.context c).Steady

theorem World.context_addContext_new {w : World} (r : RuntimeId) {c : ContextId} (hc : c.index = w.contexts.size) :
    (w.addContext r).2.context c =
      { runtime := r
        machine := { Realm.initial with
          depthLimit := callDepthLimit
          memoryLimit := (w.runtime r).config.memoryLimit }
        registry := Registry.ofLimit (w.runtime r).config.maxCallbacks
        unmapped := (w.runtime r).config.unmapped } := by
  simp only [addContext, context_report, context_modifyRuntime]
  simp only [context, Array.getD_eq_getD_getElem?, hc, Array.getElem?_push_size, Option.getD_some]

theorem ContextState.Operated.leases_subset {s s' : ContextState} {op : Operation} {c : ContextId}
    (hop : s.Operated op c s') : ∀ l ∈ s'.leases, l ∈ s.leases := by
  intro l hl
  cases hop with
  | kept hregistry hleases => exact hleases ▸ hl
  | removed => exact hl
  | reaped hregistry hleases => exact hleases ▸ List.mem_of_mem_filter hl
  | collected => exact List.mem_of_mem_filter hl
  | opened limit hs hregistry hleases =>
    rw [hleases] at hl
    cases hl

theorem World.known_answer {w : World} {c : ContextId} (q : Query) :
    ∀ x ∈ ((w.answer c q).2.context c).pins.values,
      x ∈ (w.context c).pins.values ∨ ∀ t ∈ Target.ofValue x, t.Known (w.context c).machine.objects.size := by
  intro x hx
  by_cases hpin : ∃ y, q = .pin y
  · obtain ⟨y, rfl⟩ := hpin
    rw [answer, pin, context_modifyContext] at hx
    split at hx
    · dsimp only at hx
      rcases List.mem_cons.mp hx with rfl | hx
      · right
        dsimp only
        split
        · next hthere => exact Target.all_isKnown.mp hthere
        · exact fun _ ht => (by cases ht)
      · exact .inl hx
    · exact .inl hx
  · rcases (lightens_answer q (fun y hq => hpin ⟨y, hq⟩) c).pins x hx with hold | rfl
    · exact .inl hold
    · exact .inr fun _ ht => (by cases ht)

theorem World.placed_answer {w : World} {c : ContextId} (q : Query) (hknown : c.index < w.contexts.size)
    (hopen : (w.context c).isReleased = false) (hsound : (w.context c).registry.Sound) {n : Nat}
    (hn : n ≤ (w.context c).machine.objects.size) (hplaced : ∀ l ∈ (w.context c).leases, l.function < n) :
    ∀ l ∈ ((w.answer c q).2.context c).leases,
      l.function < ((w.context c).machine.grant q (w.answer c q).1).objects.size := by
  have hsize := (w.context c).machine.size_le_grant q (w.answer c q).1
  have hold {l : Lease} (hl : l ∈ (w.context c).leases) : l.function <
      ((w.context c).machine.grant q (w.answer c q).1).objects.size :=
    Nat.lt_of_lt_of_le (hplaced l hl) (Nat.le_trans hn hsize)
  intro l hl
  by_cases hregister : ∃ f, q = .register f
  · obtain ⟨f, rfl⟩ := hregister
    rcases context_register_self f hknown hopen (ContextState.sound_reaped _ hsound) with
      ⟨-, i, -, -, -, hok, hcontext⟩ | ⟨-, -, hcontext⟩
    · rw [answer, hcontext] at hl
      rcases List.mem_cons.mp hl with rfl | hl
      · rw [answer, hok]
        show (w.context c).machine.objects.size < ((w.context c).machine.objects.push _).size
        simp
      · exact hold (List.mem_of_mem_filter hl)
    · rw [answer, hcontext] at hl
      exact hold (List.mem_of_mem_filter hl)
  · obtain ⟨s₁, -, hleases, hor⟩ := context_answer_self q (fun f hf => hregister ⟨f, hf⟩) hknown
    rcases hor with hcontext | hcontext <;> rw [hcontext] at hl
    · exact hold (hleases ▸ hl)
    · exact hold (hleases ▸ List.mem_of_mem_filter hl)

namespace Position.Tended

variable {p q : Position} {c : ContextId} {n : Nat}

theorem elsewhere {m : Move} (hp : p.Tended c n) (h : m.Spares p q c) : q.Tended c n where
  realm := h.size ▸ hp.realm
  placed := h.context ▸ hp.placed
  pinned := h.context ▸ hp.pinned
  accrues a ha hc := hp.accrues a ((h.work a hc).mp ha) hc
  steady hrests := h.context ▸ hp.steady fun a ha hc => hrests a ((h.work a hc).mpr ha) hc

theorem operated (hp : p.Tended c n) {op : Operation}
    (hmachine : (q.world.context c).machine = (p.world.context c).machine)
    (hholds : (p.world.context c).HoldsOn (.operate op) c (q.world.context c)) (hop : (p.world.context c).Operated op c (q.world.context c)) (hwork : q.work = p.work)
    (hsize : q.world.contexts.size = p.world.contexts.size) : q.Tended c n where
  realm := hsize ▸ hp.realm
  placed l hl := hp.placed l (hop.leases_subset l hl)
  pinned x hx := by
    rcases hholds.pins x hx with hold | rfl | ⟨_, hout⟩
    · exact hp.pinned x hold
    · exact fun _ ht => (by cases ht)
    · cases hout
  accrues := hwork ▸ hp.accrues
  steady hrests := by
    obtain ⟨hn, hsteady⟩ := hp.steady (by rwa [Position.Rests, ← hwork])
    exact ⟨hmachine ▸ hn, hmachine ▸ hsteady.closed, (hop.settled ⟨rfl, hsteady.kept⟩).kept⟩

theorem new {r : RuntimeId} (hc : c.index = p.world.contexts.size) (hq : q.world = (p.world.addContext r).2)
    (hwork : ∀ a ∈ q.work, a.context ≠ c) : ∃ n, q.Tended c n := by
  have hcontext : q.world.context c = _ := (congrArg (World.context · c) hq).trans (World.context_addContext_new r hc)
  have hclosed := Realm.closed_initial
  have hsite : (Realm.siteAt? Intrinsic.globalObject).isSome = true := by decide +kernel
  obtain ⟨hglobal, -⟩ := Array.getElem?_eq_some_iff.mp (Realm.getElem?_initial hsite)
  generalize Realm.initial = m at hcontext hclosed hglobal
  refine ⟨m.objects.size, fun _ => hglobal, ?_, ?_, fun a ha hac => absurd hac (hwork a ha), fun _ => ?_⟩ <;> rw [hcontext]
  · exact fun _ hl => (by cases hl)
  · exact fun _ hx => (by cases hx)
  · exact ⟨Nat.le_refl _, { hclosed with }, fun _ hl => (by cases hl)⟩

theorem operate (op : Operation) (hp : p.Tended c n) (hseated : Seated p.world (p.work.map Activity.context))
    (hopen : ((op.apply p.world).context c).isReleased = false) : ∃ n', (p.operate op).Tended c n' := by
  have hop := op.operated p.world c hopen
  by_cases hnew : ∃ r, op = .newContext r
  · obtain ⟨r, rfl⟩ := hnew
    by_cases hrefused : (p.world.newContextObstacle? r).isSome = true
    · have hworld : (p.operate (.newContext r)).world = p.world := if_pos hrefused
      exact ⟨n, hworld ▸ hp.realm, hworld ▸ hp.placed, hworld ▸ hp.pinned, hp.accrues, hworld ▸ hp.steady⟩
    · have hmade : (p.operate (.newContext r)).world = (p.world.addContext r).2 := if_neg hrefused
      by_cases hc : c.index = p.world.contexts.size
      · refine Tended.new hc hmade fun a ha hac => ?_
        have hknown := hseated.known c (hac ▸ List.mem_map_of_mem ha)
        exact absurd hknown (Nat.not_lt_of_le (Nat.le_of_eq hc.symm))
      · have hcontext := World.context_addContext_of_ne r hc
        refine ⟨n, fun hknown => hp.realm ?_, ?_, ?_, hp.accrues, ?_⟩ <;> rw [hmade] at *
        · rw [World.size_contexts_addContext] at hknown
          omega
        · exact hcontext ▸ hp.placed
        · exact hcontext ▸ hp.pinned
        · exact hcontext ▸ hp.steady
  · have hsize := op.size_contexts p.world fun r hop => hnew ⟨r, hop⟩
    refine ⟨n, hp.operated (Operation.machine_apply fun hmakes => ?_) (op.holdsOn p.world c) hop rfl hsize⟩
    cases op with
    | newContext r => exact hnew ⟨r, rfl⟩
    | _ => exact hmakes

end Position.Tended

namespace Position.Tended

variable {w : World} {held : List ContextId} {work : List Activity} {c : ContextId} {a a' : Activity} {n : Nat}

/-- Work goes on in its context without a change to any context. -/
theorem goOn {w' : World} (hp : Position.Tended ⟨w, held, a :: work⟩ c n) (hw' : w'.contexts = w.contexts)
    (hcontext : a'.context = a.context) (haccrues : a.Accrues n → a'.Accrues n) (hwaits : a'.IsWaiting → a.IsWaiting) :
    Position.Tended ⟨w', held, a' :: work⟩ c n := by
  have hsame := World.context_of_contexts hw' c
  refine ⟨fun hknown => hp.realm (hw' ▸ hknown), hsame ▸ hp.placed, hsame ▸ hp.pinned, fun b hb hbc => ?_,
    fun hrests => hsame ▸ hp.steady fun b hb hbc => ?_⟩
  · rcases List.mem_cons.mp hb with rfl | hb
    · exact haccrues (hp.accrues a List.mem_cons_self (hcontext ▸ hbc))
    · exact hp.accrues b (List.mem_cons_of_mem _ hb) hbc
  · rcases List.mem_cons.mp hb with rfl | hb
    · exact hwaits (hrests a' List.mem_cons_self (hcontext.trans hbc))
    · exact hrests b (List.mem_cons_of_mem _ hb) hbc

/-- New work may begin where no other work goes on. -/
theorem enter {w' : World} (hp : Position.Tended ⟨w, held, work⟩ c n) (hw' : w'.contexts = w.contexts)
    (hseated : Seated w (work.map Activity.context)) (hfree : w.contextObstacle? a.context = none)
    (haccrues : n ≤ (w.context a.context).machine.objects.size → a.Accrues n) :
    Position.Tended ⟨w', held, a :: work⟩ c n := by
  have hsame := World.context_of_contexts hw' c
  refine ⟨fun hknown => hp.realm (hw' ▸ hknown), hsame ▸ hp.placed, hsame ▸ hp.pinned, fun b hb hbc => ?_, fun hrests => ?_⟩
  · rcases List.mem_cons.mp hb with rfl | hb
    · obtain ⟨-, hfree⟩ := World.contextObstacle_eq_none.mp hfree
      have hrests : Position.Rests ⟨w, held, work⟩ b.context := fun a ha hac => by
        rw [World.runtimeOf, (hseated.entered _).mpr ⟨b.context, hac ▸ List.mem_map_of_mem ha, rfl⟩] at hfree
        cases hfree
      subst hbc
      exact haccrues (hp.steady hrests).1
    · exact hp.accrues b hb hbc
  · exact hsame ▸ hp.steady fun b hb hbc => hrests b (List.mem_cons_of_mem _ hb) hbc

end Position.Tended

namespace Position.Tended

variable {w : World} {held : List ContextId} {work : List Activity} {c : ContextId} {α : Type} {m : Machine} {n : Nat}
  (hknown : c.index < w.contexts.size) (hothers : ∀ a ∈ work, a.context ≠ c)
include hknown hothers

theorem answer {q : Query} {resume : q.Reply → Run α} {next : Activity} {w' : World}
    (hp : Position.Tended ⟨w, held, .running c (.ask q m resume) :: work⟩ c n)
    (hopen : (w.context c).isReleased = false) (hsound : (w.context c).registry.Sound)
    (hw' : w'.contexts = ((w.setMachine c m).answer c q).2.contexts) (hcontext : next.context = c)
    (hwaits : ¬ next.IsWaiting)
    (hnext : ∀ k, (resume ((w.setMachine c m).answer c q).1).Accrues k → next.Accrues k) :
    Position.Tended ⟨w', held, next :: work⟩ c (m.grant q ((w.setMachine c m).answer c q).1).objects.size := by
  have hset := World.context_setMachine_self m hknown
  obtain ⟨hn, hresume⟩ : n ≤ m.objects.size ∧ ∀ r, (resume r).Accrues (m.grant q r).objects.size :=
    hp.accrues _ List.mem_cons_self rfl
  have hsize := m.size_le_grant q ((w.setMachine c m).answer c q).1
  have hsame : w'.context c = ((w.setMachine c m).answer c q).2.context c := World.context_of_contexts hw' c
  have hplaced := World.placed_answer (w := w.setMachine c m) q (by rwa [World.size_contexts_setMachine])
    (by rw [hset]; exact hopen) (by rw [hset]; exact hsound) (n := n) (by rw [hset]; exact hn) (by rw [hset]; exact hp.placed)
  rw [hset] at hplaced
  constructor
  case realm => exact fun _ => Nat.lt_of_lt_of_le (hp.realm hknown) (Nat.le_trans hn hsize)
  case placed => exact hsame ▸ hplaced
  case pinned =>
    intro x hx t ht
    rw [hsame] at hx
    rcases World.known_answer q x hx with hold | hnew
    · rw [hset] at hold
      exact (hp.pinned x hold t ht).mono (Nat.le_trans hn hsize)
    · rw [hset] at hnew
      exact (hnew t ht).mono hsize
  case accrues =>
    intro a ha hac
    rcases List.mem_cons.mp ha with rfl | ha
    · exact hnext _ (hresume _)
    · exact absurd hac (hothers a ha)
  case steady => exact fun hrests => absurd (hrests next List.mem_cons_self hcontext) hwaits

theorem free {q : Query} {resume : q.Reply → Run α}
    (hp : Position.Tended ⟨w, held, .running c (.ask q m resume) :: work⟩ c n) :
    Position.Tended ⟨(w.setMachine c m).reap c, held, .dropping c (.ask q m resume) :: work⟩ c n := by
  have hcontext : ((w.setMachine c m).reap c).context c = ContextState.reaped { w.context c with machine := m } := by
    rw [World.context_reap, if_pos ⟨rfl, by rwa [World.size_contexts_setMachine]⟩, World.context_setMachine_self m hknown]
  constructor
  case realm => exact fun _ => hp.realm hknown
  case placed =>
    rw [hcontext]
    exact fun l hl => hp.placed l (List.mem_of_mem_filter hl)
  case pinned =>
    rw [hcontext]
    exact hp.pinned
  case accrues =>
    intro a ha hac
    rcases List.mem_cons.mp ha with rfl | ha
    · exact hp.accrues (.running c (.ask q m resume)) List.mem_cons_self rfl
    · exact absurd hac (hothers a ha)
  case steady => exact fun hrests => absurd (hrests _ List.mem_cons_self rfl) id

theorem call {call : PendingCall} {args : List Native} {resume : Except String Native → Run α}
    (hp : Position.Tended ⟨w, held, .running c (.call call args m resume) :: work⟩ c n) :
    Position.Tended ⟨(w.setMachine c m).makeCall c call, held, .waiting c resume :: work⟩ c m.objects.size := by
  obtain ⟨⟨hn, m', hm'⟩, hresume⟩ : (n ≤ m.objects.size ∧ ∃ m' : Machine, m = m'.mended) ∧
      ∀ r, (resume r).Accrues m.objects.size := hp.accrues _ List.mem_cons_self rfl
  have hcontext := World.context_makeCall_self (w := w.setMachine c m) (c := c) call
    (by rwa [World.size_contexts_setMachine])
  rw [World.context_setMachine_self m hknown] at hcontext
  constructor
  case realm => exact fun _ => Nat.lt_of_lt_of_le (hp.realm hknown) hn
  case placed =>
    rw [hcontext]
    exact fun l hl => Nat.lt_of_lt_of_le (hp.placed l (List.mem_of_mem_filter hl)) hn
  case pinned =>
    rw [hcontext]
    exact fun x hx t ht => (hp.pinned x hx t ht).mono hn
  case accrues =>
    intro a ha hac
    rcases List.mem_cons.mp ha with rfl | ha
    · exact hresume
    · exact absurd hac (hothers a ha)
  case steady =>
    rw [hcontext]
    exact fun _ => ⟨Nat.le_refl _, hm' ▸ m'.closed_mended,
      fun _ => ContextState.not_freed_of_mem_reaped (s := { w.context c with machine := m })⟩

theorem leave {run : Run α} (hp : Position.Tended ⟨w, held, .running c run :: work⟩ c n) (hend : run.final? = some m) :
    Position.Tended ⟨(w.setMachine c m).leave c, held, work⟩ c m.objects.size := by
  have hrun : run.Accrues n := hp.accrues _ List.mem_cons_self rfl
  have hn : n ≤ m.objects.size := by
    cases run with
    | done | threw | stopped =>
      cases hend
      exact hrun
    | ask | call => cases hend
  have hcontext := World.context_leave_self (w := w.setMachine c m) (c := c) (by rwa [World.size_contexts_setMachine])
  rw [World.context_setMachine_self m hknown] at hcontext
  constructor
  case realm => exact fun _ => Nat.lt_of_lt_of_le (hp.realm hknown) hn
  case placed =>
    rw [hcontext]
    exact fun l hl => Nat.lt_of_lt_of_le (hp.placed l (List.mem_of_mem_filter hl)) hn
  case pinned =>
    rw [hcontext]
    exact fun x hx t ht => (hp.pinned x hx t ht).mono hn
  case accrues => exact fun a ha hac => absurd hac (hothers a ha)
  case steady =>
    rw [hcontext]
    exact fun _ => ⟨Nat.le_of_eq (Machine.size_objects_mended _).symm, m.closed_atRest,
      fun _ => ContextState.not_freed_of_mem_reaped (s := { w.context c with machine := m.atRest, begun := [] })⟩

end Position.Tended

theorem Step.tended {p q : Position} {m : Move} {c : ContextId} {n : Nat} (hstep : Step p m q)
    (hreachable : p.Reachable) (hp : p.Tended c n) (hopen : (q.world.context c).isReleased = false) :
    ∃ n', q.Tended c n' := by
  have hseated := hreachable.seated
  have hopen' := hstep.open_before hopen
  by_cases helse : ∃ c', p.RunsIn c' ∧ c ≠ c'
  · obtain ⟨c', hruns, hc⟩ := helse
    exact ⟨n, hp.elsewhere (hstep.spares hruns hc)⟩
  have hhere {c' : ContextId} (hruns : p.RunsIn c') : c = c' := by_contra fun hc => helse ⟨c', hruns, hc⟩
  cases hstep with
  | operate op => exact hp.operate op hseated hopen
  | @enter _ c' α x hturn hc hfree =>
    refine ⟨n, hp.enter (a := .running c' _) rfl hseated hfree fun hn => ?_⟩
    have hobjects := congrArg Array.size (p.world.objects_machineFor c')
    exact ((x.caught.run Engine.standard).accrues _).mono (hobjects ▸ hn)
  | answer =>
    cases hhere rfl
    exact ⟨_, hp.answer (hseated.known c List.mem_cons_self) hseated.others hopen' (hreachable.sound c) rfl rfl id
      fun _ => id⟩
  | refuse =>
    cases hhere rfl
    exact ⟨_, hp.answer (hseated.known c List.mem_cons_self) hseated.others hopen' (hreachable.sound c) rfl rfl id
      fun _ => id⟩
  | free =>
    cases hhere rfl
    exact ⟨n, hp.free (hseated.known c List.mem_cons_self) hseated.others⟩
  | call =>
    cases hhere rfl
    exact ⟨_, hp.call (hseated.known c List.mem_cons_self) hseated.others⟩
  | @reply w held work c' α resume r => exact ⟨n, hp.goOn rfl rfl (fun haccrues => haccrues r) fun _ => trivial⟩
  | dropped => exact ⟨n, hp.goOn rfl rfl id id⟩
  | leave hend =>
    cases hhere rfl
    exact ⟨_, hp.leave (hseated.known c List.mem_cons_self) hseated.others hend⟩

theorem Position.Reachable.tended {p : Position} {c : ContextId} (hp : p.Reachable)
    (hopen : (p.world.context c).isReleased = false) : ∃ n, p.Tended c n := by
  obtain ⟨ms, hplay⟩ := hp
  refine hplay.induction (P := fun _ p => (p.world.context c).isReleased = false → ∃ n, p.Tended c n)
    ?_ (fun _ => ⟨0, nofun, nofun, nofun, nofun, fun _ => ⟨Nat.le_refl _, ?_, nofun⟩⟩) hopen
  · intro ms p m q hplay hstep ih hopen
    obtain ⟨n, hp⟩ := ih (hstep.open_before hopen)
    exact hstep.tended ⟨ms, hplay⟩ hp hopen
  · exact Machine.closed_empty

def Config.settings (config : Config) : Nat × Unmapped := (max config.maxCallbacks 1, config.unmapped)

theorem World.settings_addContext {w : World} {r : RuntimeId} {c : ContextId} (hc : c.index = w.contexts.size) :
    ((w.addContext r).2.context c).settings = (w.runtime r).config.settings := by
  simp only [addContext, context_report, context_modifyRuntime]
  simp only [context, Array.getD_eq_getD_getElem?, hc, Array.getElem?_push_size, Option.getD_some]
  rfl

theorem World.config_addContext (w : World) (r r' : RuntimeId) :
    ((w.addContext r).2.runtime r').config = (w.runtime r').config := by
  rw [runtime_addContext]
  split
  · next h => rw [h.1]
  · rfl

theorem World.settings_modifyContext (w : World) (c : ContextId) {c' : ContextId} {f : ContextState → ContextState}
    (hf : ∀ s, (f s).settings = s.settings) : ((w.modifyContext c' f).context c).settings = (w.context c).settings := by
  rw [context_modifyContext]
  split
  · next h => rw [h.1, hf]
  · rfl

theorem Operation.settings_apply (op : Operation) {w : World} {c : ContextId} (hc : c.index < w.contexts.size) :
    ((op.apply w).context c).settings = (w.context c).settings := by
  by_cases hnew : ∃ r, op = .newContext r
  · obtain ⟨r, rfl⟩ := hnew
    simp only [apply]
    split
    · rfl
    · rw [World.context_addContext_of_ne r (Nat.ne_of_lt hc)]
  · by_cases hkeep : ∃ c' v, op = .keepPending c' v
    · obtain ⟨c', v, rfl⟩ := hkeep
      exact w.settings_modifyContext c fun _ => rfl
    · exact ((op.touches w (not_exists.mp hnew) (fun c' v hop => hkeep ⟨c', v, hop⟩)).lightens c).settings

namespace World

variable {w : World} (c : ContextId) {c' : ContextId}

theorem settings_answer (q : Guest.Query) : ((w.answer c' q).2.context c).settings = (w.context c).settings := by
  by_cases hpin : ∃ x, q = .pin x
  · obtain ⟨x, rfl⟩ := hpin
    exact w.settings_modifyContext c fun _ => rfl
  · exact (lightens_answer q (fun x hq => hpin ⟨x, hq⟩) c).settings

theorem lightens_reap : (w.context c).Lightens ((w.reap c').context c) := by
  have htouches : w.Touches (fun _ => True) (w.reap c') := .reap trivial
  exact htouches.lightens c

theorem settings_leave : ((w.leave c').context c).settings = (w.context c).settings := by
  rw [leave, context_modifyRuntime]
  exact (lightens_reap c).settings.trans (w.settings_modifyContext c fun _ => rfl)

end World

namespace Step

variable {p q : Position} {m : Move} {c : ContextId} (hstep : Step p m q)
include hstep

theorem settings (hc : c.index < p.world.contexts.size) :
    (q.world.context c).settings = (p.world.context c).settings := by
  cases hstep with
  | operate op => exact op.settings_apply hc
  | enter | reply | dropped => rfl
  | answer | refuse => exact (World.settings_answer c _).trans (World.settings_modifyContext _ c fun _ => rfl)
  | free => exact ((World.lightens_reap c).settings).trans (World.settings_modifyContext _ c fun _ => rfl)
  | call => exact (World.lightens_makeCall _ c).settings.trans (World.settings_modifyContext _ c fun _ => rfl)
  | leave => exact (World.settings_leave c).trans (World.settings_modifyContext _ c fun _ => rfl)

theorem home (hc : c.index < p.world.contexts.size) : (q.world.context c).runtime = (p.world.context c).runtime := by
  cases hstep with
  | operate op => exact (op.ages p.world).home c hc
  | enter | reply | dropped => rfl
  | answer => exact World.home_of_life (World.life_asked _ _ _ _) c
  | free => exact World.home_of_life (World.life_freed _ _ _) c
  | refuse => exact World.home_of_life (World.life_refused _ _ _ _) c
  | call => exact World.home_of_life (World.life_called _ _ _ _) c
  | leave => exact (World.home_of_life (World.life_leave _ _) c).trans (World.home_of_life (World.life_setMachine _ _ _) c)

theorem opened (hc : ¬ c.index < p.world.contexts.size) (hc' : c.index < q.world.contexts.size) :
    ∃ r, q.world = (p.world.addContext r).2 ∧ c.index = p.world.contexts.size := by
  have hlife {w' : World} (hlife : w'.life = p.world.life) (h : c.index < w'.contexts.size) : False :=
    hc (World.size_contexts_of_life hlife ▸ h)
  cases hstep with
  | operate op =>
    by_cases hnew : ∃ r, op = .newContext r
    · obtain ⟨r, rfl⟩ := hnew
      simp only [Position.operate, Operation.apply] at hc' ⊢
      split at hc'
      · exact absurd hc' hc
      · next hr =>
        rw [World.size_contexts_addContext] at hc'
        exact ⟨r, if_neg hr, by omega⟩
    · rw [Position.operate, op.size_contexts p.world fun r hop => hnew ⟨r, hop⟩] at hc'
      exact absurd hc' hc
  | enter | reply | dropped => exact absurd hc' hc
  | answer => exact (hlife (World.life_asked _ _ _ _) hc').elim
  | refuse => exact (hlife (World.life_refused _ _ _ _) hc').elim
  | free => exact (hlife (World.life_freed _ _ _) hc').elim
  | call => exact (hlife (World.life_called _ _ _ _) hc').elim
  | leave =>
    rw [World.size_contexts_leave, World.size_contexts_setMachine] at hc'
    exact absurd hc' hc

end Step

theorem Position.Reachable.settings {p : Position} {c : ContextId} (hp : p.Reachable) (hc : c.index < p.world.contexts.size) :
    (p.world.context c).settings = (p.world.runtimeOf c).config.settings := by
  obtain ⟨ms, hplay⟩ := hp
  refine hplay.induction (P := fun _ p => c.index < p.world.contexts.size →
    (p.world.context c).settings = (p.world.runtimeOf c).config.settings) ?_ nofun hc
  intro ms p m q hplay hstep ih hc'
  by_cases hc : c.index < p.world.contexts.size
  · have hknown := (Position.Reachable.books ⟨ms, hplay⟩).home c hc
    rw [hstep.settings hc, ih hc, World.runtimeOf, World.runtimeOf, hstep.home hc, hstep.config hknown]
  · obtain ⟨r, hq, hindex⟩ := hstep.opened hc hc'
    have hhome := congrArg Prod.fst (p.world.home_addContext r c)
    rw [if_pos hindex] at hhome
    have hhome' : ((p.world.addContext r).2.context c).runtime = r := hhome
    rw [hq, World.settings_addContext hindex, World.runtimeOf, World.config_addContext, hhome']

/-- The slots that handles number fit into 32 bits where the runtime allows for no more functions than these can count. -/
theorem Position.Reachable.index_lt {p : Position} {c : ContextId} (hp : p.Reachable) (hc : c.index < p.world.contexts.size)
    (hlimit : (p.world.runtimeOf c).config.maxCallbacks ≤ 2 ^ 32) {h : Handle} {f : HostFn}
    (hf : (p.world.context c).registry.get? h = some f) : h.index < 2 ^ 32 := by
  have hslot : h.index < (p.world.context c).registry.slots.size :=
    (Array.getElem?_eq_some_iff.mp (Registry.get?_eq_some.mp hf)).1
  have hsize := (hp.sound c).size_le
  have hsettings : (p.world.context c).registry.limit = max (p.world.runtimeOf c).config.maxCallbacks 1 :=
    congrArg Prod.fst (hp.settings hc)
  omega

end Embedding
