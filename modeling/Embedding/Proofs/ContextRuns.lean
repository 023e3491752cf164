import Embedding.Proofs.Registrations
import Embedding.Proofs.ReleasedContexts
import Embedding.Proofs.RunOutcomes

namespace Embedding

open Guest (Run Exchange Machine Cut Query)

/-- What a run and its context have to do with one another, with the context as it is then. -/
structure Moment where
  state : ContextState
  exchange : Exchange

/-- How a run goes in a context, whoever the host is. In a call the host does as it likes. So it does when it drops a
function that is refused, but that it leaves the registry alone, which is borrowed then. -/
inductive Guest.Run.Goes {α : Type} (c : ContextId) :
    Run α → World → List Moment → Except Cut α → Machine → World → Prop where
  | done {a : α} {m : Machine} {w : World} : Goes c (.done a m) w [] (.ok a) m w
  | threw {v : Guest.Value} {m : Machine} {w : World} : Goes c (.threw v m) w [] (.error (.threw v)) m w
  | stopped {why : Guest.Stop} {m : Machine} {w : World} : Goes c (.stopped why m) w [] (.error (.stopped why)) m w
  | ask {q : Query} {m m' : Machine} {resume : q.Reply → Run α} {w w' : World} {ms : List Moment} {z : Except Cut α}
      (hkept : q.refused? ((w.setMachine c m).answer c q).1 = none)
      (h : Goes c (resume ((w.setMachine c m).answer c q).1) ((w.setMachine c m).answer c q).2 ms z m' w') :
      Goes c (.ask q m resume) w
        (⟨(w.setMachine c m).context c, .asked q ((w.setMachine c m).answer c q).1⟩ :: ms) z m' w'
  | refuse {q : Query} {m m' : Machine} {resume : q.Reply → Run α} {w w₁ w' : World} {ms : List Moment} {z : Except Cut α}
      (hrefused : (q.refused? ((w.setMachine c m).answer c q).1).isSome)
      (hregistry : (w₁.context c).registry = (((w.setMachine c m).answer c q).2.context c).registry)
      (h : Goes c (resume ((w.setMachine c m).answer c q).1) w₁ ms z m' w') :
      Goes c (.ask q m resume) w
        (⟨(w.setMachine c m).context c, .asked q ((w.setMachine c m).answer c q).1⟩ :: ms) z m' w'
  | call {call : PendingCall} {args : List Native} {m m' : Machine} {resume : Except String Native → Run α} {w w₁ w' : World}
      {reply : Except String Native} {ms : List Moment} {z : Except Cut α} (h : Goes c (resume reply) w₁ ms z m' w') :
      Goes c (.call call args m resume) w (⟨(w.setMachine c m).context c, .called call args reply⟩ :: ms) z m' w'

namespace World

variable {w : World} {c : ContextId}

theorem known_of_get? {g : Handle} {f : HostFn} (h : (w.context c).registry.get? g = some f) :
    c.index < w.contexts.size := by
  by_contra hc
  have hdefault : w.context c = default := by simp [context, hc]
  rw [hdefault] at h
  cases (Registry.get?_ofLimit g 1).symm.trans h

theorem registry_setMachine (m : Machine) : ((w.setMachine c m).context c).registry = (w.context c).registry := by
  rw [setMachine, context_modifyContext]
  split <;> rfl

end World

/-- The engine finds a function unused that leases the entry of a handle. -/
def ContextState.Abandons (s : ContextState) (g : Handle) : Prop := ∃ l ∈ s.leases, l.handle = g ∧ s.Freed l.function

theorem ContextState.get?_reaped {s : ContextState} {g : Handle} {f : HostFn} (h : s.registry.get? g = some f) :
    s.reaped.registry.get? g = some f ∨ s.Abandons g := by
  by_cases hended : g ∈ s.endedHandles (Guest.Collector.freed s.machine s.pins.values)
  · obtain ⟨l, hl, rfl⟩ := List.mem_map.mp hended
    obtain ⟨o, ho, hfind⟩ := List.mem_filterMap.mp hl
    have hfunction : l.function = o := by simpa using List.find?_some hfind
    exact .inr ⟨l, List.mem_of_find?_eq_some hfind, rfl, hfunction ▸ ho⟩
  · refine .inl ?_
    rw [reaped, endLeases, Registry.get?_removeAll, if_neg hended, h]

namespace World

variable {w : World} {c : ContextId} {g : Handle} {f : HostFn}

theorem get?_reap (hf : (w.context c).registry.get? g = some f) :
    ((w.reap c).context c).registry.get? g = some f ∨ (w.context c).Abandons g := by
  rw [context_reap, if_pos ⟨rfl, known_of_get? hf⟩]
  exact ContextState.get?_reaped hf

theorem get?_register (hsound : (w.context c).registry.Sound) (hf : (w.context c).registry.get? g = some f) (f' : HostFn) :
    ((w.register c f').2.context c).registry.get? g = some f ∨ (w.context c).Abandons g := by
  rcases get?_reap hf with hkept | habandons
  · refine .inl ?_
    have hknown : c.index < (w.reap c).contexts.size := known_of_get? hkept
    have hsound' := (Settles.reap w c c).sound hsound
    simp only [register]
    split
    · exact hf
    · rcases hsound'.insert f' with ⟨-, i, hi, hlimit, hfree, hok⟩ | ⟨-, herror⟩
      · simp only [hok, context_report, context_modifyContext_self _ hknown]
        rw [Registry.get?_occupy hi hfree, if_neg, hkept]
        rintro rfl
        exact absurd (Registry.Issued.of_get? hkept) (Registry.not_issued_of_isFree hfree)
      · simpa only [herror] using hkept
  · exact .inr habandons

theorem get?_answer (hsound : (w.context c).registry.Sound) (hf : (w.context c).registry.get? g = some f) (q : Query) :
    ((w.answer c q).2.context c).registry.get? g = some f ∨ (w.context c).Abandons g := by
  have hmodify (h : ContextState → ContextState) (hh : ∀ s, (h s).registry = s.registry) :
      ((w.modifyContext c h).context c).registry.get? g = some f := by
    rw [context_modifyContext_self _ (known_of_get? hf), hh, hf]
  cases q with
  | isReleased | unmapped | pinned | remembersTexts => exact .inl hf
  | register f' => exact get?_register hsound hf f'
  | pin v => exact .inl (hmodify _ fun _ => rfl)
  | beginCall h =>
    refine .inl ?_
    rw [answer, beginCall]
    split
    · next f' _ => exact hmodify (fun s => { s with begun := ⟨h, f'⟩ :: s.begun }) fun _ => rfl
    · exact hf
  | dropCall call => exact .inl (hmodify (fun s => { s with begun := s.begun.erase call }) fun _ => rfl)
  | forgetTexts n => exact .inl (hmodify (fun s => { s with forgotten := n :: s.forgotten }) fun _ => rfl)
  | report n => exact get?_reap hf

end World

namespace Guest.Run.Goes

variable {α : Type} {c : ContextId} {x : Run α} {w w' : World} {ms : List Moment} {z : Except Cut α} {m' : Machine}

/-- An entry stays as long as no function of the host is called, unless the engine finds unused what leases it. -/
theorem keeps (h : x.Goes c w ms z m' w') (hcalls : ∀ mo ∈ ms, mo.exchange.isCall = false)
    (hsound : (w.context c).registry.Sound) {g : Handle} {f : HostFn} (hf : (w.context c).registry.get? g = some f) :
    (w'.context c).registry.get? g = some f ∨ ∃ mo ∈ ms, mo.state.Abandons g := by
  have hanswer {w : World} {m : Machine} (q : Query) (hsound : (w.context c).registry.Sound)
      (hf : (w.context c).registry.get? g = some f) :
      (((w.setMachine c m).answer c q).2.context c).registry.Sound ∧
        ((((w.setMachine c m).answer c q).2.context c).registry.get? g = some f ∨
          ((w.setMachine c m).context c).Abandons g) := by
    have hsound' : ((w.setMachine c m).context c).registry.Sound := by rwa [World.registry_setMachine]
    have hf' : ((w.setMachine c m).context c).registry.get? g = some f := by rwa [World.registry_setMachine]
    exact ⟨World.sound_answer q hsound', World.get?_answer hsound' hf' q⟩
  induction h with
  | done | threw | stopped => exact .inl hf
  | @ask q m m' resume w w' ms z _ _ ih =>
    obtain ⟨hsound', hkept | habandons⟩ := hanswer (m := m) q hsound hf
    · exact (ih (fun mo hmo => hcalls mo (List.mem_cons_of_mem _ hmo)) hsound' hkept).imp_right
        fun ⟨mo, hmo, h⟩ => ⟨mo, List.mem_cons_of_mem _ hmo, h⟩
    · exact .inr ⟨_, List.mem_cons_self, habandons⟩
  | @refuse q m m' resume w w₁ w' ms z _ hregistry _ ih =>
    obtain ⟨hsound', hkept | habandons⟩ := hanswer (m := m) q hsound hf
    · rw [← hregistry] at hsound' hkept
      exact (ih (fun mo hmo => hcalls mo (List.mem_cons_of_mem _ hmo)) hsound' hkept).imp_right
        fun ⟨mo, hmo, h⟩ => ⟨mo, List.mem_cons_of_mem _ hmo, h⟩
    · exact .inr ⟨_, List.mem_cons_self, habandons⟩
  | call => cases hcalls _ List.mem_cons_self

theorem reply_beginCall {h : Handle} {m : Machine} {resume : Option HostFn → Run α}
    (hx : (Run.ask (.beginCall h) m resume).Goes c w ms z m' w') :
    ∃ rest, ms.map Moment.exchange = .asked (.beginCall h) ((w.context c).registry.get? h) :: rest := by
  have hanswer : ((w.setMachine c m).answer c (.beginCall h)).1 = (w.context c).registry.get? h := by
    rw [World.answer, World.beginCall, World.registry_setMachine]
    cases (w.context c).registry.get? h <;> rfl
  cases hx with
  | ask => exact ⟨_, by rw [List.map_cons, hanswer]⟩
  | refuse => exact ⟨_, by rw [List.map_cons, hanswer]⟩

end Guest.Run.Goes

end Embedding
