import Embedding.Proofs.Histories
import Embedding.Proofs.NoDangling
import Embedding.Proofs.OfNative
import Embedding.Proofs.Panics
import Mathlib.Data.List.Forall2

namespace Embedding

namespace Guest.Run

variable {α β γ : Type} {c : ContextId}

/-- A run asks its context, calls no function of the host, and comes to its end. When a function is refused it is
there. -/
inductive Comes (c : ContextId) : Run β → World → β → Machine → World → Prop where
  | done {r : β} {m : Machine} {w : World} : Comes c (.done r m) w r m w
  | ask {q : Query} {m : Machine} {resume : q.Reply → Run β} {w w' : World} {r : β} {m' : Machine}
      (hkept : q.refused? ((w.setMachine c m).answer c q).1 = none)
      (h : Comes c (resume ((w.setMachine c m).answer c q).1) ((w.setMachine c m).answer c q).2 r m' w') :
      Comes c (.ask q m resume) w r m' w'
  | refused {q : Query} {m m' : Machine} {resume : q.Reply → Run β} {w : World} {f : HostFn} {r : β}
      (hrefused : q.refused? ((w.setMachine c m).answer c q).1 = some f)
      (hend : resume ((w.setMachine c m).answer c q).1 = .done r m') :
      Comes c (.ask q m resume) w r m' ((w.setMachine c m).answer c q).2

end Guest.Run

/-- What a handler drops takes nothing along. -/
def Handler.DropsQuietly {σ : Type} (handler : Handler σ) : Prop := ∀ f w s, handler.drop f w s = (((), w), s)

theorem World.takeBackRegistry_lendRegistry {w : World} {c : ContextId} (hc : c ∉ w.borrowed) :
    (w.lendRegistry c).takeBackRegistry c = w := by
  have hkept : (c :: w.borrowed).filter (· ≠ c) = w.borrowed := by
    rw [List.filter_cons_of_neg (by simp)]
    exact List.filter_eq_self.mpr fun d hd => decide_eq_true fun hdc => hc (hdc ▸ hd)
  exact congrArg (fun borrowed => { w with borrowed }) hkept

/-- Work that a run is part of, and that passes on what the run asks. -/
def Guest.Run.PassesOn {β γ : Type} (F : Guest.Run β → Guest.Run γ) : Prop :=
  ∀ q m resume, F (.ask q m resume) = .ask q m fun r => F (resume r)

namespace Guest.Run.Comes

variable {α β γ σ : Type} {c : ContextId} {x : Run β} {w w' : World} {r : β} {m' : Machine} (h : x.Comes c w r m' w')
include h

theorem play {F : Run β → Run γ} (hF : PassesOn F) (held : List ContextId) (work : List Activity) :
    ∃ ms, Play ⟨w, held, .running c (F x) :: work⟩ ms ⟨w', held, .running c (F (.done r m')) :: work⟩ := by
  induction h with
  | done => exact ⟨[], .nil⟩
  | @ask q m resume w w' r m' hkept _ ih =>
    obtain ⟨ms, hms⟩ := ih
    rw [hF]
    exact ⟨_, .cons .answer hms⟩
  | @refused q m m' resume w f r hrefused hend =>
    have hstep : Step ⟨w, held, .running c (.ask q m fun r => F (resume r)) :: work⟩ _ _ := .answer
    rw [hF, ← hend]
    exact ⟨_, .one hstep⟩

section

variable {F : Run β → Run (Except Error γ)} (hF : PassesOn F) (handler : Handler σ)
include hF

theorem follow (s : σ) (hquiet : handler.DropsQuietly) (hown : c ∉ w.borrowed) :
    handler.follow c (F x) w s = handler.follow c (F (.done r m')) w' s := by
  induction h with
  | done => rfl
  | @ask q m resume w w' r m' hkept _ ih =>
    have hborrowed : c ∉ (w.setMachine c m).borrowed := hown
    rw [hF]
    exact (follow_ask_of_kept _ _ _ _ _ hkept).trans (ih ((World.PanicsIf.answer hborrowed q).borrowed ▸ hborrowed))
  | @refused q m m' resume w f r hrefused hend =>
    have hborrowed : c ∉ (w.setMachine c m).borrowed := hown
    have hown' : c ∉ ((w.setMachine c m).answer c q).2.borrowed := (World.PanicsIf.answer hborrowed q).borrowed ▸ hborrowed
    rw [hF]
    refine (follow_ask_of_refused handler c s m (fun r => F (resume r)) hrefused).trans ?_
    rw [hquiet, World.takeBackRegistry_lendRegistry hown', hend]

theorem fst_follow {z : Except Error γ} (hz : ∀ w s, (handler.follow c (F (.done r m')) w s).1.1 = z) (s : σ) :
    (handler.follow c (F x) w s).1.1 = z := by
  induction h generalizing s with
  | done => exact hz _ s
  | @ask q m resume w w' r m' hkept _ ih =>
    rw [hF]
    refine (congrArg (·.1.1) (follow_ask_of_kept handler c s m (fun r => F (resume r)) hkept)).trans ?_
    exact ih hz s
  | @refused q m m' resume w f r hrefused hend =>
    rw [hF]
    refine (congrArg (·.1.1) (follow_ask_of_refused handler c s m (fun r => F (resume r)) hrefused)).trans ?_
    rw [hend]
    exact hz _ _

end

end Guest.Run.Comes

section

variable {α β σ : Type} {x : Guest.Bridge α} {e : Guest.Engine} {m m' : Guest.Machine} {c : ContextId} {w w' : World}
  {err : Error} (h : (x.run e m).Comes c w (.error err) m' w') (handler : Handler σ) (s : σ) (f : α → Guest.Bridge β)
include h

theorem Guest.Run.Comes.follow_bind_error (hquiet : handler.DropsQuietly) (hown : c ∉ w.borrowed) :
    handler.follow c ((x >>= f).caught.run e m) w s = ((.error err, w'.setMachine c m'), s) := by
  have hrun : (x >>= f).caught.run e m = ((x >>= f).run e m).orElse _ := rfl
  rw [hrun, Guest.Bridge.run_bind, h.follow (F := fun x => (x.andThen _).orElse _) (fun _ _ _ => rfl) handler s hquiet hown]
  rfl

theorem Guest.Run.Comes.fst_follow_bind_error :
    (handler.follow c ((x >>= f).caught.run e m) w s).1.1 = .error err := by
  have hrun : (x >>= f).caught.run e m = ((x >>= f).run e m).orElse _ := rfl
  rw [hrun, Guest.Bridge.run_bind]
  exact h.fst_follow (F := fun x => (x.andThen _).orElse _) (fun _ _ _ => rfl) handler (fun _ _ => rfl) s

end

namespace ContextState

/-- What a conversion has been granted: each function has an entry of its own, leased by a function of the guest. All
other entries are as they were. -/
structure Granted (s : ContextState) (grants : List Lease) (fs : List HostFn) (s' : ContextState) : Prop where
  rest : s' = { s with machine := s'.machine, registry := s'.registry, leases := s'.leases }
  leases : s'.leases = grants.reverse ++ s.leases
  sound : s'.registry.Sound
  limit : s'.registry.limit = s.registry.limit
  live : s'.registry.live = s.registry.live + grants.length
  own : List.Forall₂ (fun l f => s.registry.get? l.handle = none ∧ s'.registry.get? l.handle = some f) grants fs
  others : ∀ h, h ∉ grants.map (·.handle) → s'.registry.get? h = s.registry.get? h

/-- A context in which a conversion can begin: what is leased is there and in use, and nothing refers to what is not
there. -/
structure Ready (s : ContextState) (m : Guest.Machine) : Prop where
  isOpen : s.isReleased = false
  sound : s.registry.Sound
  placed : ∀ l ∈ s.leases, l.function < m.objects.size
  kept : ∀ l ∈ s.leases, ¬ m.Freed s.pins.values l.function
  whole : m.Whole s.pins.values

variable {s s' : ContextState} {grants : List Lease} {fs : List HostFn} {m₀ m : Guest.Machine}

theorem Granted.refl (hsound : s.registry.Sound) : s.Granted [] [] s where
  rest := rfl
  leases := rfl
  sound := hsound
  limit := rfl
  live := rfl
  own := .nil
  others _ _ := rfl

theorem Granted.setMachine (h : s.Granted grants fs s') (m : Guest.Machine) :
    s.Granted grants fs { s' with machine := m } :=
  ⟨by rw [h.rest], h.leases, h.sound, h.limit, h.live, h.own, h.others⟩

theorem Granted.exists_own (h : s.Granted grants fs s') {l : Lease} (hl : l ∈ grants) :
    ∃ f, s.registry.get? l.handle = none ∧ s'.registry.get? l.handle = some f := by
  have hown := h.own
  clear h
  induction hown with
  | nil => cases hl
  | cons hfirst _ ih =>
    rcases List.mem_cons.mp hl with rfl | hl
    · exact ⟨_, hfirst⟩
    · exact ih hl

theorem Granted.get?_eq_none (h : s.Granted grants fs s') {g : Handle} (hg : s'.registry.get? g = none) :
    g ∉ grants.map (·.handle) ∧ s.registry.get? g = none := by
  have hnew : g ∉ grants.map (·.handle) := by
    intro hmem
    obtain ⟨l, hl, rfl⟩ := List.mem_map.mp hmem
    obtain ⟨f, -, hf⟩ := h.exists_own hl
    rw [hg] at hf
    cases hf
  exact ⟨hnew, (h.others g hnew).symm.trans hg⟩

theorem Granted.register (h : s.Granted grants fs s') {i : Nat} (hsize : i ≤ s'.registry.slots.size)
    (hlimit : i < s'.registry.limit) (hfree : s'.registry.isFree i = true) (f : HostFn) (o : Guest.ObjectId) :
    s.Granted (grants ++ [⟨o, ⟨i, s'.registry.generationAt i⟩⟩]) (fs ++ [f]) { s' with
      registry := s'.registry.occupy i f
      leases := ⟨o, ⟨i, s'.registry.generationAt i⟩⟩ :: s'.leases } := by
  have hnone : s'.registry.get? ⟨i, s'.registry.generationAt i⟩ = none := by
    cases hget : s'.registry.get? ⟨i, s'.registry.generationAt i⟩ with
    | none => rfl
    | some g => exact absurd (Registry.Issued.of_get? hget) (Registry.not_issued_of_isFree hfree)
  constructor
  case rest => rw [h.rest]
  case leases =>
    rw [List.reverse_append, h.leases]
    rfl
  case sound => exact h.sound.occupy hsize hlimit hfree f
  case limit => exact h.limit
  case live =>
    rw [List.length_append, ← Nat.add_assoc, ← h.live]
    rfl
  case own =>
    have hold : List.Forall₂ (fun l f' => s.registry.get? l.handle = none ∧
        (s'.registry.occupy i f).get? l.handle = some f') grants fs := by
      refine h.own.imp ?_
      rintro l f' ⟨hbefore, hafter⟩
      refine ⟨hbefore, ?_⟩
      rw [Registry.get?_occupy hsize hfree, if_neg, hafter]
      intro heq
      rw [heq, hnone] at hafter
      cases hafter
    refine List.rel_append hold (.cons ⟨(h.get?_eq_none hnone).2, ?_⟩ .nil)
    rw [Registry.get?_occupy hsize hfree, if_pos rfl]
  case others =>
    intro g hg
    rw [List.map_append, List.mem_append, not_or] at hg
    rw [Registry.get?_occupy hsize hfree, if_neg fun heq => hg.2 (by simp [heq]), h.others g hg.1]

end ContextState

namespace Guest

def Need.functions (needs : List Need) : List HostFn :=
  needs.filterMap fun
    | .function f => some f
    | .passage => none

section

variable {m₀ m : Machine} {grants : List Lease} {s : ContextState}

theorem Underway.rootTargets (h : Underway m₀ grants m) {held : List Value} :
    ∀ t ∈ m₀.rootTargets held, t ∈ m.rootTargets held := by
  have hroots : ∀ t ∈ m₀.roots.flatMap Target.ofRoot, t ∈ m.roots.flatMap Target.ofRoot := by
    intro t ht
    obtain ⟨r, hr, ht⟩ := List.mem_flatMap.mp ht
    exact List.mem_flatMap.mpr ⟨r, h.roots.subset hr, ht⟩
  have hsame := h.same
  generalize m.roots = roots at hroots hsame
  rw [hsame]
  simp only [Machine.rootTargets, List.mem_append]
  intro t ht
  exact ht.imp_left fun ht => ht.imp_left fun ht => ht.imp_left fun ht => ht.imp_left fun ht => ht.imp_left fun ht =>
    ht.imp_left (hroots t)

theorem InHand.kept (h : InHand m₀ grants m) (hready : s.Ready m₀) :
    ∀ l ∈ grants.reverse ++ s.leases, ¬ m.Freed s.pins.values l.function := by
  intro l hl
  rcases List.mem_append.mp hl with hl | hl
  · obtain ⟨a, ha, hleads⟩ := h.2 l (List.mem_reverse.mp hl)
    exact Machine.not_freed_of_value ha hleads
  · intro hfreed
    have hplace : Machine.movedPlace m₀ m l.function = l.function := if_pos (hready.placed l hl)
    rw [← hplace] at hfreed
    exact hready.kept l hl (hfreed.before hready.whole h.1.keeps (by rw [h.1.same]) h.1.rootTargets)

end

end Guest

namespace ContextState

/-- Whether a context grants all that is needed: no value without a guest form is held up, and there is room for the
functions. -/
def Affords (s : ContextState) (needs : List Guest.Need) : Prop :=
  (s.unmapped = .null ∨ .passage ∉ needs) ∧
    s.registry.live + (Guest.Need.functions needs).length ≤ s.registry.limit

/-- What a context refuses a conversion with. -/
def Refuses (s : ContextState) (err : Error) : Prop :=
  err = .conversion (Native.shape .unmapped) "guest value" ∨ err = .registryFull s.registry.limit

/-- What a conversion has come to that has been refused something: what was granted is still there, and so is all that
has been made. -/
def Abandoned (s : ContextState) (m₀ m : Guest.Machine) (s' : ContextState) : Prop :=
  ∃ grants fs m₁ roots, m = { m₁ with roots } ∧ Guest.InHand m₀ grants m₁ ∧ s.Granted grants fs s'

end ContextState

section

open Guest

variable {α : Type} {s : ContextState} {m₀ m : Machine} {c : ContextId} {w : World} {grants : List Lease} {fs : List HostFn}
  (hready : s.Ready m₀) (hknown : c.index < w.contexts.size) (hgranted : s.Granted grants fs (w.context c))
  (hinv : InHand m₀ grants m)
include hready hknown hgranted hinv

theorem reap_of_inHand : (w.setMachine c m).reap c = w.setMachine c m := by
  apply World.reap_eq_self
  have hset := World.context_setMachine_self m hknown
  have hpins : (w.context c).pins = s.pins := by rw [hgranted.rest]
  rw [hset]
  intro l hl hfreed
  have hfreed : m.Freed (w.context c).pins.values l.function := ((m.mem_freedPlaces _).mp hfreed).2
  rw [hpins] at hfreed
  exact hinv.kept hready l (hgranted.leases ▸ hl) hfreed

theorem register_of_inHand (f : HostFn) :
    (∃ h w₁, (w.setMachine c m).answer c (.register f) = (.ok h, w₁) ∧
      s.Granted (grants ++ [⟨m.objects.size, h⟩]) (fs ++ [f]) (w₁.context c)) ∨
    ((w.context c).registry.limit ≤ (w.context c).registry.live ∧
      (w.setMachine c m).answer c (.register f) =
        (.error (.registryFull (w.context c).registry.limit), w.setMachine c m)) := by
  have hset := World.context_setMachine_self m hknown
  have hknown' : c.index < (w.setMachine c m).contexts.size := by rwa [World.size_contexts_setMachine]
  have hopen : (w.context c).isReleased = false := by
    rw [hgranted.rest]
    exact hready.isOpen
  have hreap := reap_of_inHand hready hknown hgranted hinv
  rcases hgranted.sound.insert f with ⟨-, i, hsize, hlimit, hfree, hok⟩ | ⟨hfull, herror⟩
  · have hanswer : (w.setMachine c m).answer c (.register f) = (.ok ⟨i, (w.context c).registry.generationAt i⟩,
        ((w.setMachine c m).modifyContext c fun s => { s with
          registry := (w.context c).registry.occupy i f
          leases := ⟨s.machine.objects.size, ⟨i, (w.context c).registry.generationAt i⟩⟩ :: s.leases }).report
            (.registered ⟨i, (w.context c).registry.generationAt i⟩)) := by
      simp only [World.answer, World.register, hreap, hset, hopen, hok, Bool.false_eq_true, if_false]
    refine .inl ⟨_, _, hanswer, ?_⟩
    rw [World.context_report, World.context_modifyContext_self _ hknown', hset]
    exact (hgranted.register hsize hlimit hfree f m.objects.size).setMachine m
  · refine .inr ⟨hfull, ?_⟩
    simp only [World.answer, World.register, hreap, hset, hopen, herror, Bool.false_eq_true, if_false]

end

namespace Guest.Run

variable {α : Type} {s : ContextState} {m₀ : Machine} {c : ContextId} {post : α → List Lease → Machine → Prop}

/-- A run that needs something comes to its end: with a value if the context affords all, and else with an error. -/
def ComesOut (c : ContextId) (s : ContextState) (m₀ : Machine) (post : α → List Lease → Machine → Prop) (needs : List Need)
    (fs : List HostFn) (w : World) (x : Run (Except Error α)) : Prop :=
  ∃ r m' w', x.Comes c w r m' w' ∧ w'.life = w.life ∧ (∀ c' ≠ c, w'.context c' = w.context c') ∧
    (((w.context c).Affords needs ∧ ∃ a gs, r = .ok a ∧ post a gs m' ∧
        s.Granted gs (fs ++ Need.functions needs) (w'.context c)) ∨
      (¬ (w.context c).Affords needs ∧ ∃ err, r = .error err ∧ s.Refuses err ∧ s.Abandoned m₀ m' (w'.context c)))

section Ask

variable {w w₁ : World} {m : Machine} {q : Query} {r : q.Reply} {resume : q.Reply → Run (Except Error α)}
  {needs : List Need} {fs : List HostFn} (hanswer : (w.setMachine c m).answer c q = (r, w₁))
include hanswer

theorem unchanged_of_answer : w₁.life = w.life ∧ ∀ c' ≠ c, w₁.context c' = w.context c' := by
  obtain rfl : ((w.setMachine c m).answer c q).2 = w₁ := congrArg Prod.snd hanswer
  refine ⟨((w.setMachine c m).life_answer c q).trans (w.life_setMachine c m), fun c' hc' => ?_⟩
  exact (World.context_answer_of_ne q hc').trans (World.context_setMachine_of_ne hc')

theorem ComesOut.ask {needs' : List Need} {fs' : List HostFn} (hkept : q.refused? r = none) (h : (resume r).ComesOut c s m₀ post needs' fs' w₁)
    (haffords : (w₁.context c).Affords needs' ↔ (w.context c).Affords needs)
    (hfs : fs' ++ Need.functions needs' = fs ++ Need.functions needs) :
    (Run.ask q m resume).ComesOut c s m₀ post needs fs w := by
  obtain ⟨hlife, hothers⟩ := unchanged_of_answer hanswer
  obtain ⟨r', m', w', hcomes, hlife', hothers', hend⟩ := h
  rw [haffords, hfs] at hend
  have hreply := congrArg Prod.fst hanswer
  have hworld := congrArg Prod.snd hanswer
  dsimp only at hreply hworld
  rw [← hreply, ← hworld] at hcomes
  exact ⟨r', m', w', .ask (hreply ▸ hkept) hcomes, hlife'.trans hlife, fun c' hc' => (hothers' c' hc').trans (hothers c' hc'), hend⟩

theorem ComesOut.of_fails {err : Error} {grants : List Lease} (hfails : (resume r).Fails err m)
    (hinv : InHand m₀ grants m) (hgranted : s.Granted grants fs (w₁.context c))
    (hrefused : ¬ (w.context c).Affords needs) (hrefuses : s.Refuses err) :
    (Run.ask q m resume).ComesOut c s m₀ post needs fs w := by
  obtain ⟨hlife, hothers⟩ := unchanged_of_answer hanswer
  obtain ⟨roots, hdone⟩ := hfails
  have hcomes : (resume r).Comes c w₁ (.error err) { m with roots } w₁ := hdone ▸ .done
  have hreply := congrArg Prod.fst hanswer
  have hworld := congrArg Prod.snd hanswer
  dsimp only at hreply hworld
  rw [← hreply] at hcomes
  have hfrom : (Run.ask q m resume).Comes c w (.error err) { m with roots } w₁ := by
    cases hkept : q.refused? ((w.setMachine c m).answer c q).1 with
    | none => exact .ask hkept (hworld ▸ hcomes)
    | some f => exact hworld ▸ .refused hkept (hreply ▸ hdone)
  exact ⟨.error err, _, w₁, hfrom, hlife, hothers,
    .inr ⟨hrefused, err, rfl, hrefuses, grants, fs, m, roots, rfl, hinv, hgranted⟩⟩

end Ask

theorem Serves.comesOut {x : Run (Except Error α)} {needs : List Need} {grants : List Lease} {fs : List HostFn} {w : World}
    (h : x.Serves (InHand m₀) post needs grants) (hready : s.Ready m₀) (hknown : c.index < w.contexts.size)
    (hgranted : s.Granted grants fs (w.context c)) : x.ComesOut c s m₀ post needs fs w := by
  induction x generalizing w needs grants fs with
  | done r m =>
    obtain ⟨rfl, a, rfl, ha⟩ := h
    refine ⟨.ok a, m, w, .done, rfl, fun _ _ => rfl, .inl ⟨⟨.inr List.not_mem_nil, ?_⟩, a, grants, rfl, ha, ?_⟩⟩
    · exact hgranted.sound.live_le
    · simpa [Need.functions] using hgranted
  | threw v m | stopped why m | call begun args m resume => exact h.elim
  | ask q m resume ih =>
    obtain ⟨hdue, hinv, hresume⟩ := h
    have hset := World.context_setMachine_self m hknown
    have hstill : s.Granted grants fs ((w.setMachine c m).context c) := hset ▸ hgranted.setMachine m
    have hsame (needs : List Need) : ((w.setMachine c m).context c).Affords needs ↔ (w.context c).Affords needs := by
      rw [hset]
      rfl
    have hunmapped : ((w.setMachine c m).context c).unmapped = s.unmapped := by rw [hstill.rest]
    have hknown' {r : q.Reply} {w₁ : World} (hanswer : (w.setMachine c m).answer c q = (r, w₁)) :
        c.index < w₁.contexts.size :=
      World.size_contexts_of_life (unchanged_of_answer hanswer).1 ▸ hknown
    cases q with
    | isReleased =>
      have hopen : ((w.setMachine c m).context c).isReleased = false := by
        rw [hstill.rest]
        exact hready.isOpen
      have hanswer : (w.setMachine c m).answer c .isReleased = (false, w.setMachine c m) := Prod.ext hopen rfl
      exact .ask hanswer rfl (ih false (hresume false) (hknown' hanswer) hstill) (hsame _) rfl
    | report n =>
      have hanswer : (w.setMachine c m).answer c (.report n) = ((), (w.setMachine c m).report (.noted n)) := by
        rw [World.answer, reap_of_inHand hready hknown hgranted hinv]
      exact .ask hanswer rfl (ih () (hresume ()) (hknown' hanswer) hstill) (hsame _) rfl
    | unmapped =>
      obtain ⟨rest, rfl⟩ : ∃ rest, needs = .passage :: rest := List.head?_eq_some_iff.mp hdue
      have hanswer : (w.setMachine c m).answer c .unmapped = (s.unmapped, w.setMachine c m) := Prod.ext hunmapped rfl
      cases hpolicy : s.unmapped with
      | null =>
        rw [hpolicy] at hanswer
        refine .ask hanswer rfl (ih .null (hresume .null) (hknown' hanswer) hstill) ?_ rfl
        rw [← hsame]
        simp [ContextState.Affords, hunmapped, hpolicy, Need.functions]
      | error =>
        rw [hpolicy] at hanswer
        refine .of_fails hanswer (hresume .error) hinv hstill (fun haffords => ?_) (.inl rfl)
        rw [← hsame] at haffords
        rcases haffords.1 with hnull | hnone
        · rw [hunmapped, hpolicy] at hnull
          cases hnull
        · exact hnone List.mem_cons_self
    | register f =>
      obtain ⟨rest, rfl⟩ : ∃ rest, needs = .function f :: rest := List.head?_eq_some_iff.mp hdue
      rcases register_of_inHand hready hknown hgranted hinv f with ⟨h, w₁, hanswer, hnext⟩ | ⟨hfull, hanswer⟩
      · refine .ask hanswer rfl (ih (.ok h) (hresume (.ok h)) (hknown' hanswer) hnext) ?_ (by simp [Need.functions])
        have hunmapped₁ : (w₁.context c).unmapped = s.unmapped := by rw [hnext.rest]
        have hlive := hnext.live
        rw [List.length_append, ← Nat.add_assoc, ← hstill.live, List.length_singleton] at hlive
        rw [← hsame, ContextState.Affords, ContextState.Affords, hlive, hnext.limit, hstill.limit, hunmapped₁, hunmapped]
        simp [Need.functions, Nat.add_assoc, Nat.add_comm 1]
      · have hrefuses : s.Refuses (.registryFull (w.context c).registry.limit) := .inr (by rw [hgranted.limit])
        refine .of_fails hanswer (hresume (.error _)) hinv hstill (fun haffords => ?_) hrefuses
        have hroom := haffords.2
        simp only [Need.functions, List.filterMap_cons, List.length_cons] at hroom
        omega
    | _ => exact hdue.elim

end Guest.Run

end Embedding
