import Embedding.Proofs.IdleContexts
import Embedding.Proofs.Simulation

namespace Embedding

theorem Registry.limit_insert {r r' : Registry} {h : Handle} {f : HostFn} (hins : r.insert f = .ok (h, r')) :
    r'.limit = r.limit := by
  unfold insert at hins
  split at hins
  · cases hins
  · split at hins
    · cases hins
      rfl
    · cases hins

namespace ContextState

/-- What a context is made with: how many functions may be kept, and what becomes of values without a guest form. -/
def settings (s : ContextState) : Nat × Unmapped := (s.registry.limit, s.unmapped)

theorem settings_endLeases (s : ContextState) (places : List Nat) : (s.endLeases places).settings = s.settings :=
  congrArg (·, s.unmapped) (Registry.Prunes.removeAll _ _).limit

end ContextState

/-- No objects have been made in a context, and the host holds on to nothing new in it. -/
structure ContextState.Lightens (s s' : ContextState) : Prop where
  settings : s'.settings = s.settings
  machine : s'.machine = s.machine
  pins : ∀ x ∈ s'.pins.values, x ∈ s.pins.values ∨ x = .undefined
  pending : ∀ v, s'.pending = some v → s.pending = some v

namespace ContextState.Lightens

variable {s s' s'' : ContextState}

theorem refl (s : ContextState) : s.Lightens s := ⟨rfl, rfl, fun _ => .inl, fun _ => id⟩

theorem trans (h : s.Lightens s') (h' : s'.Lightens s'') : s.Lightens s'' where
  settings := h'.settings.trans h.settings
  machine := h'.machine.trans h.machine
  pins x hx := (h'.pins x hx).elim (h.pins x) .inr
  pending v hv := h.pending v (h'.pending v hv)

theorem of_same (hsettings : s'.settings = s.settings) (hmachine : s'.machine = s.machine) (hpins : s'.pins = s.pins)
    (hpending : s'.pending = s.pending) : s.Lightens s' :=
  ⟨hsettings, hmachine, fun _ hx => .inl (hpins ▸ hx), fun _ hv => hpending ▸ hv⟩

theorem endLeases (places : List Nat) : s.Lightens (s.endLeases places) :=
  .of_same (settings_endLeases s places) rfl rfl rfl

end ContextState.Lightens

theorem Guest.Pins.values_remove {p : Pins} {id : Nat} {x : Value} (h : x ∈ (p.remove id).values) : x ∈ p.values := by
  obtain ⟨e, he, rfl⟩ := List.mem_map.mp h
  exact List.mem_map_of_mem (List.mem_of_mem_filter he)

theorem Guest.Pins.mem_values_of_find? {p : Pins} {id : Nat} {x : Value} (h : p.find? id = some x) : x ∈ p.values := by
  obtain ⟨l₁, l₂, heq, -⟩ := List.lookup_eq_some_iff.mp h
  rw [values, heq]
  simp

variable [Guest.Collector]

theorem ContextState.Lightens.unpin (s : ContextState) (pin : Nat) :
    s.Lightens (ContextState.reaped { s with pins := s.pins.remove pin }) :=
  ⟨settings_endLeases _ _, rfl, fun _ hx => .inl (Guest.Pins.values_remove hx), fun _ => id⟩

namespace World

structure Touches (only : ContextId → Prop) (w w' : World) : Prop where
  others : ∀ c, ¬ only c → w'.context c = w.context c
  lightens : ∀ c, (w.context c).Lightens (w'.context c)

namespace Touches

variable {only : ContextId → Prop} {w w' w'' : World} {c : ContextId}

section

omit [Guest.Collector]

theorem refl (w : World) : w.Touches only w := ⟨fun _ _ => rfl, fun _ => .refl _⟩

theorem trans (h : w.Touches only w') (h' : w'.Touches only w'') : w.Touches only w'' where
  others c hc := (h'.others c hc).trans (h.others c hc)
  lightens c := (h.lightens c).trans (h'.lightens c)

theorem of_contexts (h : w'.contexts = w.contexts) : w.Touches only w' :=
  ⟨fun c _ => context_of_contexts h c, fun c => context_of_contexts h c ▸ .refl _⟩

theorem change {f : ContextState → ContextState} (hc : only c)
    (hw : ∀ d, w'.context d = if d = c ∧ c.index < w.contexts.size then f (w.context c) else w.context d)
    (hf : (w.context c).Lightens (f (w.context c))) : w.Touches only w' where
  others d hd := by
    rw [hw, if_neg]
    rintro ⟨rfl, -⟩
    exact hd hc
  lightens d := by
    rw [hw]
    split
    · next h => rwa [h.1]
    · exact .refl _

theorem modifyContext (hc : only c) {f : ContextState → ContextState} (hf : (w.context c).Lightens (f (w.context c))) :
    w.Touches only (w.modifyContext c f) :=
  change hc (fun d => w.context_modifyContext c d f) hf

theorem unregister (hc : only c) (h : Handle) : w.Touches only (w.unregister c h).2 :=
  change hc (f := fun s => { s with registry := (s.registry.remove h).2 }) (fun _ => context_unregister h)
    (.of_same (congrArg (·, _) (Registry.Prunes.remove _ h).limit) rfl rfl rfl)

end

theorem reap (hc : only c) : w.Touches only (w.reap c) :=
  change hc (f := fun s => s.reaped) (fun _ => context_reap) (.endLeases _)

omit [Guest.Collector] in
theorem copy {v : ValueRef} (hc : only v.context) : w.Touches only (w.copy v).2 := by
  refine modifyContext hc ⟨rfl, rfl, fun x hx => ?_, fun _ => id⟩
  rcases List.mem_cons.mp hx with rfl | hx
  · cases hfind : (w.context v.context).pins.find? v.pin with
    | none =>
      simp only [Option.getD_none]
      split <;> exact .inr rfl
    | some y =>
      simp only [Option.getD_some]
      split
      · exact .inl (Guest.Pins.mem_values_of_find? hfind)
      · exact .inr rfl
  · exact .inl hx

theorem drop {v : ValueRef} (hc : only v.context) : w.Touches only (w.drop v) :=
  change hc (f := fun s => ContextState.reaped { s with pins := s.pins.remove v.pin }) (fun c => w.context_drop c v)
    (.unpin _ _)

theorem dropPending (hc : only c) (hpending : ∀ v, (w.context c).pending = some v → only v.context) :
    w.Touches only (w.dropPending c) := by
  unfold World.dropPending
  split
  · next v hv =>
    have hcleared : w.Touches only (w.modifyContext c fun s => { s with pending := none }) :=
      modifyContext hc ⟨rfl, rfl, fun _ => .inl, nofun⟩
    exact hcleared.trans (drop (hpending v hv))
  · exact .refl w

section

omit [Guest.Collector]

theorem release (hc : only c) : w.Touches only (w.release c) := by
  by_cases hr : (w.context c).isReleased = true
  · rw [release_of_released hr]
    exact .refl w
  · exact change hc (f := fun s => { s with isReleased := true, registry := (w.context c).registry.clear.2 })
      (fun _ => context_release _ (Bool.eq_false_iff.mpr hr)) (.of_same rfl rfl rfl rfl)

theorem drain {cs : List ContextId} (hcs : ∀ c ∈ cs, only c) : w.Touches only (cs.foldl World.release w) := by
  induction cs generalizing w with
  | nil => exact .refl w
  | cons c cs ih =>
    exact (release (hcs c List.mem_cons_self)).trans (ih fun d hd => hcs d (List.mem_cons_of_mem c hd))

theorem freeRuntime {r : RuntimeId} (hcs : ∀ c ∈ (w.runtime r).parked, only c) : w.Touches only (w.freeRuntime r) := by
  by_cases hfreed : (w.runtime r).freed = true
  · rw [freeRuntime_of_freed hfreed]
    exact .refl w
  · have hdrained : w.Touches only ((w.runtime r).parked.foldl World.release (w.closeRuntime r)) :=
      (of_contexts (w.contexts_closeRuntime r)).trans (drain hcs)
    rw [freeRuntime_of_open (Bool.eq_false_iff.mpr hfreed)]
    dsimp only
    split
    · exact hdrained.trans (of_contexts (contexts_teardown _ r))
    · exact hdrained.trans (of_contexts rfl)

theorem dropRuntime {r : RuntimeId} (hcs : ∀ c ∈ (w.runtime r).parked, only c) : w.Touches only (w.dropRuntime r) := by
  simp only [World.dropRuntime]
  split
  · exact .refl w
  · split
    · exact freeRuntime hcs
    · exact of_contexts rfl
    · exact of_contexts rfl

end

theorem collect {r : RuntimeId} (hcs : ∀ c ∈ w.contextsOf r, only c) : w.Touches only (w.collect r) where
  others c hc := by
    rw [context_collect, if_neg fun hmem => hc (hcs c hmem)]
  lightens c := by
    rw [context_collect]
    split
    · exact .endLeases _
    · exact .refl _

theorem freeContext (hc : only c) (hpending : ∀ v, (w.context c).pending = some v → only v.context) :
    w.Touches only (w.freeContext c) :=
  (dropPending hc hpending).trans (release hc)

theorem dropContext (hc : only c) (hpending : ∀ v, (w.context c).pending = some v → only v.context) :
    w.Touches only (w.dropContext c) := by
  have hdropped := dropPending hc hpending
  rcases w.dropContext_cases c with ⟨h, -⟩ | ⟨h, -⟩ | ⟨h, -⟩
  · rwa [h]
  · rw [h]
    exact hdropped.trans (release hc)
  · rw [h]
    exact hdropped.trans (of_contexts rfl)

end Touches

end World

/-- Whether an operation has to do with a context: with the context, with one of its values, or with it as one of those
that a runtime releases or collects. -/
def Operation.Concerns (w : World) (c : ContextId) : Operation → Prop
  | newRuntime _ | newContext _ | exposed _ _ => False
  | dropRuntime r | freeRuntime r => c ∈ (w.runtime r).parked
  | collect r => c ∈ w.contextsOf r
  | dropContext c' | freeContext c' | dropPending c' =>
    c' = c ∨ ∃ v, (w.context c').pending = some v ∧ v.context = c
  | keepPending c' _ | unregister c' _ => c' = c
  | copy v | drop v => v.context = c

theorem Operation.touches (op : Operation) (w : World) (hnew : ∀ r, op ≠ .newContext r)
    (hkeep : ∀ c v, op ≠ .keepPending c v) : w.Touches (fun c => op.Concerns w c) (op.apply w) := by
  cases op with
  | newRuntime config => exact .of_contexts rfl
  | dropRuntime r => exact .dropRuntime fun _ => id
  | freeRuntime r => exact .freeRuntime fun _ => id
  | collect r =>
    simp only [apply]
    split
    · exact .refl w
    · exact .collect fun _ => id
  | newContext r => exact absurd rfl (hnew r)
  | dropContext c => exact .dropContext (.inl rfl) fun v hv => .inr ⟨v, hv, rfl⟩
  | freeContext c => exact .freeContext (.inl rfl) fun v hv => .inr ⟨v, hv, rfl⟩
  | dropPending c => exact .dropPending (.inl rfl) fun v hv => .inr ⟨v, hv, rfl⟩
  | keepPending c v => exact absurd rfl (hkeep c v)
  | unregister c h => exact .unregister rfl h
  | copy v => exact .copy rfl
  | drop v => exact .drop rfl
  | exposed name h => exact .of_contexts rfl

omit [Guest.Collector] in
theorem World.context_addContext_of_ne {w : World} {c : ContextId} (r : RuntimeId) (h : c.index ≠ w.contexts.size) :
    (w.addContext r).2.context c = w.context c := by
  simp only [addContext, context_report, context_modifyRuntime]
  simp only [context, Array.getD_eq_getD_getElem?, Array.getElem?_push, if_neg h]

theorem Operation.context_of_not_concerns {op : Operation} {w : World} {c : ContextId} (hc : c.index < w.contexts.size)
    (h : ¬ op.Concerns w c) : (op.apply w).context c = w.context c := by
  by_cases hnew : ∃ r, op = .newContext r
  · obtain ⟨r, rfl⟩ := hnew
    simp only [apply]
    split
    · rfl
    · exact World.context_addContext_of_ne r (Nat.ne_of_lt hc)
  · by_cases hkeep : ∃ c' v, op = .keepPending c' v
    · obtain ⟨c', v, rfl⟩ := hkeep
      exact World.context_modifyContext_of_ne _ (Ne.symm h)
    · exact (op.touches w (not_exists.mp hnew) (fun c' v hop => hkeep ⟨c', v, hop⟩)).others c h

namespace World

variable {w : World} {c : ContextId}

theorem lightens_answer (q : Guest.Query) (hq : ∀ x, q ≠ .pin x) (c' : ContextId) :
    (w.context c').Lightens ((w.answer c q).2.context c') := by
  suffices htouches : w.Touches (fun _ => True) (w.answer c q).2 from htouches.lightens c'
  cases q with
  | isReleased | unmapped | pinned | remembersTexts => exact .refl w
  | register f =>
    simp only [answer, register]
    split
    · exact .refl w
    · split
      · next hins =>
        refine .trans (.trans (.reap (c := c) trivial) ?_) (.of_contexts (World.contexts_report _ _))
        exact .modifyContext trivial (.of_same (congrArg (·, _) (Registry.limit_insert hins)) rfl rfl rfl)
      · exact .reap trivial
  | pin x => exact absurd rfl (hq x)
  | beginCall h =>
    simp only [answer, beginCall]
    split
    · exact .modifyContext trivial (.of_same rfl rfl rfl rfl)
    · exact .refl w
  | dropCall | forgetTexts => exact .modifyContext trivial (.of_same rfl rfl rfl rfl)
  | report n => exact (Touches.reap trivial).trans (.of_contexts rfl)

theorem lightens_makeCall (call : PendingCall) (c' : ContextId) : (w.context c').Lightens ((w.makeCall c call).context c') := by
  suffices htouches : w.Touches (fun _ => True) (w.makeCall c call) from htouches.lightens c'
  exact (Touches.reap trivial).trans (.modifyContext trivial (.of_same rfl rfl rfl rfl))

/-- Of what the host holds on to and keeps, nothing is new after work has left, whatever it did to its machine. -/
theorem pins_leave (c' : ContextId) : ((w.leave c).context c').pins = (w.context c').pins ∧
    ((w.leave c).context c').pending = (w.context c').pending := by
  rw [leave, context_modifyRuntime, context_reap]
  split
  · next h =>
    obtain ⟨rfl, hsize⟩ := h
    rw [context_modifyContext_self _ (by simpa using hsize)]
    exact ⟨rfl, rfl⟩
  · rw [context_modifyContext]
    split
    · next h => rw [h.1]; exact ⟨rfl, rfl⟩
    · exact ⟨rfl, rfl⟩

omit [Guest.Collector] in
theorem pins_setMachine (m : Guest.Machine) (c' : ContextId) :
    ((w.setMachine c m).context c').pins = (w.context c').pins ∧
      ((w.setMachine c m).context c').pending = (w.context c').pending := by
  rw [setMachine, context_modifyContext]
  split
  · next h => rw [h.1]; exact ⟨rfl, rfl⟩
  · exact ⟨rfl, rfl⟩

end World

/-- Two worlds in which a context is the same, and its engine is running or not alike. -/
structure World.SameAt (c : ContextId) (w w' : World) : Prop where
  known : c.index < w.contexts.size
  known' : c.index < w'.contexts.size
  home : (w.context c).runtime.index < w.runtimes.size
  home' : (w'.context c).runtime.index < w'.runtimes.size
  context : w'.context c = w.context c
  entered : (w'.runtimeOf c).entered = (w.runtimeOf c).entered

namespace World.SameAt

variable {w w' : World} {c : ContextId}

section

omit [Guest.Collector]

theorem change (h : w.SameAt c w') {v v' : World} (hlife : v.life = w.life) (hlife' : v'.life = w'.life)
    (hcontext : v'.context c = v.context c) : v.SameAt c v' where
  known := size_contexts_of_life hlife ▸ h.known
  known' := size_contexts_of_life hlife' ▸ h.known'
  home := home_of_life hlife c ▸ runtimes_of_life hlife ▸ h.home
  home' := home_of_life hlife' c ▸ runtimes_of_life hlife' ▸ h.home'
  context := hcontext
  entered := by
    rw [runtimeOf, runtimeOf, runtime_of_life hlife, runtime_of_life hlife', home_of_life hlife, home_of_life hlife']
    exact h.entered

theorem modifyContext (h : w.SameAt c w') (f : ContextState → ContextState) :
    (w'.modifyContext c f).context c = (w.modifyContext c f).context c := by
  rw [context_modifyContext_self f h.known, context_modifyContext_self f h.known', h.context]

theorem of_same (h : w.SameAt c w') {v v' : World} (hruntimes : v.runtimes = w.runtimes) (hcontexts : v.contexts = w.contexts)
    (hruntimes' : v'.runtimes = w'.runtimes) (hcontexts' : v'.contexts = w'.contexts) : v.SameAt c v' where
  known := hcontexts ▸ h.known
  known' := hcontexts' ▸ h.known'
  home := by
    rw [hruntimes, context_of_contexts hcontexts]
    exact h.home
  home' := by
    rw [hruntimes', context_of_contexts hcontexts']
    exact h.home'
  context := by rw [context_of_contexts hcontexts, context_of_contexts hcontexts', h.context]
  entered := by
    rw [runtimeOf, runtimeOf, runtime, runtime, hruntimes, hruntimes', context_of_contexts hcontexts,
      context_of_contexts hcontexts']
    exact h.entered

theorem setEntered (h : w.SameAt c w') (b : Bool) :
    (w.modifyRuntime (w.context c).runtime fun r => { r with entered := b }).SameAt c
      (w'.modifyRuntime (w'.context c).runtime fun r => { r with entered := b }) where
  known := h.known
  known' := h.known'
  home := (size_runtimes_modifyRuntime w _ _).symm ▸ h.home
  home' := (size_runtimes_modifyRuntime w' _ _).symm ▸ h.home'
  context := h.context
  entered := by rw [entered_modifyRuntime b h.home, entered_modifyRuntime b h.home']

theorem likeness : Likeness (fun _ => False) c c (World.SameAt c) where
  same h := ⟨_, _, _, h.context⟩
  remembers h _ _ := by rw [h.context]
  entered := SameAt.entered
  change h _ hv hv' := h.change hv.life hv'.life (by
    rw [hv.context, hv'.context, if_pos ⟨rfl, h.known'⟩, if_pos ⟨rfl, h.known⟩, h.context])
  forget h _ := h.change (life_modifyContext _ _ _ fun _ => ⟨rfl, rfl⟩) (life_modifyContext _ _ _ fun _ => ⟨rfl, rfl⟩)
    (h.modifyContext _)
  setEntered h := h.setEntered
  of_same h := h.of_same

end

end World.SameAt

/-- The functions of the host depend on nothing in a world but one context, as far as this context can tell. -/
abbrev Handler.KeepsTo {σ : Type} (handler : Handler σ) (c : ContextId) : Prop := handler.Blind (World.SameAt c)

/-- What comes of work in a context depends on nothing else in the world, as long as it has the same memory. -/
theorem Handler.KeepsTo.inside {σ α : Type} {handler : Handler σ} {c : ContextId} (hkeeps : handler.KeepsTo c)
    (x : Guest.Bridge α) {w w' : World} (s : σ) (hsame : w.SameAt c w') (hmachine : w'.machineFor c = w.machineFor c) :
    ((c.inside x).run handler w' s).1.1 = ((c.inside x).run handler w s).1.1 ∧
      ((c.inside x).run handler w' s).2 = ((c.inside x).run handler w s).2 :=
  have h := World.SameAt.likeness.inside hkeeps hsame hmachine Handler.not_asks_false
  ⟨h.result, h.state⟩

end Embedding
