import Embedding.Proofs.Operations
import Embedding.Proofs.Simulation

namespace Embedding

/-- A value of one context as the value of another that has the same number there. -/
def ValueRef.movedTo (c : ContextId) (v : ValueRef) : ValueRef := ⟨c, v.pin⟩

/-- Two contexts, each in its world, with the same guest state, but for the texts of a program. -/
structure World.Mirrors (c c' : ContextId) (n : Nat) (w w' : World) : Prop where
  known : c.index < w.contexts.size
  known' : c'.index < w'.contexts.size
  home : (w.context c).runtime.index < w.runtimes.size
  home' : (w'.context c').runtime.index < w'.runtimes.size
  same : ∃ runtime forgotten pending, w'.context c' = { w.context c with runtime, forgotten, pending }
  forgotten : ∀ k, k ≠ n → (k ∈ (w'.context c').forgotten ↔ k ∈ (w.context c).forgotten)
  pending : (w'.context c').pending = (w.context c).pending.map (ValueRef.movedTo c')
  own : ∀ v, (w.context c).pending = some v → v.context = c
  entered : (w'.runtimeOf c').entered = (w.runtimeOf c).entered

namespace World.Mirrors

variable {w w' : World} {c c' : ContextId} {n : Nat}

theorem of_life (h : w.Mirrors c c' n w') {v v' : World} (hlife : v.life = w.life) (hlife' : v'.life = w'.life)
    (hsame : ∃ runtime forgotten pending, v'.context c' = { v.context c with runtime, forgotten, pending })
    (hforgotten : ∀ k, k ≠ n → (k ∈ (v'.context c').forgotten ↔ k ∈ (v.context c).forgotten))
    (hpending : (v'.context c').pending = (v.context c).pending.map (ValueRef.movedTo c'))
    (hown : ∀ x, (v.context c).pending = some x → x.context = c) : v.Mirrors c c' n v' where
  known := size_contexts_of_life hlife ▸ h.known
  known' := size_contexts_of_life hlife' ▸ h.known'
  home := home_of_life hlife c ▸ runtimes_of_life hlife ▸ h.home
  home' := home_of_life hlife' c' ▸ runtimes_of_life hlife' ▸ h.home'
  same := hsame
  forgotten := hforgotten
  pending := hpending
  own := hown
  entered := by
    rw [runtimeOf, runtimeOf, runtime_of_life hlife, runtime_of_life hlife', home_of_life hlife, home_of_life hlife']
    exact h.entered

theorem change (h : w.Mirrors c c' n w') {v v' : World} {f : ContextState → ContextState} (hf : ContextState.Inner f)
    (hv : w.Changes c f v) (hv' : w'.Changes c' f v') : v.Mirrors c c' n v' := by
  have hcontext : v.context c = f (w.context c) := (hv.context c).trans (if_pos ⟨rfl, h.known⟩)
  have hcontext' : v'.context c' = f (w'.context c') := (hv'.context c').trans (if_pos ⟨rfl, h.known'⟩)
  obtain ⟨-, hforgotten, hpending⟩ := hf.keeps (w.context c)
  obtain ⟨-, hforgotten', hpending'⟩ := hf.keeps (w'.context c')
  refine h.of_life hv.life hv'.life ?_ ?_ ?_ ?_
  · obtain ⟨r, k, p, hsame⟩ := h.same
    exact ⟨r, k, p, by rw [hcontext, hcontext', hsame, hf]⟩
  · rw [hcontext, hcontext', hforgotten, hforgotten']
    exact h.forgotten
  · rw [hcontext, hcontext', hpending, hpending']
    exact h.pending
  · rw [hcontext, hpending]
    exact h.own

theorem modifyContext (h : w.Mirrors c c' n w') {f f' : ContextState → ContextState}
    (hf : ∀ s, ∃ forgotten pending, f s = { s with forgotten, pending })
    (hf' : ∀ s, ∃ forgotten pending, f' s = { s with forgotten, pending })
    (hforgotten : ∀ k, k ≠ n → (k ∈ (f' (w'.context c')).forgotten ↔ k ∈ (f (w.context c)).forgotten))
    (hpending : (f' (w'.context c')).pending = (f (w.context c)).pending.map (ValueRef.movedTo c'))
    (hown : ∀ v, (f (w.context c)).pending = some v → v.context = c) :
    (w.modifyContext c f).Mirrors c c' n (w'.modifyContext c' f') := by
  have hhome {g : ContextState → ContextState} (hg : ∀ s, ∃ forgotten pending, g s = { s with forgotten, pending })
      (s : ContextState) : (g s).runtime = s.runtime ∧ (g s).isReleased = s.isReleased := by
    obtain ⟨_, _, hg⟩ := hg s
    rw [hg]
    exact ⟨rfl, rfl⟩
  refine h.of_life (w.life_modifyContext c f (hhome hf)) (w'.life_modifyContext c' f' (hhome hf')) ?_ ?_ ?_ ?_ <;>
    rw [context_modifyContext_self f h.known]
  · rw [context_modifyContext_self f' h.known']
    obtain ⟨r, _, _, hsame⟩ := h.same
    obtain ⟨_, _, hfs⟩ := hf (w.context c)
    obtain ⟨k, p, hfs'⟩ := hf' (w'.context c')
    exact ⟨r, k, p, by rw [hfs, hfs', hsame]⟩
  · rw [context_modifyContext_self f' h.known']
    exact hforgotten
  · rw [context_modifyContext_self f' h.known']
    exact hpending
  · exact hown

theorem setEntered (h : w.Mirrors c c' n w') (b : Bool) :
    (w.modifyRuntime (w.context c).runtime fun r => { r with entered := b }).Mirrors c c' n
      (w'.modifyRuntime (w'.context c').runtime fun r => { r with entered := b }) where
  known := h.known
  known' := h.known'
  home := (size_runtimes_modifyRuntime w _ _).symm ▸ h.home
  home' := (size_runtimes_modifyRuntime w' _ _).symm ▸ h.home'
  same := h.same
  forgotten := h.forgotten
  pending := h.pending
  own := h.own
  entered := by rw [entered_modifyRuntime b h.home, entered_modifyRuntime b h.home']

theorem of_same (h : w.Mirrors c c' n w') {v v' : World} (hruntimes : v.runtimes = w.runtimes)
    (hcontexts : v.contexts = w.contexts) (hruntimes' : v'.runtimes = w'.runtimes) (hcontexts' : v'.contexts = w'.contexts) :
    v.Mirrors c c' n v' := by
  have hcontext := context_of_contexts hcontexts c
  have hcontext' := context_of_contexts hcontexts' c'
  exact {
    known := hcontexts ▸ h.known
    known' := hcontexts' ▸ h.known'
    home := hcontext ▸ hruntimes ▸ h.home
    home' := hcontext' ▸ hruntimes' ▸ h.home'
    same := hcontext ▸ hcontext' ▸ h.same
    forgotten := hcontext ▸ hcontext' ▸ h.forgotten
    pending := hcontext ▸ hcontext' ▸ h.pending
    own := hcontext ▸ h.own
    entered := by
      rw [runtimeOf, runtimeOf, runtime, runtime, hruntimes, hruntimes', hcontext, hcontext']
      exact h.entered }

theorem likeness : Likeness (· = .remembersTexts n) c c' (World.Mirrors c c' n) where
  same h := h.same
  remembers h k hk := h.forgotten k fun heq => hk (congrArg _ heq)
  entered h := h.entered
  change h := h.change
  forget h k := h.modifyContext (fun _ => ⟨_, _, rfl⟩) (fun _ => ⟨_, _, rfl⟩)
    (fun l hl => by rw [List.mem_cons, List.mem_cons, h.forgotten l hl]) h.pending h.own
  setEntered h := h.setEntered
  of_same h := h.of_same

variable [Guest.Collector]

theorem dropPending (h : w.Mirrors c c' n w') : (w.dropPending c).Mirrors c c' n (w'.dropPending c') := by
  cases hpending : (w.context c).pending with
  | none =>
    have hpending' := h.pending
    rw [hpending] at hpending'
    rw [World.dropPending, World.dropPending, hpending, hpending']
    exact h
  | some v =>
    have hpending' := h.pending
    rw [hpending] at hpending'
    obtain ⟨d, pin⟩ := v
    obtain rfl : d = c := h.own _ hpending
    rw [World.dropPending, World.dropPending, hpending, hpending']
    have hcleared : (w.modifyContext d fun s => { s with pending := none }).Mirrors d c' n
        (w'.modifyContext c' fun s => { s with pending := none }) :=
      h.modifyContext (fun _ => ⟨_, _, rfl⟩) (fun _ => ⟨_, _, rfl⟩) h.forgotten rfl nofun
    exact hcleared.change (f := fun s => ContextState.reaped { s with pins := s.pins.remove pin }) (fun _ _ _ _ => rfl)
      ⟨life_drop _ _, fun _ => context_drop _ _ _⟩ ⟨life_drop _ _, fun _ => context_drop _ _ _⟩

theorem textLikeness : TextLikeness n c c' (World.Mirrors c c' n) where
  toLikeness := likeness
  forgetting {w w'} h := by
    have hself : w.modifyContext c id = w := modifyContext_eq_self rfl
    have hmirrors : (w.modifyContext c id).Mirrors c c' n
        (w'.modifyContext c' fun s => { s with forgotten := n :: s.forgotten }) :=
      h.modifyContext (fun _ => ⟨_, _, rfl⟩) (fun _ => ⟨_, _, rfl⟩)
        (fun k hk => by rw [List.mem_cons, or_iff_right hk, h.forgotten k hk]; rfl) h.pending h.own
    rwa [hself] at hmirrors
  dropPending h := h.dropPending
  keep h pin := h.modifyContext (fun _ => ⟨_, _, rfl⟩) (fun _ => ⟨_, _, rfl⟩) h.forgotten rfl fun v hv => by
    cases hv
    rfl

end World.Mirrors

end Embedding
