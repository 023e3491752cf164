import Embedding.Proofs.Operations
import Embedding.Proofs.Simulation

namespace Embedding

/-- Two worlds are alike but for the texts of a program. -/
structure World.Alike (c : ContextId) (n : Nat) (w w' : World) : Prop where
  runtimes : w'.runtimes = w.runtimes
  size : w'.contexts.size = w.contexts.size
  context : ∀ c', w'.context c' = { w.context c' with forgotten := (w'.context c').forgotten }
  forgotten : ∀ c' k, (c', k) ≠ (c, n) → (k ∈ (w'.context c').forgotten ↔ k ∈ (w.context c').forgotten)

namespace World.Alike

variable {w w' w'' : World} {c c' : ContextId} {n : Nat}

theorem refl : w.Alike c n w := ⟨rfl, rfl, fun _ => rfl, fun _ _ _ => Iff.rfl⟩

theorem runtime (h : w.Alike c n w') (r : RuntimeId) : w'.runtime r = w.runtime r := by
  rw [World.runtime, World.runtime, h.runtimes]

theorem of_same (h : w.Alike c n w') {v v' : World} (hruntimes : v.runtimes = w.runtimes) (hcontexts : v.contexts = w.contexts)
    (hruntimes' : v'.runtimes = w'.runtimes) (hcontexts' : v'.contexts = w'.contexts) : v.Alike c n v' := by
  have hcontext (c' : ContextId) : v.context c' = w.context c' := by rw [World.context, World.context, hcontexts]
  have hcontext' (c' : ContextId) : v'.context c' = w'.context c' := by rw [World.context, World.context, hcontexts']
  refine ⟨by rw [hruntimes, hruntimes', h.runtimes], by rw [hcontexts, hcontexts', h.size], fun c' => ?_, fun c' k hk => ?_⟩
  · rw [hcontext, hcontext']
    exact h.context c'
  · rw [hcontext, hcontext']
    exact h.forgotten c' k hk

theorem change (h : w.Alike c n w') {v v' : World} {f : ContextState → ContextState} (hv : w.Changes c' f v)
    (hv' : w'.Changes c' f v') (hf : ∀ s forgotten, f { s with forgotten } = { f s with forgotten }) : v.Alike c n v' := by
  have hkeeps (s : ContextState) : (f s).forgotten = s.forgotten := congrArg (·.forgotten) (hf s s.forgotten)
  refine ⟨?_, ?_, fun d => ?_, fun d k hk => ?_⟩
  · rw [runtimes_of_life hv.life, runtimes_of_life hv'.life, h.runtimes]
  · rw [size_contexts_of_life hv.life, size_contexts_of_life hv'.life, h.size]
  · rw [hv.context, hv'.context, h.size]
    split
    · rw [hkeeps, ← hf, ← h.context c']
    · exact h.context d
  · rw [hv.context, hv'.context, h.size]
    split
    · next hd =>
      rw [hkeeps, hkeeps]
      exact h.forgotten c' k (hd.1 ▸ hk)
    · exact h.forgotten d k hk

theorem modifyContext (h : w.Alike c n w') (c' : ContextId) {f : ContextState → ContextState}
    (hf : ∀ s forgotten, f { s with forgotten } = { f s with forgotten })
    (hhome : ∀ s, (f s).runtime = s.runtime ∧ (f s).isReleased = s.isReleased) :
    (w.modifyContext c' f).Alike c n (w'.modifyContext c' f) :=
  h.change (.modifyContext w c' hhome) (.modifyContext w' c' hhome) hf

theorem forget (h : w.Alike c n w') (c' : ContextId) (k : Nat) : (w.modifyContext c' fun s => { s with forgotten := k :: s.forgotten }).Alike c n
    (w'.modifyContext c' fun s => { s with forgotten := k :: s.forgotten }) := by
  refine ⟨h.runtimes, by simpa using h.size, fun d => ?_, fun d l hl => ?_⟩
  · rw [context_modifyContext, context_modifyContext, h.size]
    split
    · rw [h.context c']
    · exact h.context d
  · rw [context_modifyContext, context_modifyContext, h.size]
    split
    · next hd =>
      rw [List.mem_cons, List.mem_cons, h.forgotten c' l (hd.1 ▸ hl)]
    · exact h.forgotten d l hl

theorem modifyRuntime (h : w.Alike c n w') (r : RuntimeId) (f : RuntimeState → RuntimeState) :
    (w.modifyRuntime r f).Alike c n (w'.modifyRuntime r f) :=
  ⟨by simp only [World.modifyRuntime, h.runtimes], h.size, h.context, h.forgotten⟩

theorem forgetting (h : w.Alike c n w') :
    w.Alike c n (w'.modifyContext c fun s => { s with forgotten := n :: s.forgotten }) := by
  refine ⟨h.runtimes, by simpa using h.size, fun d => ?_, fun d k hk => ?_⟩
  · rw [context_modifyContext]
    split
    · next hd => rw [hd.1, h.context c]
    · exact h.context d
  · rw [context_modifyContext]
    split
    · next hd =>
      obtain ⟨rfl, -⟩ := hd
      have hne : k ≠ n := fun hkn => hk (by rw [hkn])
      rw [List.mem_cons, or_iff_right hne]
      exact h.forgotten d k hk
    · exact h.forgotten d k hk

theorem likeness : Likeness (· = .remembersTexts n) c c (World.Alike c n) where
  same h := ⟨_, _, _, h.context c⟩
  remembers h k hk := h.forgotten c k fun heq => hk (congrArg (fun e => Guest.Query.remembersTexts e.2) heq)
  entered h := by rw [runtimeOf, runtimeOf, congrArg ContextState.runtime (h.context c), h.runtime]
  change h hf hv hv' := h.change hv hv' fun s forgotten => (hf s s.runtime forgotten s.pending).trans (by
    rw [← (hf.keeps s).1, ← (hf.keeps s).2.2])
  forget h k := h.forget c k
  setEntered h b := by
    rw [congrArg ContextState.runtime (h.context c)]
    exact h.modifyRuntime _ _
  of_same h := h.of_same

section

variable [Guest.Collector]

theorem drop (h : w.Alike c n w') (v : ValueRef) : (w.drop v).Alike c n (w'.drop v) := by
  have hdrop (u : World) : u.Changes v.context (fun s => ContextState.reaped { s with pins := s.pins.remove v.pin }) (u.drop v) :=
    ⟨u.life_drop v, fun d => u.context_drop d v⟩
  exact h.change (hdrop w) (hdrop w') fun _ _ => rfl

theorem dropPending (h : w.Alike c n w') (c' : ContextId) : (w.dropPending c').Alike c n (w'.dropPending c') := by
  have hpending : (w'.context c').pending = (w.context c').pending := by rw [h.context c']
  rw [World.dropPending, World.dropPending, hpending]
  split
  · next v _ =>
    refine Alike.drop ?_ v
    exact h.modifyContext c' (fun _ _ => rfl) fun _ => ⟨rfl, rfl⟩
  · exact h

theorem textLikeness : TextLikeness n c c (World.Alike c n) where
  toLikeness := likeness
  forgetting h := h.forgetting
  dropPending h := h.dropPending c
  keep h _ := h.modifyContext c (fun _ _ => rfl) fun _ => ⟨rfl, rfl⟩

theorem machineFor (h : w.Alike c n w') (c' : ContextId) : w'.machineFor c' = w.machineFor c' := by
  have hhome (d : ContextId) : (w'.context d).runtime = (w.context d).runtime := by
    rw [h.context d]
  have hcontexts (r : RuntimeId) : w'.contextsOf r = w.contextsOf r := by
    rw [contextsOf, contextsOf, h.size]
    simp only [hhome]
  have hmemory (r : RuntimeId) : w'.memoryInUse r = w.memoryInUse r := by
    have htaken (d : ContextId) : (w'.context d).taken = (w.context d).taken := by
      rw [h.context d]
      rfl
    rw [memoryInUse_eq, memoryInUse_eq, hcontexts]
    simp only [htaken]
  simp only [World.machineFor]
  rw [h.context c', hmemory]

end

end World.Alike

end Embedding
