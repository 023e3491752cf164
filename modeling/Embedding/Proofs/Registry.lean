import Embedding.Callback

namespace Embedding.Registry

variable (r : Registry) (h : Handle)

theorem get?_eq_none : r.get? h = none ↔
    ∀ s, r.slots[h.index]? = some s → s.generation = h.generation → s.entry = none := by
  unfold get?
  cases r.slots[h.index]? with
  | none => simp
  | some s => by_cases hg : s.generation = h.generation <;> simp [hg]

@[simp] theorem get?_ofLimit (n : Nat) : (ofLimit n).get? h = none := by
  simp [get?, ofLimit]

@[simp] theorem get?_clear : r.clear.2.get? h = none := by
  rw [get?_eq_none]
  intro s hs _
  simp only [clear, Array.getElem?_map, Option.map_eq_some_iff] at hs
  obtain ⟨t, -, rfl⟩ := hs
  split
  · rfl
  · next ht => simpa using ht

theorem get?_remove_self : (r.remove h).2.get? h = none := by
  unfold remove
  cases hf : r.get? h with
  | none => exact hf
  | some f =>
    rw [get?_eq_none]
    intro s hs _
    simp only [Array.getElem?_modify, if_true, Option.map_eq_some_iff] at hs
    obtain ⟨t, -, rfl⟩ := hs
    rfl

theorem get?_remove (h' : Handle) (hnone : r.get? h = none) : (r.remove h').2.get? h = none := by
  unfold remove
  cases hf : r.get? h' with
  | none => exact hnone
  | some f =>
    rw [get?_eq_none] at hnone ⊢
    intro s hs hg
    simp only [Array.getElem?_modify] at hs
    split at hs
    · obtain ⟨t, -, rfl⟩ := Option.map_eq_some_iff.mp hs
      rfl
    · exact hnone s hs hg

theorem get?_insert {r r' : Registry} {h h' : Handle} {f : HostFn} (hins : r.insert f = .ok (h', r')) (hne : h' ≠ h)
    (hnone : r.get? h = none) : r'.get? h = none := by
  unfold insert at hins
  split at hins
  · cases hins
  · split at hins
    · next index _ =>
      cases hins
      rw [get?_eq_none] at hnone ⊢
      intro s hs hg
      obtain ⟨t, ht, hts⟩ : ∃ t, (if index < r.slots.size then r.slots else r.slots.push {})[h.index]? = some t ∧
          (if index = h.index then { t with entry := some f } else t) = s := by
        simp only [occupy, Array.getElem?_modify] at hs
        split at hs
        · next hi =>
          obtain ⟨t, ht, hts⟩ := Option.map_eq_some_iff.mp hs
          exact ⟨t, ht, by rw [if_pos hi]; exact hts⟩
        · next hi => exact ⟨s, hs, if_neg hi⟩
      have hold : (r.slots[h.index]? = some t) ∨ (r.slots[h.index]? = none ∧ t = {}) := by
        split at ht
        · exact .inl ht
        · rw [Array.getElem?_push] at ht
          split at ht
          · next hsize =>
            rw [hsize]
            exact .inr ⟨Array.getElem?_size, (Option.some.inj ht).symm⟩
          · exact .inl ht
      have hgt : t.generation = h.generation := by
        rw [← hg, ← hts]
        split <;> rfl
      split at hts
      · -- the slot is the one that was given out, so the generations differ
        next hi =>
        refine absurd ?_ hne
        obtain ⟨i, g⟩ := h
        subst hi
        congr 1
        rcases hold with hold | ⟨hold, rfl⟩
        · rw [hold]
          exact hgt
        · rw [hold]
          exact hgt
      · subst hts
        rcases hold with hold | ⟨-, rfl⟩
        · exact hnone t hold hgt
        · rfl
    · cases hins

end Embedding.Registry
