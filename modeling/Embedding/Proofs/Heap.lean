import Embedding.Guest.Object

namespace Embedding.Guest

namespace Object

variable (o : Object) (k k' : Key) (p : Property)

theorem property?_eq : o.property? k = (o.properties.toList.find? fun q => q.1 = k).map (·.2) := by
  rw [property?, Array.find?_toList]
  cases o.properties.find? fun q => q.1 = k <;> rfl

theorem find?_modify_of_findIdx? {ps : List (Key × Property)} {i : Nat}
    (h : ps.findIdx? (fun q => q.1 = k) = some i) :
    ((ps.modify i fun _ => (k, p)).find? fun q => q.1 = k').map (·.2) =
      if k' = k then some p else (ps.find? fun q => q.1 = k').map (·.2) := by
  induction ps generalizing i with
  | nil => cases h
  | cons q ps ih =>
    rw [List.findIdx?_cons] at h
    by_cases hq : q.1 = k
    · simp only [hq, decide_true, if_true, Option.some.injEq] at h
      subst h
      rw [List.modify_zero_cons]
      by_cases hk : k' = k
      · subst hk
        simp
      · have hq' : ¬ q.1 = k' := fun he => hk (he ▸ hq)
        simp [hk, Ne.symm hk, hq']
    · simp only [hq, decide_false, Bool.false_eq_true, if_false, Option.map_eq_some_iff] at h
      obtain ⟨j, hj, rfl⟩ := h
      rw [List.modify_succ_cons, List.find?_cons, List.find?_cons]
      by_cases hq' : q.1 = k'
      · have hk : k' ≠ k := fun he => hq (hq'.trans he)
        simp [hq', hk]
      · simpa [hq'] using ih hj

theorem property?_putProperty : (o.putProperty k p).property? k' = if k' = k then some p else o.property? k' := by
  unfold putProperty findIndex?
  rw [← o.properties.toArray_toList, List.findIdx?_toArray]
  cases h : o.properties.toList.findIdx? fun q => q.1 = k with
  | some i =>
    simp only [property?_eq, Array.toList_modify]
    exact find?_modify_of_findIdx? k k' p h
  | none =>
    have habsent := List.findIdx?_eq_none_iff.mp h
    simp only [property?_eq, Array.toList_push, List.find?_append]
    by_cases hk : k' = k
    · subst hk
      have hnone : o.properties.toList.find? (fun q => q.1 = k') = none := by
        rw [List.find?_eq_none]
        intro q hq
        simp [habsent q hq]
      simp [hnone]
    · simp [hk, Ne.symm hk]

theorem map_fst_modify_of_findIdx? {ps : List (Key × Property)} {i : Nat}
    (h : ps.findIdx? (fun q => q.1 = k) = some i) : (ps.modify i fun _ => (k, p)).map (·.1) = ps.map (·.1) := by
  induction ps generalizing i with
  | nil => cases h
  | cons q ps ih =>
    rw [List.findIdx?_cons] at h
    by_cases hq : q.1 = k
    · simp only [hq, decide_true, if_true, Option.some.injEq] at h
      subst h
      simp [hq]
    · simp only [hq, decide_false, Bool.false_eq_true, if_false, Option.map_eq_some_iff] at h
      obtain ⟨j, hj, rfl⟩ := h
      simpa using ih hj

def Distinct : Prop := (o.properties.toList.map (·.1)).Nodup

variable {o}

theorem Distinct.putProperty (h : o.Distinct) : (o.putProperty k p).Distinct := by
  unfold Object.putProperty findIndex? Distinct
  rw [← o.properties.toArray_toList, List.findIdx?_toArray]
  cases hindex : o.properties.toList.findIdx? fun q => q.1 = k with
  | some i =>
    simp only [Array.toList_modify, map_fst_modify_of_findIdx? k p hindex]
    exact h
  | none =>
    have habsent := List.findIdx?_eq_none_iff.mp hindex
    simp only [Array.toList_push, List.map_append, List.nodup_append]
    refine ⟨h, by simp, ?_⟩
    intro k' hmem k'' hk
    obtain ⟨q, hq, rfl⟩ := List.mem_map.mp hmem
    simp only [List.map_cons, List.map_nil, List.mem_singleton] at hk
    simpa [hk] using habsent q hq

theorem find?_eraseIdx_of_findIdx? {ps : List (Key × Property)} {i : Nat}
    (h : ps.findIdx? (fun q => q.1 = k) = some i) (hnodup : (ps.map (·.1)).Nodup) :
    (ps.eraseIdx i).find? (fun q => q.1 = k') = if k' = k then none else ps.find? fun q => q.1 = k' := by
  induction ps generalizing i with
  | nil => cases h
  | cons q ps ih =>
    rw [List.map_cons, List.nodup_cons] at hnodup
    rw [List.findIdx?_cons] at h
    by_cases hq : q.1 = k
    · simp only [hq, decide_true, if_true, Option.some.injEq] at h
      subst h
      rw [List.eraseIdx_cons_zero]
      by_cases hk : k' = k
      · subst hk
        rw [if_pos rfl, List.find?_eq_none]
        intro r hr he
        have hmem : r.1 ∈ ps.map (·.1) := List.mem_map_of_mem hr
        rw [of_decide_eq_true he, ← hq] at hmem
        exact hnodup.1 hmem
      · have hq' : ¬ q.1 = k' := fun he => hk (he.symm.trans hq)
        simp [hk, hq']
    · simp only [hq, decide_false, Bool.false_eq_true, if_false, Option.map_eq_some_iff] at h
      obtain ⟨j, hj, rfl⟩ := h
      rw [List.eraseIdx_cons_succ, List.find?_cons, List.find?_cons]
      by_cases hq' : q.1 = k'
      · have hk : k' ≠ k := fun he => hq (hq'.trans he)
        simp [hq', hk]
      · simpa [hq'] using ih hj hnodup.2

theorem Distinct.property?_eraseProperty (h : o.Distinct) :
    (o.eraseProperty k).property? k' = if k' = k then none else o.property? k' := by
  unfold eraseProperty findIndex?
  rw [← o.properties.toArray_toList, List.findIdx?_toArray]
  cases hindex : o.properties.toList.findIdx? fun q => q.1 = k with
  | some i =>
    simp only [property?_eq, Array.toList_eraseIdxIfInBounds, find?_eraseIdx_of_findIdx? k k' hindex h]
    split <;> rfl
  | none =>
    have habsent := List.findIdx?_eq_none_iff.mp hindex
    by_cases hk : k' = k
    · subst hk
      have hnone : o.properties.toList.find? (fun q => q.1 = k') = none := by
        rw [List.find?_eq_none]
        intro q hq
        simp [habsent q hq]
      simp [property?_eq, hnone]
    · rw [if_neg hk, Array.toArray_toList]

theorem Distinct.eraseProperty (h : o.Distinct) : (o.eraseProperty k).Distinct := by
  unfold Object.eraseProperty
  split
  · simp only [Distinct, Array.toList_eraseIdxIfInBounds]
    exact List.Pairwise.sublist ((List.eraseIdx_sublist ..).map _) h
  · exact h

@[simp] theorem proto_eraseProperty : (o.eraseProperty k).proto = o.proto := by
  unfold eraseProperty
  split <;> rfl

@[simp] theorem payload_eraseProperty : (o.eraseProperty k).payload = o.payload := by
  unfold eraseProperty
  split <;> rfl

variable (o)

@[simp] theorem proto_putProperty : (o.putProperty k p).proto = o.proto := by
  unfold putProperty
  split <;> rfl

@[simp] theorem payload_putProperty : (o.putProperty k p).payload = o.payload := by
  unfold putProperty
  split <;> rfl

end Object

/-- The objects of one row at some places are in another as well. -/
def Keeps (places : ObjectId → Prop) (objects objects' : Array Object) : Prop :=
  ∀ (i : Nat) (x : Object), places i → objects[i]? = some x → objects'[i]? = some x

namespace Keeps

variable {p q : ObjectId → Prop} {a b c : Array Object}

theorem refl : Keeps p a a := fun _ _ _ hx => hx

theorem trans (h : Keeps p a b) (h' : Keeps p b c) : Keeps p a c :=
  fun i x hi hx => h' i x hi (h i x hi hx)

theorem imp (h : Keeps p a b) (hq : ∀ i, q i → p i) : Keeps q a b := fun i x hi => h i x (hq i hi)

theorem push (y : Object) : Keeps p a (a.push y) := by
  intro i x _ hx
  obtain ⟨hi, -⟩ := Array.getElem?_eq_some_iff.mp hx
  rw [Array.getElem?_push, if_neg (by omega), hx]

theorem setIfInBounds {o : ObjectId} {y : Object} (hp : ¬ p o) : Keeps p a (a.setIfInBounds o y) := by
  intro i x hi hx
  have hne : o ≠ i := fun he => hp (he ▸ hi)
  rw [Array.getElem?_setIfInBounds_ne hne, hx]

end Keeps

end Embedding.Guest
