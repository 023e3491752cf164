import Embedding.Proofs.Registry
import Mathlib.Tactic.ByContra

namespace Embedding.Registry

variable (r : Registry)

/-- The counts of a registry agree with its slots. -/
structure Sound : Prop where
  limit_pos : 0 < r.limit
  size_le : r.slots.size ≤ r.limit
  cursor_le : r.cursor ≤ r.slots.size
  live_eq : r.live = r.slots.countP fun s => s.entry.isSome

theorem sound_ofLimit (limit : Nat) : (ofLimit limit).Sound where
  limit_pos := by
    show 0 < max limit 1
    omega
  size_le := Nat.zero_le _
  cursor_le := Nat.le_refl _
  live_eq := rfl

theorem countP_modify (i : Nat) (f : Slot → Slot) (p : Slot → Bool) {s : Slot} (hs : r.slots[i]? = some s) :
    (r.slots.modify i f).countP p = r.slots.countP p - (if p s then 1 else 0) + if p (f s) then 1 else 0 := by
  obtain ⟨hi, rfl⟩ := Array.getElem?_eq_some_iff.mp hs
  have hset : r.slots.modify i f = r.slots.set i (f r.slots[i]) := by
    apply Array.ext
    · simp
    · intro j hj _
      rw [Array.getElem_modify, Array.getElem_set]
      split
      · next h => simp only [h]
      · rfl
  rw [hset, Array.countP_set]

theorem isFree_of_size_le {index : Nat} (h : r.slots.size ≤ index) : r.isFree index = true := by
  simp [isFree, h]

variable {r}

theorem freeIndex?_spec {steps index found : Nat} (hindex : index < r.limit)
    (h : r.freeIndex? steps index = some found) :
    ∃ k < steps, found = (index + k) % r.limit ∧ r.isFree found = true ∧
      ∀ k' < k, r.isFree ((index + k') % r.limit) = false := by
  induction steps generalizing index with
  | zero => cases h
  | succ steps ih =>
    rw [freeIndex?] at h
    split at h
    · next hfree =>
      cases h
      exact ⟨0, Nat.succ_pos _, (Nat.mod_eq_of_lt hindex).symm, hfree, nofun⟩
    · next hfree =>
      obtain ⟨k, hk, rfl, hfound, hbefore⟩ := ih (Nat.mod_lt _ (by omega)) h
      have hnext (k : Nat) : ((index + 1) % r.limit + k) % r.limit = (index + (k + 1)) % r.limit := by
        rw [Nat.mod_add_mod]
        congr 1
        omega
      refine ⟨k + 1, by omega, hnext k, hfound, fun k' hk' => ?_⟩
      cases k' with
      | zero => simpa [Nat.mod_eq_of_lt hindex] using hfree
      | succ k' => rw [← hnext k', hbefore k' (by omega)]

theorem exists_freeIndex? (steps : Nat) {index k : Nat} (hindex : index < r.limit) (hk : k < steps)
    (hfree : r.isFree ((index + k) % r.limit) = true) : ∃ found, r.freeIndex? steps index = some found := by
  induction steps generalizing index k with
  | zero => exact absurd hk (Nat.not_lt_zero _)
  | succ steps ih =>
    rw [freeIndex?]
    split
    · exact ⟨index, rfl⟩
    · next hused =>
      cases k with
      | zero => exact absurd (by rwa [Nat.add_zero, Nat.mod_eq_of_lt hindex] at hfree) hused
      | succ k =>
        apply ih (Nat.mod_lt _ (by omega)) (Nat.lt_of_succ_lt_succ hk)
        rw [Nat.mod_add_mod]
        rwa [show index + 1 + k = index + (k + 1) by omega]

namespace Sound

variable (h : r.Sound)
include h

theorem exists_free (hlive : r.live < r.limit) (hfull : r.slots.size = r.limit) :
    ∃ i < r.limit, r.isFree i = true := by
  by_contra hnone
  have hall : r.slots.countP (fun s => s.entry.isSome) = r.slots.size := by
    rw [Array.countP_eq_size]
    intro s hs
    obtain ⟨i, hi, rfl⟩ := Array.mem_iff_getElem.mp hs
    have hused : r.isFree i ≠ true := fun hfree => hnone ⟨i, by omega, hfree⟩
    simpa [isFree, hi, Option.isSome_iff_ne_none] using hused
  have hlive_eq := h.live_eq
  omega

theorem freeIndex? (hlive : r.live < r.limit) :
    ∃ i ≤ r.slots.size, i < r.limit ∧ r.isFree i = true ∧
      r.freeIndex? (min r.limit (r.slots.size + 1)) (r.cursor % r.limit) = some i := by
  have hstart : r.cursor % r.limit < r.limit := Nat.mod_lt _ h.limit_pos
  rcases Nat.lt_or_ge r.slots.size r.limit with hroom | hfull
  · -- the place behind the last slot is free, and comes before any start over
    have hcursor : r.cursor % r.limit = r.cursor := Nat.mod_eq_of_lt (by have := h.cursor_le; omega)
    have hlast : r.isFree ((r.cursor % r.limit + (r.slots.size - r.cursor)) % r.limit) = true := by
      have hsum : r.cursor + (r.slots.size - r.cursor) = r.slots.size := by
        have := h.cursor_le
        omega
      rw [hcursor, hsum, Nat.mod_eq_of_lt hroom]
      exact r.isFree_of_size_le (Nat.le_refl _)
    obtain ⟨i, hi⟩ := exists_freeIndex? (min r.limit (r.slots.size + 1)) hstart (by omega) hlast
    obtain ⟨k, -, hik, hfree, hbefore⟩ := freeIndex?_spec hstart hi
    have hk : k ≤ r.slots.size - r.cursor := by
      by_contra hgt
      rw [hbefore _ (by omega)] at hlast
      cases hlast
    have hle := h.cursor_le
    have hindex : i = r.cursor + k := by rw [hik, hcursor, Nat.mod_eq_of_lt (by omega)]
    exact ⟨i, by omega, by omega, hfree, hi⟩
  · have hsize : r.slots.size = r.limit := Nat.le_antisymm h.size_le hfull
    obtain ⟨j, hj, hfree⟩ := h.exists_free hlive hsize
    -- the search goes once around, so it comes past every slot
    have hpast : r.isFree ((r.cursor % r.limit + (j + r.limit - r.cursor % r.limit) % r.limit) % r.limit) = true := by
      rw [Nat.add_mod_mod, show r.cursor % r.limit + (j + r.limit - r.cursor % r.limit) = j + r.limit by omega,
        Nat.add_mod_right, Nat.mod_eq_of_lt hj]
      exact hfree
    obtain ⟨i, hi⟩ := exists_freeIndex? (min r.limit (r.slots.size + 1)) hstart
      (Nat.lt_of_lt_of_le (Nat.mod_lt _ h.limit_pos) (by omega)) hpast
    obtain ⟨k, -, hik, hfound, -⟩ := freeIndex?_spec hstart hi
    have hlt : i < r.limit := hik ▸ Nat.mod_lt _ h.limit_pos
    exact ⟨i, by omega, hlt, hfound, hi⟩

end Sound

/-- The generation that a handle for a place gets. -/
def generationAt (r : Registry) (i : Nat) : UInt32 := ((r.slots[i]?).map (·.generation)).getD 0

theorem getElem?_occupy {index : Nat} (hindex : index ≤ r.slots.size) (f : HostFn) (i : Nat) :
    (r.occupy index f).slots[i]? = if i = index then some ⟨r.generationAt index, some f⟩ else r.slots[i]? := by
  simp only [occupy, generationAt, Array.getElem?_modify]
  by_cases hi : index = i
  · subst hi
    rcases Nat.lt_or_ge index r.slots.size with hlt | hge
    · simp [hlt]
    · simp [show index = r.slots.size by omega]
  · rw [if_neg hi, if_neg (Ne.symm hi)]
    split
    · rfl
    · rw [Array.getElem?_push, if_neg (by omega)]

theorem Sound.occupy (h : r.Sound) {index : Nat} (hsize : index ≤ r.slots.size) (hlimit : index < r.limit)
    (hfree : r.isFree index = true) (f : HostFn) : (r.occupy index f).Sound where
  limit_pos := h.limit_pos
  size_le := by
    have hle := h.size_le
    simp only [Registry.occupy, Array.size_modify]
    split
    · exact hle
    · rw [Array.size_push]
      omega
  cursor_le := by
    simp only [Registry.occupy, Array.size_modify]
    split
    · omega
    · rw [Array.size_push]
      omega
  live_eq := by
    rcases Nat.lt_or_ge index r.slots.size with hlt | hge
    · have hget := Array.getElem?_eq_getElem hlt
      have hempty : r.slots[index].entry.isSome = false := by simpa [isFree, hget] using hfree
      simp only [Registry.occupy, if_pos hlt, r.countP_modify index _ _ hget, hempty, h.live_eq]
      simp
    · have hpush : (r.slots.push {}).modify index (fun s => { s with entry := some f }) =
          r.slots.push ⟨0, some f⟩ := by
        obtain rfl : index = r.slots.size := by omega
        apply Array.ext_getElem?
        intro i
        rw [Array.getElem?_modify, Array.getElem?_push, Array.getElem?_push]
        by_cases hi : r.slots.size = i
        · simp [hi]
        · simp [hi, Ne.symm hi]
      simp only [Registry.occupy, if_neg (Nat.not_lt.mpr hge), hpush, Array.countP_push, h.live_eq]
      simp

theorem Sound.insert (h : r.Sound) (f : HostFn) :
    (r.live < r.limit ∧ ∃ i ≤ r.slots.size, i < r.limit ∧ r.isFree i = true ∧
      r.insert f = .ok (⟨i, r.generationAt i⟩, r.occupy i f)) ∨
    (r.limit ≤ r.live ∧ r.insert f = .error (.registryFull r.limit)) := by
  rcases Nat.lt_or_ge r.live r.limit with hlive | hlive
  · obtain ⟨i, hsize, hlimit, hfree, hfound⟩ := h.freeIndex? hlive
    refine .inl ⟨hlive, i, hsize, hlimit, hfree, ?_⟩
    rw [Registry.insert, if_neg (Nat.not_le.mpr hlive), hfound]
    rfl
  · exact .inr ⟨hlive, by rw [Registry.insert, if_pos hlive]⟩

theorem get?_occupy {index : Nat} (hindex : index ≤ r.slots.size) (hfree : r.isFree index = true) (f : HostFn)
    (h : Handle) :
    (r.occupy index f).get? h = if h = ⟨index, r.generationAt index⟩ then some f else r.get? h := by
  obtain ⟨i, g⟩ := h
  rw [get?, getElem?_occupy hindex, get?]
  by_cases hi : i = index
  · subst hi
    by_cases hg : r.generationAt i = g
    · simp [hg]
    · have hold : r.get? ⟨i, g⟩ = none := by
        rw [get?_eq_none]
        intro s hs _
        simpa [isFree, hs] using hfree
      rw [get?] at hold
      simp [hg, Ne.symm hg, hold]
  · simp [hi]

theorem get?_remove_eq (h h' : Handle) : (r.remove h).2.get? h' = if h' = h then none else r.get? h' := by
  by_cases heq : h' = h
  · rw [if_pos heq, heq, get?_remove_self]
  · rw [if_neg heq]
    unfold remove
    cases hf : r.get? h with
    | none => rfl
    | some f =>
      obtain ⟨i, g⟩ := h
      obtain ⟨j, g'⟩ := h'
      simp only [get?, Array.getElem?_modify]
      by_cases hi : i = j
      · subst hi
        have hne : g ≠ g' := fun hgg => heq (hgg ▸ rfl)
        simp only [get?] at hf
        cases hs : r.slots[i]? with
        | none => simp
        | some s =>
          simp only [hs] at hf
          split at hf
          · next hg => simp [hg, hne]
          · cases hf
      · simp [hi]

/-- Takes out the functions behind some handles. -/
def removeAll (r : Registry) (hs : List Handle) : Registry := hs.foldl (fun r h => (r.remove h).2) r

theorem get?_removeAll (hs : List Handle) (h : Handle) :
    (r.removeAll hs).get? h = if h ∈ hs then none else r.get? h := by
  unfold removeAll
  induction hs generalizing r with
  | nil => simp
  | cons g hs ih =>
    rw [List.foldl_cons, ih, get?_remove_eq]
    by_cases hmem : h ∈ hs
    · simp [hmem]
    · by_cases hg : h = g
      · simp [hg]
      · simp [hmem, hg]

/-- A registry from which some functions have been taken: the slots of these are empty, in the next generation. -/
structure Prunes (r r' : Registry) : Prop where
  limit : r'.limit = r.limit
  size : r'.slots.size = r.slots.size
  cursor : r'.cursor = r.cursor
  slots : ∀ i : Nat, r'.slots[i]? = r.slots[i]? ∨
    ∃ s, r.slots[i]? = some s ∧ s.entry.isSome = true ∧ r'.slots[i]? = some ⟨s.generation + 1, none⟩

namespace Prunes

variable {r' r'' : Registry}

theorem refl (r : Registry) : r.Prunes r := ⟨rfl, rfl, rfl, fun _ => .inl rfl⟩

theorem trans (h : r.Prunes r') (h' : r'.Prunes r'') : r.Prunes r'' where
  limit := h'.limit.trans h.limit
  size := h'.size.trans h.size
  cursor := h'.cursor.trans h.cursor
  slots i := by
    rcases h'.slots i with hsame | ⟨s, hs, hentry, hnext⟩
    · rcases h.slots i with hsame' | ⟨s, hs, hentry, hnext⟩
      · exact .inl (hsame.trans hsame')
      · exact .inr ⟨s, hs, hentry, hsame.trans hnext⟩
    · rcases h.slots i with hsame' | ⟨t, ht, hentry', hnext'⟩
      · exact .inr ⟨s, hsame' ▸ hs, hentry, hnext⟩
      · -- what has been taken out cannot be taken out again
        rw [hs] at hnext'
        cases hnext'
        cases hentry

theorem remove (r : Registry) (h : Handle) : r.Prunes (r.remove h).2 := by
  unfold Registry.remove
  cases hf : r.get? h with
  | none => exact refl r
  | some f =>
    refine ⟨rfl, Array.size_modify, rfl, fun i => ?_⟩
    simp only [Array.getElem?_modify]
    by_cases hi : h.index = i
    · subst hi
      simp only [get?] at hf
      cases hs : r.slots[h.index]? with
      | none => simp [hs] at hf
      | some s =>
        simp only [hs] at hf
        split at hf
        · exact .inr ⟨s, rfl, by rw [hf]; rfl, by simp⟩
        · cases hf
    · exact .inl (if_neg hi)

theorem removeAll (r : Registry) (hs : List Handle) : r.Prunes (r.removeAll hs) := by
  unfold Registry.removeAll
  induction hs generalizing r with
  | nil => exact refl r
  | cons h hs ih => exact (remove r h).trans (ih _)

end Prunes

theorem Prunes.get? {r' : Registry} (hprunes : r.Prunes r') {h : Handle} {f : HostFn} (hf : r'.get? h = some f) :
    r.get? h = some f := by
  simp only [Registry.get?] at hf ⊢
  rcases hprunes.slots h.index with hsame | ⟨s, hs, -, hnext⟩
  · rwa [← hsame]
  · simp [hnext] at hf

theorem Prunes.get?_eq_none {r' : Registry} (hprunes : r.Prunes r') {h : Handle} (hnone : r.get? h = none) :
    r'.get? h = none := by
  by_contra hsome
  obtain ⟨f, hf⟩ := Option.ne_none_iff_exists'.mp hsome
  rw [hprunes.get? hf] at hnone
  cases hnone

theorem Sound.remove (h : r.Sound) (h' : Handle) : (r.remove h').2.Sound := by
  have hprunes := Prunes.remove r h'
  refine ⟨hprunes.limit ▸ h.limit_pos, ?_, ?_, ?_⟩
  · rw [hprunes.limit, hprunes.size]
    exact h.size_le
  · rw [hprunes.cursor, hprunes.size]
    exact h.cursor_le
  · unfold Registry.remove
    cases hf : r.get? h' with
    | none => exact h.live_eq
    | some f =>
      simp only [get?] at hf
      cases hs : r.slots[h'.index]? with
      | none => simp [hs] at hf
      | some s =>
        simp only [hs] at hf
        split at hf
        · have hsome : s.entry.isSome = true := by rw [hf]; rfl
          simp only [r.countP_modify _ _ _ hs, hsome, h.live_eq]
          simp
        · cases hf

theorem Sound.removeAll (h : r.Sound) (hs : List Handle) : (r.removeAll hs).Sound := by
  unfold Registry.removeAll
  induction hs generalizing r with
  | nil => exact h
  | cons g hs ih => exact ih (h.remove g)

theorem Sound.clear (h : r.Sound) : r.clear.2.Sound where
  limit_pos := h.limit_pos
  size_le := by simpa [Registry.clear] using h.size_le
  cursor_le := Nat.zero_le _
  live_eq := by
    have hnone : r.clear.2.slots.countP (fun s => s.entry.isSome) = 0 := by
      rw [Registry.clear, Array.countP_map, Array.countP_eq_zero]
      intro s _
      cases hs : s.entry <;> simp [hs]
    exact hnone.symm

theorem Sound.vacant (h : r.Sound) (hnone : ∀ g, r.get? g = none) : r.live = 0 ∧ r.entries = [] := by
  have hempty : ∀ s ∈ r.slots, s.entry = none := by
    intro s hs
    obtain ⟨i, hi, rfl⟩ := Array.mem_iff_getElem.mp hs
    exact (r.get?_eq_none ⟨i, r.slots[i].generation⟩).mp (hnone _) _ (Array.getElem?_eq_getElem hi) rfl
  constructor
  · rw [h.live_eq, Array.countP_eq_zero]
    intro s hs
    simp [hempty s hs]
  · rw [entries, List.filterMap_eq_nil_iff]
    exact fun s hs => hempty s (Array.mem_toList_iff.mp hs)

/-- A handle has been given out: it finds its function, or its slot is in a later generation. -/
def Issued (r : Registry) (h : Handle) : Prop :=
  ∃ s, r.slots[h.index]? = some s ∧
    (h.generation = s.generation ∧ s.entry.isSome = true ∨ h.generation < s.generation)

def Ascends (r r' : Registry) : Prop := ∀ i, r.generationAt i ≤ r'.generationAt i

@[simp] theorem generationAt_ofLimit (limit i : Nat) : (ofLimit limit).generationAt i = 0 := rfl

@[simp] theorem generationAt_occupy {index : Nat} (hindex : index ≤ r.slots.size) (f : HostFn) (i : Nat) :
    (r.occupy index f).generationAt i = r.generationAt i := by
  rw [generationAt, getElem?_occupy hindex]
  by_cases hi : i = index
  · simp [hi]
  · rw [if_neg hi]
    rfl

/-- As long as a slot has been emptied fewer than `2 ^ 32` times, its generation tells how often it has been. -/
theorem Prunes.ascends {r' : Registry} (hprunes : r.Prunes r')
    (hfew : ∀ i, (r.generationAt i).toNat + (if r'.generationAt i = r.generationAt i then 0 else 1) < 2 ^ 32) :
    r.Ascends r' ∧ ∀ i, (r'.generationAt i).toNat =
      (r.generationAt i).toNat + if r'.generationAt i = r.generationAt i then 0 else 1 := by
  have hcount (i : Nat) : (r'.generationAt i).toNat =
      (r.generationAt i).toNat + if r'.generationAt i = r.generationAt i then 0 else 1 := by
    have hfew := hfew i
    rcases hprunes.slots i with hsame | ⟨s, hs, -, hnext⟩
    · simp [generationAt, hsame]
    · simp only [generationAt, hs, hnext, Option.map_some, Option.getD_some] at hfew ⊢
      have hne : s.generation + 1 ≠ s.generation := fun heq => by simp at heq
      rw [if_neg hne] at hfew ⊢
      rw [UInt32.toNat_add]
      exact Nat.mod_eq_of_lt hfew
  refine ⟨fun i => ?_, hcount⟩
  rw [UInt32.le_iff_toNat_le, hcount]
  exact Nat.le_add_right _ _

theorem Issued.of_get? {h : Handle} {f : HostFn} (hf : r.get? h = some f) : r.Issued h := by
  simp only [get?] at hf
  cases hs : r.slots[h.index]? with
  | none => simp [hs] at hf
  | some s =>
    simp only [hs] at hf
    split at hf
    · next hg => exact ⟨s, hs, .inl ⟨hg.symm, by rw [hf]; rfl⟩⟩
    · cases hf

theorem Issued.prune {r' : Registry} {h : Handle} (hissued : r.Issued h) (hprunes : r.Prunes r')
    (hascends : r.Ascends r') : r'.Issued h := by
  obtain ⟨s, hs, hor⟩ := hissued
  rcases hprunes.slots h.index with hsame | ⟨t, ht, -, hnext⟩
  · exact ⟨s, hsame.trans hs, hor⟩
  · obtain rfl : s = t := Option.some.inj (hs.symm.trans ht)
    have hle := hascends h.index
    simp only [generationAt, hs, hnext, Option.map_some, Option.getD_some] at hle
    have hlt : s.generation < s.generation + 1 := by
      refine UInt32.lt_of_le_of_ne hle fun heq => ?_
      simp at heq
    refine ⟨_, hnext, .inr ?_⟩
    rcases hor with ⟨hg, -⟩ | hg
    · rwa [hg]
    · exact UInt32.lt_trans hg hlt

theorem Issued.occupy {h : Handle} (hissued : r.Issued h) {index : Nat} (hindex : index ≤ r.slots.size)
    (f : HostFn) : (r.occupy index f).Issued h := by
  obtain ⟨s, hs, hor⟩ := hissued
  by_cases hi : h.index = index
  · refine ⟨⟨r.generationAt index, some f⟩, by rw [getElem?_occupy hindex, if_pos hi], ?_⟩
    have hg : r.generationAt index = s.generation := by simp [generationAt, ← hi, hs]
    rw [hg]
    rcases hor with ⟨hsame, -⟩ | hlt
    · exact .inl ⟨hsame, rfl⟩
    · exact .inr hlt
  · exact ⟨s, by rw [getElem?_occupy hindex, if_neg hi, hs], hor⟩

theorem not_issued_of_isFree {index : Nat} (hfree : r.isFree index = true) :
    ¬ r.Issued ⟨index, r.generationAt index⟩ := by
  rintro ⟨s, hs, hor⟩
  have hs' : r.slots[index]? = some s := hs
  rcases hor with ⟨-, hentry⟩ | hlt
  · have hnone : s.entry.isNone = true := by simpa [isFree, hs'] using hfree
    rw [Option.isNone_iff_eq_none.mp hnone] at hentry
    cases hentry
  · simp [generationAt, hs'] at hlt

end Embedding.Registry
