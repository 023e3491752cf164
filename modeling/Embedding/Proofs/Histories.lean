import Embedding.Proofs.Slots
import Mathlib.Data.List.Nodup
import Mathlib.Data.List.Perm.Basic

namespace Embedding.Registry

inductive Request where
  | insert (f : HostFn)
  | get (h : Handle)
  | remove (h : Handle)
  | clear
deriving DecidableEq

namespace Request

/-- The registry afterwards. A request that fails leaves it as it is. -/
def apply (r : Registry) : Request → Registry
  | insert f =>
    match r.insert f with
    | .ok (_, r') => r'
    | .error _ => r
  | get _ => r
  | remove h => (r.remove h).2
  | clear => r.clear.2

/-- The functions that the registry takes in. -/
def takenIn (r : Registry) : Request → List HostFn
  | insert f =>
    match r.insert f with
    | .ok _ => [f]
    | .error _ => []
  | get _ | remove _ | clear => []

/-- The functions that the registry hands back. -/
def handedBack (r : Registry) : Request → List HostFn
  | remove h => (r.remove h).1.toList
  | clear => r.clear.1
  | insert _ | get _ => []

end Request

def after (r : Registry) (qs : List Request) : Registry := qs.foldl Request.apply r

/-- The functions that pass in a history, one request after another. -/
def passing (part : Registry → Request → List HostFn) : Registry → List Request → List HostFn
  | _, [] => []
  | r, q :: qs => part r q ++ passing part (q.apply r) qs

/-- The handles of the functions that are kept, by slot. -/
def handles (r : Registry) : List Handle :=
  (List.range r.slots.size).filterMap fun i => if r.isFree i then none else some ⟨i, r.generationAt i⟩

/-- The first free place upward from the cursor, around at the limit. All places passed on the way have slots. -/
def FirstFree (r : Registry) (i : Nat) : Prop :=
  ∃ k < r.limit, i = (r.cursor + k) % r.limit ∧ r.isFree i = true ∧ i ≤ r.slots.size ∧
    ∀ k' < k, r.isFree ((r.cursor + k') % r.limit) = false ∧ (r.cursor + k') % r.limit < r.slots.size

variable {r : Registry}

theorem lt_size_of_not_isFree {i : Nat} (h : r.isFree i = false) : i < r.slots.size := by
  by_contra hge
  rw [r.isFree_of_size_le (Nat.not_lt.mp hge)] at h
  cases h

theorem FirstFree.lt_limit {i : Nat} (h : r.FirstFree i) (hlimit : 0 < r.limit) : i < r.limit := by
  obtain ⟨k, -, rfl, -⟩ := h
  exact Nat.mod_lt _ hlimit

theorem FirstFree.isFree {i : Nat} (h : r.FirstFree i) : r.isFree i = true := by
  obtain ⟨k, -, -, hfree, -⟩ := h
  exact hfree

theorem FirstFree.le_size {i : Nat} (h : r.FirstFree i) : i ≤ r.slots.size := by
  obtain ⟨k, -, -, -, hle, -⟩ := h
  exact hle

theorem Sound.insert_firstFree (h : r.Sound) (f : HostFn) (hlive : r.live < r.limit) :
    ∃ i, r.FirstFree i ∧ r.insert f = .ok (⟨i, r.generationAt i⟩, r.occupy i f) := by
  obtain ⟨i, hsize, -, hfree, hfound⟩ := h.freeIndex? hlive
  obtain ⟨k, hk, hi, -, hbefore⟩ := freeIndex?_spec (Nat.mod_lt _ h.limit_pos) hfound
  refine ⟨i, ⟨k, by omega, by rw [hi, Nat.mod_add_mod], hfree, hsize, fun k' hk' => ?_⟩, ?_⟩
  · have hused := hbefore k' hk'
    rw [Nat.mod_add_mod] at hused
    exact ⟨hused, lt_size_of_not_isFree hused⟩
  · rw [Registry.insert, if_neg (Nat.not_le.mpr hlive), hfound]
    rfl

theorem get?_eq_some {h : Handle} {f : HostFn} :
    r.get? h = some f ↔ r.slots[h.index]? = some ⟨h.generation, some f⟩ := by
  unfold get?
  cases r.slots[h.index]? with
  | none => simp
  | some s =>
    obtain ⟨g, entry⟩ := s
    by_cases hg : g = h.generation <;> simp [hg]

theorem isFree_eq_false {i : Nat} : r.isFree i = false ↔ ∃ g f, r.slots[i]? = some ⟨g, some f⟩ := by
  unfold isFree
  cases r.slots[i]? with
  | none => simp
  | some s =>
    obtain ⟨g, entry⟩ := s
    cases entry <;> simp

theorem mem_entries {f : HostFn} : f ∈ r.entries ↔ ∃ h, r.get? h = some f := by
  simp only [entries, List.mem_filterMap, Array.mem_toList_iff, Array.mem_iff_getElem?]
  constructor
  · rintro ⟨⟨g, entry⟩, ⟨i, hi⟩, rfl⟩
    exact ⟨⟨i, g⟩, get?_eq_some.mpr hi⟩
  · rintro ⟨h, hf⟩
    exact ⟨_, ⟨h.index, get?_eq_some.mp hf⟩, rfl⟩

theorem nodup_handles (r : Registry) : r.handles.Nodup := by
  unfold handles
  apply List.Nodup.filterMap _ List.nodup_range
  intro i j h hi hj
  split at hi
  · cases hi
  · split at hj
    · cases hj
    · cases hi
      exact (congrArg Handle.index (Option.some.inj hj)).symm

theorem mem_handles {h : Handle} : h ∈ r.handles ↔ ∃ f, r.get? h = some f := by
  obtain ⟨i, g⟩ := h
  simp only [handles, List.mem_filterMap, List.mem_range, get?_eq_some]
  constructor
  · rintro ⟨j, -, hj⟩
    split at hj
    · cases hj
    · next hused =>
      cases hj
      obtain ⟨g', f, hslot⟩ := isFree_eq_false.mp (Bool.eq_false_iff.mpr hused)
      exact ⟨f, by rw [hslot, generationAt, hslot]; rfl⟩
  · rintro ⟨f, hslot⟩
    have hused : r.isFree i = false := isFree_eq_false.mpr ⟨g, f, hslot⟩
    refine ⟨i, lt_size_of_not_isFree hused, ?_⟩
    rw [hused, if_neg Bool.false_ne_true, generationAt, hslot]
    rfl

theorem Sound.live_eq_length (h : r.Sound) : r.live = r.entries.length := by
  rw [h.live_eq, entries, List.length_filterMap_eq_countP, ← Array.countP_toList]

theorem Sound.live_le (h : r.Sound) : r.live ≤ r.limit := by
  rw [h.live_eq]
  exact Nat.le_trans Array.countP_le_size h.size_le

def entriesBut (r : Registry) (i : Nat) : List HostFn := (r.slots.toList.eraseIdx i).filterMap (·.entry)

theorem perm_entries {i : Nat} {s : Slot} (hs : r.slots[i]? = some s) :
    r.entries.Perm (s.entry.toList ++ r.entriesBut i) := by
  obtain ⟨hi, rfl⟩ := Array.getElem?_eq_some_iff.mp hs
  have hperm := (List.getElem_cons_eraseIdx_perm (l := r.slots.toList) (n := i) (by simpa using hi)).symm
  apply (hperm.filterMap (·.entry)).trans
  rw [List.filterMap_cons, Array.getElem_toList, entriesBut]
  cases r.slots[i].entry <;> exact .refl _

theorem perm_entries_of_modify {r' : Registry} {i : Nat} {f : Slot → Slot} {s : Slot}
    (hr' : r'.slots = r.slots.modify i f) (hs : r.slots[i]? = some s) :
    r'.entries.Perm ((f s).entry.toList ++ r.entriesBut i) := by
  have hslot : r'.slots[i]? = some (f s) := by rw [hr', Array.getElem?_modify, if_pos rfl, hs, Option.map_some]
  have hbut : r'.entriesBut i = r.entriesBut i := by
    rw [entriesBut, entriesBut, hr', Array.toList_modify, List.eraseIdx_modify_of_eq]
  exact hbut ▸ perm_entries hslot

theorem perm_entries_occupy {i : Nat} (hi : i ≤ r.slots.size) (hfree : r.isFree i = true) (f : HostFn) :
    (r.occupy i f).entries.Perm (f :: r.entries) := by
  rcases Nat.lt_or_ge i r.slots.size with hlt | hge
  · have hs := Array.getElem?_eq_getElem hlt
    have hempty : r.slots[i].entry = none := by simpa [Registry.isFree, hs] using hfree
    apply (perm_entries_of_modify (by rw [occupy, if_pos hlt]) hs).trans
    have hothers := (perm_entries hs).symm
    rw [hempty] at hothers
    exact hothers.cons f
  · obtain rfl : i = r.slots.size := Nat.le_antisymm hi hge
    -- the new slot is empty at first
    let grown : Registry := { r with slots := r.slots.push {} }
    have hgrown : grown.slots[r.slots.size]? = some {} := Array.getElem?_push_size
    have hsame : grown.entries = r.entries := by simp [grown, entries]
    apply (perm_entries_of_modify (r := grown) (by rw [occupy, if_neg (Nat.lt_irrefl _)]) hgrown).trans
    rw [← hsame]
    exact ((perm_entries hgrown).symm).cons f

theorem perm_entries_remove (r : Registry) (h : Handle) :
    r.entries.Perm ((r.remove h).2.entries ++ (r.remove h).1.toList) := by
  unfold remove
  cases hf : r.get? h with
  | none => simp
  | some f =>
    have hs := get?_eq_some.mp hf
    let vacated : Registry :=
      { r with slots := r.slots.modify h.index fun s => ⟨s.generation + 1, none⟩, live := r.live - 1 }
    have hvacated : vacated.slots = r.slots.modify h.index fun s => ⟨s.generation + 1, none⟩ := rfl
    have hrest := perm_entries_of_modify hvacated hs
    apply (perm_entries hs).trans
    apply List.perm_append_comm.trans
    exact hrest.symm.append_right [f]

theorem entries_clear (r : Registry) : r.clear.2.entries = [] := by
  rw [entries, List.filterMap_eq_nil_iff]
  intro s hs
  simp only [clear, Array.toList_map, List.mem_map] at hs
  obtain ⟨t, -, rfl⟩ := hs
  cases ht : t.entry <;> simp [ht]

theorem Sound.apply (h : r.Sound) (q : Request) : (q.apply r).Sound := by
  cases q with
  | insert f =>
    rw [Request.apply]
    rcases h.insert f with ⟨-, i, hsize, hlimit, hfree, hins⟩ | ⟨-, hins⟩
    · rw [hins]
      exact h.occupy hsize hlimit hfree f
    · rw [hins]
      exact h
  | get g => exact h
  | remove g => exact h.remove g
  | clear => exact h.clear

theorem limit_apply (r : Registry) (q : Request) : (q.apply r).limit = r.limit := by
  cases q with
  | insert f =>
    rw [Request.apply, Registry.insert]
    split
    · next hins =>
      split at hins
      · cases hins
      · split at hins
        · cases hins
          rfl
        · cases hins
    · rfl
  | get g => rfl
  | remove g => exact (Prunes.remove r g).limit
  | clear => rfl

theorem Sound.conserves (h : r.Sound) (q : Request) :
    (q.takenIn r ++ r.entries).Perm ((q.apply r).entries ++ q.handedBack r) := by
  cases q with
  | insert f =>
    rw [Request.takenIn, Request.apply, Request.handedBack, List.append_nil]
    rcases h.insert f with ⟨-, i, hsize, -, hfree, hins⟩ | ⟨-, hins⟩
    · rw [hins]
      exact (perm_entries_occupy hsize hfree f).symm
    · rw [hins]
      exact .refl _
  | get g => simp [Request.takenIn, Request.apply, Request.handedBack]
  | remove g => exact perm_entries_remove r g
  | clear =>
    rw [Request.apply, Request.handedBack, entries_clear]
    exact .refl _

theorem Sound.get?_apply (h : r.Sound) {q : Request} {g : Handle} {f : HostFn} (hf : r.get? g = some f)
    (hclear : q ≠ .clear) (hremove : q ≠ .remove g) : (q.apply r).get? g = some f := by
  cases q with
  | insert f' =>
    rw [Request.apply]
    rcases h.insert f' with ⟨-, i, hsize, -, hfree, hins⟩ | ⟨-, hins⟩
    · rw [hins]
      have hne : g ≠ ⟨i, r.generationAt i⟩ := by
        rintro rfl
        rw [isFree_eq_false.mpr ⟨_, f, get?_eq_some.mp hf⟩] at hfree
        cases hfree
      rwa [get?_occupy hsize hfree, if_neg hne]
    · rw [hins]
      exact hf
  | get g' => exact hf
  | remove g' =>
    rw [Request.apply, get?_remove_eq, if_neg (fun heq => hremove (congrArg _ heq.symm))]
    exact hf
  | clear => exact absurd rfl hclear

theorem Sound.after (h : r.Sound) (qs : List Request) : (r.after qs).Sound := by
  induction qs generalizing r with
  | nil => exact h
  | cons q qs ih => exact ih (h.apply q)

theorem limit_after (r : Registry) (qs : List Request) : (r.after qs).limit = r.limit := by
  induction qs generalizing r with
  | nil => rfl
  | cons q qs ih => exact (ih (q.apply r)).trans (limit_apply r q)

open scoped List in
theorem Sound.conserves_after (h : r.Sound) (qs : List Request) :
    (passing Request.takenIn r qs ++ r.entries).Perm ((r.after qs).entries ++ passing Request.handedBack r qs) := by
  induction qs generalizing r with
  | nil => simp [passing, Registry.after]
  | cons q qs ih =>
    calc q.takenIn r ++ passing Request.takenIn (q.apply r) qs ++ r.entries
      _ ~ passing Request.takenIn (q.apply r) qs ++ (q.takenIn r ++ r.entries) := by
        rw [← List.append_assoc]
        exact List.perm_append_comm.append_right _
      _ ~ passing Request.takenIn (q.apply r) qs ++ ((q.apply r).entries ++ q.handedBack r) :=
        (h.conserves q).append_left _
      _ ~ (r.after (q :: qs)).entries ++ passing Request.handedBack (q.apply r) qs ++ q.handedBack r := by
        rw [← List.append_assoc]
        exact (ih (h.apply q)).append_right _
      _ ~ (r.after (q :: qs)).entries ++ (q.handedBack r ++ passing Request.handedBack (q.apply r) qs) := by
        rw [List.append_assoc]
        exact List.perm_append_comm.append_left _

/-- A registry after some requests, and what becomes of the next one. -/
structure InOrder (limit : Nat) (qs : List Request) (r : Registry) : Prop where
  limit_eq : r.limit = max limit 1
  size_le : r.slots.size ≤ r.limit
  cursor_le : r.cursor ≤ r.slots.size
  live_eq : r.live = r.entries.length
  live_le : r.live ≤ r.limit
  /-- A function is kept as long as fewer are kept than there may be, in the first free place. -/
  insert_ok : ∀ f, r.live < r.limit → ∃ i, r.FirstFree i ∧ (limit ≤ 2 ^ 32 → i < 2 ^ 32) ∧
    r.insert f = .ok (⟨i, r.generationAt i⟩, r.occupy i f) ∧
    r.get? ⟨i, r.generationAt i⟩ = none ∧ (r.occupy i f).get? ⟨i, r.generationAt i⟩ = some f
  /-- The search comes to its end without a free place only where it is not begun. -/
  insert_full : ∀ f, r.limit ≤ r.live → r.insert f = .error (.registryFull r.limit) ∧ (Request.insert f).apply r = r
  remove_counted : ∀ h f, (r.remove h).1 = some f → 0 < r.live
  handles_nodup : r.handles.Nodup
  mem_handles : ∀ h, h ∈ r.handles ↔ ∃ f, r.get? h = some f
  mem_entries : ∀ f, f ∈ r.entries ↔ ∃ h, r.get? h = some f
  others : ∀ (q : Request) h f, r.get? h = some f → q ≠ .clear → q ≠ .remove h → (q.apply r).get? h = some f
  /-- Each function that has been taken in, as often as it has been, is kept or has been handed back once. -/
  conserved : (passing Request.takenIn (ofLimit limit) qs).Perm
    (r.entries ++ passing Request.handedBack (ofLimit limit) qs)

/-- Whatever has been requested of a registry, it is in order. -/
theorem inOrder_after (limit : Nat) (qs : List Request) : InOrder limit qs ((ofLimit limit).after qs) := by
  have hsound := (sound_ofLimit limit).after qs
  have hlimit : ((ofLimit limit).after qs).limit = max limit 1 := limit_after _ _
  exact {
    limit_eq := hlimit
    size_le := hsound.size_le
    cursor_le := hsound.cursor_le
    live_eq := hsound.live_eq_length
    live_le := hsound.live_le
    insert_ok := fun f hlive => by
      obtain ⟨i, hfirst, hins⟩ := hsound.insert_firstFree f hlive
      have hfree := hfirst.isFree
      refine ⟨i, hfirst, fun hnarrow => ?_, hins, ?_, ?_⟩
      · have hlt := hfirst.lt_limit hsound.limit_pos
        omega
      · rw [get?_eq_none]
        intro s hs _
        simpa [Registry.isFree, hs] using hfree
      · rw [get?_occupy hfirst.le_size hfree, if_pos rfl]
    insert_full := fun f hlive => by
      have hins : ((ofLimit limit).after qs).insert f = .error (.registryFull ((ofLimit limit).after qs).limit) := by
        rw [Registry.insert, if_pos hlive]
      exact ⟨hins, by rw [Request.apply, hins]⟩
    remove_counted := fun h f hf => by
      have hperm := (perm_entries_remove ((ofLimit limit).after qs) h).length_eq
      rw [hf, ← hsound.live_eq_length, List.length_append, Option.toList_some, List.length_singleton] at hperm
      omega
    handles_nodup := nodup_handles _
    mem_handles := fun _ => mem_handles
    mem_entries := fun _ => mem_entries
    others := fun _ _ _ => hsound.get?_apply
    conserved := by
      have hconserves := (sound_ofLimit limit).conserves_after qs
      rwa [show (ofLimit limit).entries = [] from rfl, List.append_nil] at hconserves }

end Embedding.Registry
