import Embedding.Proofs.Freed
import Embedding.Proofs.Heap
import Embedding.Proofs.Layout

namespace Embedding.Guest

def Target.Within (n : Nat) : Target → Prop
  | object o => o < n
  | cell _ => False

instance (n : Nat) (t : Target) : Decidable (t.Within n) :=
  match t with
  | .object o => inferInstanceAs (Decidable (o < n))
  | .cell _ => inferInstanceAs (Decidable False)

theorem Target.Within.mono {n n' : Nat} {t : Target} (hle : n ≤ n') (h : t.Within n) : t.Within n' := by
  cases t with
  | object o => exact Nat.lt_of_lt_of_le h hle
  | cell c => exact h

theorem Target.mem_ofObject {x : Object} {t : Target} : t ∈ ofObject x ↔
    (∃ p ∈ x.properties, t ∈ ofSlot p.2.slot) ∨ (∃ o, x.proto = some o ∧ t = .object o) ∨ t ∈ ofPayload x.payload := by
  simp [ofObject, eq_comm]

/-- What an object refers to after a property has been put, it has referred to before, or the property does. -/
theorem Target.mem_ofObject_putProperty {x : Object} {k : Key} {p : Property} {t : Target}
    (h : t ∈ ofObject (x.putProperty k p)) : t ∈ ofObject x ∨ t ∈ ofSlot p.slot := by
  rw [mem_ofObject, Object.proto_putProperty, Object.payload_putProperty] at h
  rcases h with ⟨q, hq, ht⟩ | hrest
  · have hor : q ∈ x.properties ∨ q = (k, p) := by
      unfold Object.putProperty at hq
      split at hq
      · obtain ⟨i, hi, rfl⟩ := Array.mem_iff_getElem.mp hq
        rw [Array.getElem_modify]
        split
        · exact .inr rfl
        · exact .inl (Array.getElem_mem _)
      · exact Array.mem_push.mp hq
    rcases hor with hq | rfl
    · exact .inl (mem_ofObject.mpr (.inl ⟨q, hq, ht⟩))
    · exact .inr ht
  · exact .inl (mem_ofObject.mpr (.inr hrest))

namespace Realm

theorem layout_within : Layout (fun n x => ∀ t ∈ Target.ofObject x, t.Within n)
    (fun n p => ∀ t ∈ Target.ofSlot p.slot, t.Within n) (fun f => Target.ofPayload (.builtin f) = []) where
  mono hle h t ht := (h t ht).mono hle
  suits_mono hle h t ht := (h t ht).mono hle
  empty _ := nofun
  function {n f} name length hf hreserved t ht := by
    rcases Target.mem_ofObject.mp ht with ⟨p, hp, ht⟩ | ⟨o, ho, rfl⟩ | ht
    · have hp : p.2 = .fixed (.ofNat length) ∨ p.2 = .fixed (.ofString name) := by
        rcases List.mem_pair.mp (Array.mem_toList_iff.mpr hp) with rfl | rfl
        · exact .inl rfl
        · exact .inr rfl
      rcases hp with hp | hp <;> rw [hp] at ht <;> cases ht
    · cases ho
      exact Nat.lt_of_lt_of_le (by decide : Intrinsic.functionPrototype < Intrinsic.reserved) hreserved
    · rw [functionObject, hf] at ht
      cases ht
  put k h hp t ht := (Target.mem_ofObject_putProperty ht).elim (h t) (hp t)
  suits_method ho t ht := by
    obtain rfl := List.mem_singleton.mp ht
    exact ho
  suits_getter ho t ht := by
    obtain rfl := List.mem_singleton.mp ht
    exact ho
  suits_accessor ho ho' t ht := by
    rcases List.mem_pair.mp ht with rfl | rfl
    · exact ho
    · exact ho'
  suits_property {n x k p} h hk t ht := by
    rw [Object.property?] at hk
    split at hk
    · next q p' hfind =>
      cases hk
      exact h t (Target.mem_ofObject.mpr (.inl ⟨_, Array.mem_of_find?_eq_some hfind, ht⟩))
    · cases hk

theorem within_sites : (∀ s ∈ sites, ∀ t ∈ Target.ofObject { proto := s.proto, payload := s.payload },
      t.Within Intrinsic.reserved) ∧
    ∀ s ∈ sites, ∀ m ∈ s.members, m.Fits (fun p => ∀ t ∈ Target.ofSlot p.slot, t.Within Intrinsic.reserved)
      (fun f => Target.ofPayload (.builtin f) = []) := by
  decide +kernel

theorem within_initial : ∀ x ∈ initial.objects, ∀ t ∈ Target.ofObject x, t.Within initial.objects.size :=
  layout_within.layOut within_sites.1 within_sites.2

theorem realmSize_layOut (sites : List Site) : (layOut sites).realmSize = (layOut sites).objects.size := rfl

theorem realmSize_initial : initial.realmSize = initial.objects.size := realmSize_layOut sites

theorem functionPrototype_lt_initial : Intrinsic.functionPrototype < initial.objects.size :=
  (Array.getElem?_eq_some_iff.mp (getElem?_initial (o := Intrinsic.functionPrototype) (by decide +kernel))).1

theorem freed_function {m : Machine} {h : Handle} {held : List Value}
    (hobjects : m.objects = initial.objects.push (Machine.functionOf h)) (hcells : m.cells = #[])
    (hroot : initial.objects.size ∉ m.rootPlaces held) : m.Freed held initial.objects.size := by
  refine .intro hroot fun j hj hsuccessor => ?_
  obtain ⟨t, ht, hplace⟩ := List.mem_map.mp hsuccessor
  have hsize : m.objects.size = initial.objects.size + 1 := by rw [hobjects, Array.size_push]
  have hlt : j < m.objects.size := by simpa [Machine.placeCount, hcells] using hj
  rw [Machine.targetsAt, if_pos hlt, hobjects, Array.getD_eq_getD_getElem?, Array.getElem?_push] at ht
  have hwithin : t.Within initial.objects.size := by
    split at ht
    · rcases Target.mem_ofObject.mp ht with ⟨p, hp, -⟩ | ⟨o, ho, rfl⟩ | ht
      · exact absurd hp (Array.not_mem_empty p)
      · cases ho
        exact functionPrototype_lt_initial
      · cases ht
    · rw [Array.getElem?_eq_getElem (by omega), Option.getD_some] at ht
      exact within_initial _ (Array.getElem_mem _) t ht
  cases t with
  | object o => exact absurd hplace (Nat.ne_of_lt hwithin)
  | cell c => exact hwithin.elim

end Realm

end Embedding.Guest
