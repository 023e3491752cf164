import Embedding.Proofs.Realm

namespace Embedding.Guest.Realm

def Member.Fits (suits : Property → Prop) (fits : Builtin → Prop) : Member → Prop
  | method _ f _ => fits f
  | accessor _ g set => fits g ∧ ∀ f ∈ set, fits f
  | data _ p => suits p
  | synonym _ _ => True

instance (suits : Property → Prop) (fits : Builtin → Prop) [DecidablePred suits] [DecidablePred fits] (m : Member) :
    Decidable (m.Fits suits fits) :=
  match m with
  | .method _ f _ => inferInstanceAs (Decidable (fits f))
  | .accessor _ g set => inferInstanceAs (Decidable (fits g ∧ ∀ f ∈ set, fits f))
  | .data _ p => inferInstanceAs (Decidable (suits p))
  | .synonym _ _ => inferInstanceAs (Decidable True)

/-- Something that holds of an object among so many others, and goes on to hold as properties are put that suit it. -/
structure Layout (P : Nat → Object → Prop) (suits : Nat → Property → Prop) (fits : Builtin → Prop) : Prop where
  mono : ∀ {n n' : Nat} {x : Object}, n ≤ n' → P n x → P n' x
  suits_mono : ∀ {n n' : Nat} {p : Property}, n ≤ n' → suits n p → suits n' p
  empty : ∀ n, P n { proto := none }
  function : ∀ {n : Nat} {f : Builtin} (name : String) (length : Nat), fits f → Intrinsic.reserved ≤ n →
    P n (functionObject f name length)
  put : ∀ {n : Nat} {x : Object} {p : Property} (k : Key), P n x → suits n p → P n (x.putProperty k p)
  suits_method : ∀ {n o : Nat}, o < n → suits n (.method (.object o))
  suits_getter : ∀ {n o : Nat}, o < n → suits n ⟨.accessor (.object o) .undefined, false, true⟩
  suits_accessor : ∀ {n o o' : Nat}, o < n → o' < n → suits n ⟨.accessor (.object o) (.object o'), false, true⟩
  suits_property : ∀ {n : Nat} {x : Object} {k : Key} {p : Property}, P n x → x.property? k = some p → suits n p

namespace Layout

variable {P : Nat → Object → Prop} {suits : Nat → Property → Prop} {fits : Builtin → Prop} (h : Layout P suits fits)
include h

theorem push {objects : Array Object} {x : Object} (hobjects : ∀ y ∈ objects, P objects.size y)
    (hx : P (objects.size + 1) x) : ∀ y ∈ objects.push x, P (objects.push x).size y := by
  intro y hy
  rw [Array.size_push]
  rcases Array.mem_push.mp hy with hy | rfl
  · exact h.mono (Nat.le_succ _) (hobjects y hy)
  · exact hx

theorem addMember {objects : Array Object} {x : Object} {m : Member} (hsize : Intrinsic.reserved ≤ objects.size)
    (hobjects : ∀ y ∈ objects, P objects.size y) (hx : P objects.size x)
    (hm : m.Fits (suits Intrinsic.reserved) fits) :
    objects.size ≤ (addMember (objects, x) m).1.size ∧
      (∀ y ∈ (Realm.addMember (objects, x) m).1, P (Realm.addMember (objects, x) m).1.size y) ∧
      P (Realm.addMember (objects, x) m).1.size (Realm.addMember (objects, x) m).2 := by
  have hnext : Intrinsic.reserved ≤ objects.size + 1 := Nat.le_succ_of_le hsize
  have hx' : P (objects.size + 1) x := h.mono (Nat.le_succ _) hx
  cases m with
  | method k f n =>
    refine ⟨by simp [Realm.addMember], h.push hobjects (h.function _ _ hm hnext), ?_⟩
    simp only [Realm.addMember, Array.size_push]
    exact h.put k hx' (h.suits_method (Nat.lt_succ_self _))
  | accessor k g set =>
    have hfirst := h.push hobjects (h.function ("get " ++ functionName k) 0 hm.1 hnext)
    cases set with
    | none =>
      refine ⟨by simp [Realm.addMember], hfirst, ?_⟩
      simp only [Realm.addMember, Array.size_push]
      exact h.put k hx' (h.suits_getter (Nat.lt_succ_self _))
    | some f =>
      refine ⟨by simp [Realm.addMember]; omega, h.push hfirst (h.function _ _ (hm.2 f rfl) (by simp; omega)), ?_⟩
      simp only [Realm.addMember, Array.size_push]
      exact h.put k (h.mono (Nat.le_succ _) hx') (h.suits_accessor (by omega) (by omega))
  | data k p => exact ⟨Nat.le_refl _, hobjects, h.put k hx (h.suits_mono hsize hm)⟩
  | synonym k other =>
    simp only [Realm.addMember]
    cases hp : x.property? other with
    | none => exact ⟨Nat.le_refl _, hobjects, hx⟩
    | some p => exact ⟨Nat.le_refl _, hobjects, h.put k hx (h.suits_property hx hp)⟩

theorem addMembers {members : List Member} {objects : Array Object} {x : Object}
    (hsize : Intrinsic.reserved ≤ objects.size) (hobjects : ∀ y ∈ objects, P objects.size y) (hx : P objects.size x)
    (hmembers : ∀ m ∈ members, m.Fits (suits Intrinsic.reserved) fits) :
    let s := members.foldl Realm.addMember (objects, x)
    objects.size ≤ s.1.size ∧ (∀ y ∈ s.1, P s.1.size y) ∧ P s.1.size s.2 := by
  induction members generalizing objects x with
  | nil => exact ⟨Nat.le_refl _, hobjects, hx⟩
  | cons m members ih =>
    obtain ⟨hgrown, hobjects', hx'⟩ := h.addMember hsize hobjects hx (hmembers m List.mem_cons_self)
    obtain ⟨hgrown', hrest⟩ := ih (Nat.le_trans hsize hgrown) hobjects' hx'
      fun m' hm' => hmembers m' (List.mem_cons_of_mem _ hm')
    exact ⟨Nat.le_trans hgrown hgrown', hrest⟩

theorem addSite {s : Site} {objects : Array Object} (hsize : Intrinsic.reserved ≤ objects.size)
    (hobjects : ∀ y ∈ objects, P objects.size y) (hsite : P Intrinsic.reserved { proto := s.proto, payload := s.payload })
    (hmembers : ∀ m ∈ s.members, m.Fits (suits Intrinsic.reserved) fits) :
    objects.size ≤ (addSite objects s).size ∧ ∀ y ∈ Realm.addSite objects s, P (Realm.addSite objects s).size y := by
  obtain ⟨hgrown, hall, hx⟩ := h.addMembers hsize hobjects (h.mono hsize hsite) hmembers
  simp only [Realm.addSite, Array.size_setIfInBounds]
  refine ⟨hgrown, fun y hy => ?_⟩
  rcases Array.mem_or_eq_of_mem_setIfInBounds hy with hy | rfl
  · exact hall y hy
  · exact hx

theorem layOut {sites : List Site}
    (hsites : ∀ s ∈ sites, P Intrinsic.reserved { proto := s.proto, payload := s.payload })
    (hmembers : ∀ s ∈ sites, ∀ m ∈ s.members, m.Fits (suits Intrinsic.reserved) fits) :
    ∀ y ∈ (layOut sites).objects, P (Realm.layOut sites).objects.size y := by
  have hfold (sites : List Site) (objects : Array Object) (hsize : Intrinsic.reserved ≤ objects.size)
      (hobjects : ∀ y ∈ objects, P objects.size y)
      (hsites : ∀ s ∈ sites, P Intrinsic.reserved { proto := s.proto, payload := s.payload })
      (hmembers : ∀ s ∈ sites, ∀ m ∈ s.members, m.Fits (suits Intrinsic.reserved) fits) :
      ∀ y ∈ sites.foldl Realm.addSite objects, P (sites.foldl Realm.addSite objects).size y := by
    induction sites generalizing objects with
    | nil => exact hobjects
    | cons s sites ih =>
      obtain ⟨hgrown, hnext⟩ := h.addSite hsize hobjects (hsites s List.mem_cons_self) (hmembers s List.mem_cons_self)
      exact ih _ (Nat.le_trans hsize hgrown) hnext (fun s hs => hsites s (List.mem_cons_of_mem _ hs))
        fun s hs => hmembers s (List.mem_cons_of_mem _ hs)
  apply hfold _ _ _ _ hsites hmembers
  · exact Nat.le_of_eq Array.size_replicate.symm
  · intro y hy
    rw [(Array.mem_replicate.mp hy).2]
    exact h.empty _

end Layout

theorem layout_handle? : Layout (fun _ x => x.handle? = none) (fun _ _ => True) fun _ => True where
  mono _ h := h
  suits_mono _ h := h
  empty _ := rfl
  function _ _ _ _ := rfl
  put k h _ := by simpa [Object.handle?] using h
  suits_method _ := trivial
  suits_getter _ := trivial
  suits_accessor _ _ := trivial
  suits_property _ _ := trivial

theorem handle?_sites : ∀ s ∈ sites, ({ proto := s.proto, payload := s.payload } : Object).handle? = none := by
  decide +kernel

theorem handleAt?_initial : initial.handleAt? = fun _ => none := by
  have hall : ∀ x ∈ initial.objects, x.handle? = none :=
    layout_handle?.layOut handle?_sites fun s _ m _ => by cases m <;> simp [Member.Fits]
  funext o
  rw [Machine.handleAt?]
  generalize initial.objects = objects at hall
  cases hx : objects[o]? with
  | none => rfl
  | some x => exact hall x (Array.mem_of_getElem? hx)

end Embedding.Guest.Realm
