import Embedding.Guest.Realm
import Embedding.Proofs.Heap

namespace Embedding.Guest

namespace Realm

namespace Member

def key : Member → Key
  | method k _ _ => k
  | accessor k _ _ => k
  | data k _ => k
  | synonym k _ => k

def Stands (objects : Array Object) : Member → Option Property → Prop
  | method k f n, p => ∃ g, Intrinsic.reserved ≤ g ∧ p = some (.method (.object g)) ∧
      objects[g]? = some (functionObject f (functionName k) n)
  | accessor k f _, p => ∃ g set, Intrinsic.reserved ≤ g ∧ p = some ⟨.accessor (.object g) set, false, true⟩ ∧
      objects[g]? = some (functionObject f ("get " ++ functionName k) 0)
  | data _ q, p => p = some q
  | synonym _ _, _ => True

theorem Stands.keep {objects objects' : Array Object} {member : Member} {p : Option Property}
    (h : member.Stands objects p) (hkeeps : Keeps (Intrinsic.reserved ≤ ·) objects objects') :
    member.Stands objects' p := by
  cases member with
  | method k f n =>
    obtain ⟨g, hg, hp, hx⟩ := h
    exact ⟨g, hg, hp, hkeeps g _ hg hx⟩
  | accessor k f set =>
    obtain ⟨g, s, hg, hp, hx⟩ := h
    exact ⟨g, s, hg, hp, hkeeps g _ hg hx⟩
  | data k q => exact h
  | synonym k other => exact h

def last? (members : List Member) (k : Key) : Option Member := members.reverse.find? fun m => m.key = k

theorem last?_cons (m : Member) (members : List Member) (k : Key) :
    last? (m :: members) k = (last? members k).or (if m.key = k then some m else none) := by
  rw [last?, List.reverse_cons, List.find?_append, last?]
  by_cases h : m.key = k <;> simp [h]

theorem exists_addMember (m : Member) (objects : Array Object) (o : Object) (hsize : Intrinsic.reserved ≤ objects.size) :
    ∃ (objects' : Array Object) (p? : Option Property),
      addMember (objects, o) m = (objects', p?.elim o (o.putProperty m.key)) ∧
      objects.size ≤ objects'.size ∧ Keeps (fun _ => True) objects objects' ∧
      m.Stands objects' ((p?.elim o (o.putProperty m.key)).property? m.key) := by
  cases m with
  | method k f n =>
    refine ⟨_, some _, rfl, by simp, .push _, objects.size, hsize, ?_, by simp⟩
    simp [Object.property?_putProperty, key]
  | accessor k f set =>
    cases set with
    | none =>
      refine ⟨_, some _, rfl, by simp, .push _, objects.size, .undefined, hsize, ?_, by simp⟩
      simp [Object.property?_putProperty, key]
    | some g =>
      refine ⟨_, some _, rfl, by simp; omega, .trans (.push _) (.push _), objects.size, .object (objects.size + 1),
        hsize, ?_, ?_⟩
      · simp [Object.property?_putProperty, key]
      · rw [Array.getElem?_push_lt (by simp), Array.getElem_push_eq]
  | data k q =>
    refine ⟨_, some q, rfl, Nat.le_refl _, .refl, ?_⟩
    simp [Stands, Object.property?_putProperty, key]
  | synonym k other =>
    refine ⟨objects, o.property? other, ?_, Nat.le_refl _, .refl, trivial⟩
    simp only [addMember]
    cases o.property? other <;> rfl

structure Laid (objects : Array Object) (members : List Member) (o x : Object) : Prop where
  proto : x.proto = o.proto
  payload : x.payload = o.payload
  distinct : o.Distinct → x.Distinct
  absent : ∀ k, last? members k = none → x.property? k = o.property? k
  stands : ∀ k m, last? members k = some m → m.Stands objects (x.property? k)

theorem Laid.keep {objects objects' : Array Object} {members : List Member} {o x : Object}
    (h : Laid objects members o x) (hkeeps : Keeps (Intrinsic.reserved ≤ ·) objects objects') :
    Laid objects' members o x :=
  ⟨h.proto, h.payload, h.distinct, h.absent, fun k m hm => (h.stands k m hm).keep hkeeps⟩

theorem Laid.cons {objects : Array Object} {m : Member} {members : List Member} {o o' x : Object}
    (h : Laid objects members o' x) (hproto : o'.proto = o.proto) (hpayload : o'.payload = o.payload)
    (hdistinct : o.Distinct → o'.Distinct) (hkept : ∀ k, m.key ≠ k → o'.property? k = o.property? k)
    (hstands : m.Stands objects (o'.property? m.key)) : Laid objects (m :: members) o x := by
  refine ⟨h.proto.trans hproto, h.payload.trans hpayload, fun ho => h.distinct (hdistinct ho), ?_, ?_⟩
  · intro k hk
    rw [last?_cons, Option.or_eq_none_iff] at hk
    have hne : m.key ≠ k := fun he => by simp [he] at hk
    rw [h.absent k hk.1, hkept k hne]
  · intro k m' hm
    rw [last?_cons] at hm
    cases hlast : last? members k with
    | some m'' =>
      rw [hlast] at hm
      cases hm
      exact h.stands k _ hlast
    | none =>
      rw [hlast, Option.none_or] at hm
      split at hm
      · next he =>
        cases hm
        subst he
        rw [h.absent _ hlast]
        exact hstands
      · cases hm

theorem foldl_addMember (members : List Member) (objects : Array Object) (o : Object)
    (hsize : Intrinsic.reserved ≤ objects.size) :
    objects.size ≤ (members.foldl addMember (objects, o)).1.size ∧
      Keeps (fun _ => True) objects (members.foldl addMember (objects, o)).1 ∧
      Laid (members.foldl addMember (objects, o)).1 members o (members.foldl addMember (objects, o)).2 := by
  induction members generalizing objects o with
  | nil =>
    refine ⟨Nat.le_refl _, .refl, rfl, rfl, id, fun _ _ => rfl, ?_⟩
    intro k m hm
    cases (show none = some m from hm)
  | cons m members ih =>
    obtain ⟨objects₁, p?, hstep, hsize₁, hkeeps₁, hstands₁⟩ := exists_addMember m objects o hsize
    have hreserved : Intrinsic.reserved ≤ objects₁.size := Nat.le_trans hsize hsize₁
    obtain ⟨hsize₂, hkeeps₂, hlaid⟩ := ih objects₁ (p?.elim o (o.putProperty m.key)) hreserved
    rw [List.foldl_cons, hstep]
    refine ⟨Nat.le_trans hsize₁ hsize₂, hkeeps₁.trans hkeeps₂, hlaid.cons ?_ ?_ ?_ ?_ ?_⟩
    · cases p? <;> simp
    · cases p? <;> simp
    · cases p? with
      | none => exact id
      | some p => exact fun ho => ho.putProperty m.key p
    · intro k hk
      cases p? with
      | none => rfl
      | some p => rw [Option.elim_some, Object.property?_putProperty, if_neg (Ne.symm hk)]
    · exact hstands₁.keep (hkeeps₂.imp fun _ _ => trivial)

end Member

open Member

section AddSite

variable (s : Site) {objects : Array Object} (hsize : Intrinsic.reserved ≤ objects.size)
include hsize

theorem size_addSite : objects.size ≤ (addSite objects s).size := by
  have hgrown := (foldl_addMember s.members objects { proto := s.proto, payload := s.payload } hsize).1
  simpa [addSite] using hgrown

theorem keeps_addSite : Keeps (· ≠ s.place) objects (addSite objects s) := by
  obtain ⟨-, hkeeps, -⟩ := foldl_addMember s.members objects { proto := s.proto, payload := s.payload } hsize
  exact (hkeeps.imp fun _ _ => trivial).trans (.setIfInBounds fun h => h rfl)

theorem getElem?_addSite (hplace : s.place < Intrinsic.reserved) : ∃ x, (addSite objects s)[s.place]? = some x ∧
    Laid (addSite objects s) s.members { proto := s.proto, payload := s.payload } x := by
  obtain ⟨hgrown, -, hlaid⟩ := foldl_addMember s.members objects { proto := s.proto, payload := s.payload } hsize
  have hbound := Nat.lt_of_lt_of_le hplace (Nat.le_trans hsize hgrown)
  exact ⟨_, Array.getElem?_setIfInBounds_self_of_lt hbound,
    hlaid.keep (.setIfInBounds (Nat.not_le_of_lt hplace))⟩

end AddSite

theorem foldl_addSite (sites : List Site) (objects : Array Object) (hsize : Intrinsic.reserved ≤ objects.size)
    (hplaces : ∀ s ∈ sites, s.place < Intrinsic.reserved) (hnodup : (sites.map (·.place)).Nodup) :
    Keeps (· ∉ sites.map (·.place)) objects (sites.foldl addSite objects) ∧
      ∀ s ∈ sites, ∃ x, (sites.foldl addSite objects)[s.place]? = some x ∧
        Laid (sites.foldl addSite objects) s.members { proto := s.proto, payload := s.payload } x := by
  induction sites generalizing objects with
  | nil => exact ⟨.refl, fun s hs => absurd hs List.not_mem_nil⟩
  | cons s sites ih =>
    rw [List.map_cons, List.nodup_cons] at hnodup
    have hplace := hplaces s List.mem_cons_self
    have hplaces' := fun s' hs' => hplaces s' (List.mem_cons_of_mem s hs')
    obtain ⟨hkeeps, hlaid⟩ := ih (addSite objects s) (Nat.le_trans hsize (size_addSite s hsize)) hplaces' hnodup.2
    rw [List.foldl_cons]
    constructor
    · apply Keeps.trans ((keeps_addSite s hsize).imp _) (hkeeps.imp _)
      · rintro i hi rfl
        exact hi List.mem_cons_self
      · intro i hi hmem
        exact hi (List.mem_cons_of_mem _ hmem)
    · intro s' hs'
      rcases List.mem_cons.mp hs' with rfl | hs'
      · obtain ⟨x, hx, hx'⟩ := getElem?_addSite s' hsize hplace
        refine ⟨x, hkeeps _ x hnodup.1 hx, hx'.keep (hkeeps.imp ?_)⟩
        intro i hi hmem
        obtain ⟨s'', hs'', rfl⟩ := List.mem_map.mp hmem
        exact Nat.not_le_of_lt (hplaces' s'' hs'') hi
      · exact hlaid s' hs'

theorem layOut_laid {sites : List Site} (hplaces : ∀ s ∈ sites, s.place < Intrinsic.reserved)
    (hnodup : (sites.map (·.place)).Nodup) {s : Site} (hs : s ∈ sites) :
    ∃ x, (layOut sites).objects[s.place]? = some x ∧
      Laid (layOut sites).objects s.members { proto := s.proto, payload := s.payload } x := by
  have hsize : Intrinsic.reserved ≤ (Array.replicate Intrinsic.reserved ({ proto := none } : Object)).size :=
    Nat.le_of_eq Array.size_replicate.symm
  exact (foldl_addSite sites _ hsize hplaces hnodup).2 s hs

theorem nodup_places : (sites.map (·.place)).Nodup := by decide +kernel

theorem places_reserved : ∀ s ∈ sites, s.place < Intrinsic.reserved := by decide +kernel

def siteAt? (o : ObjectId) : Option Site := sites.find? fun s => s.place = o

/-- The object that a new realm has at a place. -/
def builtin (o : ObjectId) : Object := initial.objects.getD o default

theorem builtin_of_getElem? {o : ObjectId} {x : Object} (h : initial.objects[o]? = some x) : builtin o = x := by
  unfold builtin
  generalize initial.objects = objects at h ⊢
  rw [Array.getD_eq_getD_getElem?, h, Option.getD_some]

attribute [irreducible] builtin

theorem builtin_laid {o : ObjectId} {s : Site} (h : siteAt? o = some s) : initial.objects[o]? = some (builtin o) ∧
    Laid initial.objects s.members { proto := s.proto, payload := s.payload } (builtin o) := by
  unfold siteAt? at h
  have hplace : s.place = o := by simpa using List.find?_some h
  obtain ⟨x, hx, hlaid⟩ := layOut_laid places_reserved nodup_places (List.mem_of_find?_eq_some h)
  have hobject : initial.objects[o]? = some x := by
    rw [← hplace]
    exact hx
  rw [builtin_of_getElem? hobject]
  exact ⟨hobject, hlaid⟩

def member? (o : ObjectId) (k : Key) : Option Member := (siteAt? o).bind fun s => last? s.members k

section Builtin

variable {o : ObjectId}

theorem getElem?_initial (h : (siteAt? o).isSome = true) : initial.objects[o]? = some (builtin o) := by
  obtain ⟨s, hs⟩ := Option.isSome_iff_exists.mp h
  exact (builtin_laid hs).1

theorem proto_builtin {proto : Option ObjectId} (h : (siteAt? o).map (·.proto) = some proto) :
    (builtin o).proto = proto := by
  obtain ⟨s, hs, rfl⟩ := Option.map_eq_some_iff.mp h
  exact (builtin_laid hs).2.proto

theorem payload_builtin {payload : Payload} (h : (siteAt? o).map (·.payload) = some payload) :
    (builtin o).payload = payload := by
  obtain ⟨s, hs, rfl⟩ := Option.map_eq_some_iff.mp h
  exact (builtin_laid hs).2.payload

theorem distinct_builtin (h : (siteAt? o).isSome = true) : (builtin o).Distinct := by
  obtain ⟨s, hs⟩ := Option.isSome_iff_exists.mp h
  exact (builtin_laid hs).2.distinct List.nodup_nil

variable {k : Key}

theorem property?_builtin_of_absent (h : (siteAt? o).isSome = true) (hk : member? o k = none) :
    (builtin o).property? k = none := by
  obtain ⟨s, hs⟩ := Option.isSome_iff_exists.mp h
  rw [member?, hs, Option.bind_some] at hk
  exact (builtin_laid hs).2.absent k hk

theorem stands_builtin {m : Member} (hk : member? o k = some m) : m.Stands initial.objects ((builtin o).property? k) := by
  obtain ⟨s, hs, hm⟩ := Option.bind_eq_some_iff.mp hk
  exact (builtin_laid hs).2.stands k m hm

theorem property?_builtin_of_index
    (h : (siteAt? o).map (fun s => s.members.all fun m => m.key.index?.isNone) = some true)
    (hk : k.index?.isSome = true) : (builtin o).property? k = none := by
  obtain ⟨s, hs, hall⟩ := Option.map_eq_some_iff.mp h
  apply property?_builtin_of_absent (by rw [hs]; rfl)
  rw [member?, hs, Option.bind_some, last?, List.find?_eq_none]
  intro m hm he
  have hnone := List.all_eq_true.mp hall m (List.mem_reverse.mp hm)
  rw [of_decide_eq_true he] at hnone
  cases hindex : k.index? <;> simp [hindex] at hk hnone

end Builtin

end Realm

end Embedding.Guest
