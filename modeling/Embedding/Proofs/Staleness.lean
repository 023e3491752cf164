import Embedding.Proofs.Histories

namespace Embedding.Registry

def Request.vacates (r : Registry) (i : Nat) : Request → Bool
  | remove h => h.index = i && (r.get? h).isSome
  | clear => !r.isFree i
  | insert _ | get _ => false

/-- How often a slot is vacated in a history. -/
def vacations (i : Nat) : Registry → List Request → Nat
  | _, [] => 0
  | r, q :: qs => (if q.vacates r i then 1 else 0) + vacations i (q.apply r) qs

variable {r : Registry}

theorem isSome_get? {h : Handle} :
    (r.get? h).isSome = true ↔ r.isFree h.index = false ∧ r.generationAt h.index = h.generation := by
  rw [Option.isSome_iff_exists, isFree_eq_false]
  constructor
  · rintro ⟨f, hf⟩
    have hslot := get?_eq_some.mp hf
    exact ⟨⟨_, f, hslot⟩, by rw [generationAt, hslot]; rfl⟩
  · rintro ⟨⟨g, f, hslot⟩, hgeneration⟩
    rw [generationAt, hslot] at hgeneration
    obtain rfl : g = h.generation := hgeneration
    exact ⟨f, get?_eq_some.mpr hslot⟩

theorem remove_fst (r : Registry) (h : Handle) : (r.remove h).1 = r.get? h := by
  unfold remove
  cases r.get? h <;> rfl

theorem generationAt_remove (r : Registry) (h : Handle) (i : Nat) :
    (r.remove h).2.generationAt i = r.generationAt i + if (Request.remove h).vacates r i then 1 else 0 := by
  unfold remove
  cases hf : r.get? h with
  | none => simp [Request.vacates, hf]
  | some f =>
    have hslot := get?_eq_some.mp hf
    by_cases hi : h.index = i
    · subst hi
      simp [generationAt, Request.vacates, Array.getElem?_modify, hslot, hf]
    · simp [generationAt, Request.vacates, Array.getElem?_modify, hi]

theorem generationAt_clear (r : Registry) (i : Nat) :
    r.clear.2.generationAt i = r.generationAt i + if Request.clear.vacates r i then 1 else 0 := by
  cases hslot : r.slots[i]? with
  | none => simp [generationAt, clear, Request.vacates, isFree, hslot]
  | some s => cases hs : s.entry <;> simp [generationAt, clear, Request.vacates, isFree, hslot, hs]

theorem Sound.generationAt_apply (h : r.Sound) (q : Request) (i : Nat) :
    (q.apply r).generationAt i = r.generationAt i + if q.vacates r i then 1 else 0 := by
  cases q with
  | insert f =>
    have hkept : (Request.insert f).vacates r i = false := rfl
    rw [Request.apply, hkept, if_neg Bool.false_ne_true, UInt32.add_zero]
    rcases h.insert f with ⟨-, j, hsize, -, -, hins⟩ | ⟨-, hins⟩
    · rw [hins]
      exact generationAt_occupy hsize f i
    · rw [hins]
  | get g => exact (UInt32.add_zero _).symm
  | remove g => exact generationAt_remove r g i
  | clear => exact generationAt_clear r i

theorem Sound.generationAt_after (h : r.Sound) (qs : List Request) (i : Nat) :
    (r.after qs).generationAt i = r.generationAt i + UInt32.ofNat (vacations i r qs) := by
  induction qs generalizing r with
  | nil => exact (UInt32.add_zero _).symm
  | cons q qs ih =>
    calc ((q.apply r).after qs).generationAt i
      _ = (q.apply r).generationAt i + UInt32.ofNat (vacations i (q.apply r) qs) := ih (h.apply q)
      _ = r.generationAt i + (if q.vacates r i then 1 else 0) + UInt32.ofNat (vacations i (q.apply r) qs) := by
        rw [h.generationAt_apply]
      _ = r.generationAt i + UInt32.ofNat (vacations i r (q :: qs)) := by
        rw [vacations, UInt32.ofNat_add, UInt32.add_assoc]
        split <;> rfl

theorem add_ofNat_eq_self {g : UInt32} {n : Nat} : g + UInt32.ofNat n = g ↔ 2 ^ 32 ∣ n := by
  rw [Nat.dvd_iff_mod_eq_zero]
  have hself : g + UInt32.ofNat n = g ↔ UInt32.ofNat n = 0 := by simp
  rw [hself, UInt32.ofNat_eq_iff_mod_eq_toNat]
  rfl

theorem Sound.get?_of_not_vacates (h : r.Sound) {q : Request} {g : Handle} {f : HostFn} (hf : r.get? g = some f)
    (hkept : q.vacates r g.index = false) : (q.apply r).get? g = some f := by
  apply h.get?_apply hf
  · rintro rfl
    have hused := (isSome_get?.mp (by rw [hf]; rfl : (r.get? g).isSome = true)).1
    simp [Request.vacates, hused] at hkept
  · rintro rfl
    simp [Request.vacates, hf] at hkept

theorem Sound.get?_after (h : r.Sound) {qs : List Request} {g : Handle} {f : HostFn} (hf : r.get? g = some f)
    (hkept : vacations g.index r qs = 0) : (r.after qs).get? g = some f := by
  induction qs generalizing r with
  | nil => exact hf
  | cons q qs ih =>
    rw [vacations, Nat.add_eq_zero_iff] at hkept
    have hstays : q.vacates r g.index = false := by
      by_contra hvacates
      simp [hvacates] at hkept
    exact ih (h.apply q) (h.get?_of_not_vacates hf hstays) hkept.2

/-- A handle that finds its function finds one again just when its slot is in use and has been vacated a multiple of
`2 ^ 32` times. -/
theorem Sound.isSome_get?_after (h : r.Sound) (qs : List Request) {g : Handle} (hg : r.generationAt g.index = g.generation) :
    ((r.after qs).get? g).isSome = true ↔
      (r.after qs).isFree g.index = false ∧ 2 ^ 32 ∣ vacations g.index r qs := by
  rw [isSome_get?, h.generationAt_after, hg, add_ofNat_eq_self]

/-- What a handle finds after some requests, since it was given out for a function. -/
structure Validity (g : Handle) (f : HostFn) (issued : Registry) (qs : List Request) : Prop where
  /-- It finds a function just when its slot is in use and has been vacated a multiple of `2 ^ 32` times. -/
  finds : ((issued.after qs).get? g).isSome = true ↔
    (issued.after qs).isFree g.index = false ∧ 2 ^ 32 ∣ vacations g.index issued qs
  /-- To look a function up and to take it out find the same. -/
  agree : ((issued.after qs).remove g).1 = (issued.after qs).get? g
  /-- Up to there it finds the function that it was given out for, until the slot is vacated. -/
  own : vacations g.index issued qs < 2 ^ 32 →
    (issued.after qs).get? g = if vacations g.index issued qs = 0 then some f else none
  /-- From the moment in which a function is taken out until one can be taken out again, the slot is vacated `2 ^ 32`
  times, the first removal counted. -/
  again : ((issued.after qs).remove g).1.isSome = true → ∀ later : List Request,
    ((((issued.after qs).remove g).2.after later).remove g).1.isSome = true →
      2 ^ 32 ≤ vacations g.index (issued.after qs) (.remove g :: later)

/-- Exactly when handles are stale, whatever was requested before they were given out and since. -/
theorem validity_after (limit : Nat) (before : List Request) {f : HostFn} {g : Handle} {issued : Registry}
    (hissue : ((ofLimit limit).after before).insert f = .ok (g, issued)) (qs : List Request) :
    Validity g f issued qs := by
  have hsound := (sound_ofLimit limit).after before
  have hissued : issued.Sound ∧ issued.get? g = some f := by
    rcases hsound.insert f with ⟨-, i, hsize, hlimit, hfree, hins⟩ | ⟨-, hins⟩
    · rw [hissue] at hins
      cases hins
      exact ⟨hsound.occupy hsize hlimit hfree f, by rw [get?_occupy hsize hfree, if_pos rfl]⟩
    · rw [hissue] at hins
      cases hins
  obtain ⟨hsound, hf⟩ := hissued
  have hgeneration := (isSome_get?.mp (by rw [hf]; rfl : (issued.get? g).isSome = true)).2
  exact {
    finds := hsound.isSome_get?_after qs hgeneration
    agree := remove_fst _ _
    own := fun hfew => by
      split
      · next hnone => exact hsound.get?_after hf hnone
      · next hsome =>
        rw [← Option.not_isSome_iff_eq_none, hsound.isSome_get?_after qs hgeneration]
        rintro ⟨-, hdvd⟩
        exact hsome (Nat.eq_zero_of_dvd_of_lt hdvd hfew)
    again := fun hfirst later hagain => by
      rw [remove_fst] at hfirst hagain
      have hgeneration' := (isSome_get?.mp hfirst).2
      have hdvd := (((hsound.after qs).isSome_get?_after (.remove g :: later) hgeneration').mp hagain).2
      apply Nat.le_of_dvd _ hdvd
      -- the first removal vacates the slot
      have hvacates : (Request.remove g).vacates (issued.after qs) g.index = true := by simp [Request.vacates, hfirst]
      rw [vacations, hvacates, if_pos rfl]
      omega }

/-- A handle whose function has been taken out does not find the next one in its slot. -/
theorem validity_after_reuse : (ofLimit 1).insert ⟨7⟩ = .ok (⟨0, 0⟩, (ofLimit 1).occupy 0 ⟨7⟩) ∧
    ((((ofLimit 1).occupy 0 ⟨7⟩).after [.remove ⟨0, 0⟩, .insert ⟨8⟩]).get? ⟨0, 0⟩).isSome = false ∧
    Validity ⟨0, 0⟩ ⟨7⟩ ((ofLimit 1).occupy 0 ⟨7⟩) [.remove ⟨0, 0⟩, .insert ⟨8⟩] :=
  ⟨by rfl, by rfl, validity_after 1 [] (by rfl) _⟩

end Embedding.Registry
