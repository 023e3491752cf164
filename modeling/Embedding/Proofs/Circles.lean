import Embedding.Proofs.Arrays
import Mathlib.Data.Fintype.EquivFin
import Mathlib.Logic.Relation

namespace Embedding

namespace Outcome

variable {α β : Type}

theorem exists_of_bind_eq_pure {x : Outcome α} {f : α → Outcome β} {b : β} (h : x >>= f = pure b) :
    ∃ a, x = pure a ∧ f a = pure b := by
  match x with
  | none => cases h
  | some (.error err) => cases h
  | some (.ok a) => exact ⟨a, rfl, h⟩

theorem error_of_bind {x : Outcome α} {f : α → Outcome β} {err : Error} (h : x >>= f = some (.error err)) :
    x = some (.error err) ∨ ∃ a, x = pure a ∧ f a = some (.error err) := by
  match x with
  | none => cases h
  | some (.error err') =>
    cases h
    exact .inl rfl
  | some (.ok a) => exact .inr ⟨a, rfl, h⟩

theorem exists_of_mapM_eq_pure {as : List α} {f : α → Outcome β} {bs : List β} (h : as.mapM f = pure bs) :
    ∀ a ∈ as, ∃ b, f a = pure b := by
  induction as generalizing bs with
  | nil => nofun
  | cons a as ih =>
    rw [List.mapM_cons] at h
    obtain ⟨b, hb, h⟩ := exists_of_bind_eq_pure h
    obtain ⟨rest, hrest, -⟩ := exists_of_bind_eq_pure h
    intro a' ha'
    rcases List.mem_cons.mp ha' with rfl | ha'
    · exact ⟨b, hb⟩
    · exact ih hrest a' ha'

theorem exists_of_mapM_eq_error {as : List α} {f : α → Outcome β} {err : Error}
    (h : as.mapM f = some (.error err)) : ∃ a ∈ as, f a = some (.error err) := by
  induction as with
  | nil => cases h
  | cons a as ih =>
    rw [List.mapM_cons] at h
    rcases error_of_bind h with ha | ⟨b, -, h⟩
    · exact ⟨a, List.mem_cons_self, ha⟩
    rcases error_of_bind h with hrest | ⟨rest, -, h⟩
    · obtain ⟨a', ha', herr⟩ := ih hrest
      exact ⟨a', List.mem_cons_of_mem a ha', herr⟩
    · cases h

theorem mapM_eq_none {before after : List α} {a : α} {f : α → Outcome β} (ha : f a = none)
    (hbefore : ∀ a' ∈ before, ∀ err, f a' ≠ some (.error err)) : (before ++ a :: after).mapM f = none := by
  induction before with
  | nil =>
    rw [List.nil_append, List.mapM_cons, ha]
    rfl
  | cons a' before ih =>
    have hrest := ih fun a'' ha'' => hbefore a'' (List.mem_cons_of_mem a' ha'')
    rw [List.cons_append, List.mapM_cons, hrest]
    match ha' : f a' with
    | none => rfl
    | some (.error err) => exact absurd ha' (hbefore a' List.mem_cons_self err)
    | some (.ok b) => rfl

end Outcome

namespace Guest

variable {objects : Array Object} {n : Nat} {v : Value} {o : ObjectId} {vs : List Value}

/-- All texts in a value have host text. -/
def Clean (objects : Array Object) (v : Value) : Prop :=
  ∀ t, Contains objects v (.text t) → (Bridge.hostText t).isOk = true

/-- The conversion of an array gets to one of its items, for nothing before it fails. -/
def Enters (objects : Array Object) (o o' : ObjectId) : Prop :=
  ∃ before after, itemsAt? objects o = some (before ++ .object o' :: after) ∧ ∀ v ∈ before, Clean objects v

/-- The conversion of a value gets to an array, and from there to the same array again. -/
def Circular (objects : Array Object) (v : Value) : Prop :=
  ∃ o o', v = .object o ∧ Relation.ReflTransGen (Enters objects) o o' ∧ Relation.TransGen (Enters objects) o' o'

theorem nativeWithin_object (hvs : itemsAt? objects o = some vs) :
    nativeWithin objects (n + 1) (.object o) = (do return .array (← vs.mapM (nativeWithin objects n))) := by
  rw [nativeWithin, hvs]

theorem exists_items_of_nativeWithin {r : Except Error Native} (h : nativeWithin objects (n + 1) (.object o) = some r) :
    ∃ vs, itemsAt? objects o = some vs := by
  rw [nativeWithin] at h
  split at h
  · next vs hvs => exact ⟨vs, hvs⟩
  · cases h

theorem nativeWithin_of_not_object (hv : v.isObject = false) :
    nativeWithin objects (n + 1) v = some (nativeOfPrimitive v) := by
  cases v with
  | object o => cases hv
  | _ => rfl

theorem clean_of_nativeWithin {t : Native} (h : nativeWithin objects n v = pure t) : Clean objects v := by
  induction n generalizing v t with
  | zero => cases h
  | succ n ih =>
    intro text htext
    cases htext with
    | refl =>
      cases htext : Bridge.hostText text with
      | ok s => rfl
      | error err =>
        rw [nativeWithin_of_not_object rfl, nativeOfPrimitive, htext] at h
        cases h
    | item hvs hv hw =>
      rw [nativeWithin_object hvs] at h
      obtain ⟨ts, hts, -⟩ := Outcome.exists_of_bind_eq_pure h
      obtain ⟨t', ht'⟩ := Outcome.exists_of_mapM_eq_pure hts _ hv
      exact ih ht' text hw

theorem nativeWithin_ne_error (hv : Clean objects v) (err : Error) : nativeWithin objects n v ≠ some (.error err) := by
  induction n generalizing v with
  | zero => nofun
  | succ n ih =>
    intro h
    cases v with
    | object o =>
      obtain ⟨vs, hvs⟩ := exists_items_of_nativeWithin h
      rw [nativeWithin_object hvs] at h
      rcases Outcome.error_of_bind h with h | ⟨ts, -, h⟩
      · obtain ⟨w, hw, herr⟩ := Outcome.exists_of_mapM_eq_error h
        exact ih (fun t ht => hv t (.item hvs hw ht)) herr
      · cases h
    | text t =>
      have hok := hv t .refl
      cases ht : Bridge.hostText t with
      | ok s =>
        rw [nativeWithin_of_not_object rfl, nativeOfPrimitive, ht] at h
        cases h
      | error err' =>
        rw [ht] at hok
        cases hok
    | _ => cases h

theorem Circular.next (h : Circular objects (.object o)) :
    ∃ o', Enters objects o o' ∧ Circular objects (.object o') := by
  obtain ⟨_, last, ⟨⟩, hreach, hround⟩ := h
  rcases hreach.cases_head with rfl | ⟨next, hnext, hrest⟩
  · obtain ⟨next, hnext, hback⟩ := Relation.TransGen.head'_iff.mp hround
    exact ⟨next, hnext, next, o, rfl, hback, hround⟩
  · exact ⟨next, hnext, next, last, rfl, hrest, hround⟩

theorem nativeWithin_of_circular (h : Circular objects v) : nativeWithin objects n v = none := by
  induction n generalizing v with
  | zero => rfl
  | succ n ih =>
    obtain ⟨o, last, rfl, hreach, hround⟩ := h
    obtain ⟨o', ⟨before, after, hvs, hclean⟩, hnext⟩ := Circular.next ⟨o, last, rfl, hreach, hround⟩
    rw [nativeWithin_object hvs, Outcome.mapM_eq_none (ih hnext) fun w hw => nativeWithin_ne_error (hclean w hw)]
    rfl

def Settles (objects : Array Object) (v : Value) : Prop :=
  ∃ least r, ∀ n ≥ least, nativeWithin objects n v = some r

theorem settles_of_not_object (hv : v.isObject = false) : Settles objects v := by
  refine ⟨1, nativeOfPrimitive v, fun n hn => ?_⟩
  obtain ⟨n, rfl⟩ := Nat.exists_eq_add_of_le' hn
  exact nativeWithin_of_not_object hv

theorem exists_of_isObject (hv : v.isObject = true) : ∃ o, v = .object o := by
  cases v with
  | object o => exact ⟨o, rfl⟩
  | _ => cases hv

theorem settles_of_enters (hvs : itemsAt? objects o = some vs)
    (h : ∀ o', Enters objects o o' → Settles objects (.object o')) : Settles objects (.object o) := by
  have hrow : ∀ before after, before ++ after = vs → (∀ w ∈ before, Clean objects w) →
      ∃ least r, ∀ n ≥ least, after.mapM (nativeWithin objects n) = some r := by
    intro before after
    induction after generalizing before with
    | nil => exact fun _ _ => ⟨0, .ok [], fun _ _ => rfl⟩
    | cons w after ih =>
      intro hsplit hclean
      have hw : Settles objects w := by
        cases hobject : w.isObject with
        | false => exact settles_of_not_object hobject
        | true =>
          obtain ⟨o', rfl⟩ := exists_of_isObject hobject
          exact h o' ⟨before, after, by rw [hvs, hsplit], hclean⟩
      obtain ⟨least, r, hr⟩ := hw
      cases r with
      | error err =>
        refine ⟨least, .error err, fun n hn => ?_⟩
        rw [List.mapM_cons, hr n hn]
        rfl
      | ok t =>
        have hclean' : ∀ w' ∈ before ++ [w], Clean objects w' := by
          intro w' hw'
          rcases List.mem_append.mp hw' with hw' | hw'
          · exact hclean w' hw'
          · rw [List.mem_singleton.mp hw']
            exact clean_of_nativeWithin (hr least (Nat.le_refl _))
        obtain ⟨least', r', hr'⟩ := ih (before ++ [w]) (by rw [List.append_assoc]; exact hsplit) hclean'
        refine ⟨max least least', r'.map (t :: ·), fun n hn => ?_⟩
        rw [List.mapM_cons, hr n (by omega), hr' n (by omega)]
        cases r' <;> rfl
  obtain ⟨least, r, hr⟩ := hrow [] vs rfl nofun
  refine ⟨least + 1, r.map .array, fun n hn => ?_⟩
  obtain ⟨n, rfl⟩ := Nat.exists_eq_add_of_le' (Nat.le_trans (Nat.le_add_left 1 least) hn)
  rw [nativeWithin_object hvs, hr n (by omega)]
  cases r <;> rfl

theorem OfArrays.enters {o' : ObjectId} (h : OfArrays objects (.object o)) (ho : Enters objects o o') :
    OfArrays objects (.object o') := by
  obtain ⟨before, after, hvs, -⟩ := ho
  exact h.item hvs (List.mem_append_right before List.mem_cons_self)

theorem lt_size_of_items (hvs : itemsAt? objects o = some vs) : o < objects.size := by
  obtain ⟨x, hx, -⟩ := Option.bind_eq_some_iff.mp hvs
  exact (Array.getElem?_eq_some_iff.mp hx).1

abbrev Reached (objects : Array Object) (start : ObjectId) : Type :=
  { i : Fin objects.size // Relation.ReflTransGen (Enters objects) start i }

def Reached.Below {start : ObjectId} (a b : Reached objects start) : Prop :=
  Relation.TransGen (Enters objects) b.1 a.1

theorem Reached.wellFounded_below {start : ObjectId} (h : ¬Circular objects (.object start)) :
    WellFounded (Below : Reached objects start → Reached objects start → Prop) := by
  have htrans : IsTrans (Reached objects start) Below := ⟨fun _ _ _ hab hbc => hbc.trans hab⟩
  have hirrefl : Std.Irrefl (Below : Reached objects start → Reached objects start → Prop) :=
    ⟨fun a ha => h ⟨start, a.1, rfl, a.2, ha⟩⟩
  exact Finite.wellFounded_of_trans_of_irrefl _

theorem settles_of_not_circular (hv : OfArrays objects v) (h : ¬Circular objects v) : Settles objects v := by
  cases hobject : v.isObject with
  | false => exact settles_of_not_object hobject
  | true =>
    obtain ⟨start, rfl⟩ := exists_of_isObject hobject
    have harrays : ∀ {o}, Relation.ReflTransGen (Enters objects) start o → OfArrays objects (.object o) := by
      intro o ho
      induction ho with
      | refl => exact hv
      | tail _ hstep ih => exact ih.enters hstep
    have hitems : ∀ {o}, Relation.ReflTransGen (Enters objects) start o → ∃ vs, itemsAt? objects o = some vs :=
      fun ho => Option.isSome_iff_exists.mp (harrays ho _ .refl)
    have hall : ∀ a : Reached objects start, Settles objects (.object a.1) := by
      intro a
      induction a using (Reached.wellFounded_below h).induction with
      | _ a ih =>
        obtain ⟨vs, hvs⟩ := hitems a.2
        apply settles_of_enters hvs
        intro o' ho'
        have hreached := a.2.tail ho'
        obtain ⟨vs', hvs'⟩ := hitems hreached
        exact ih ⟨⟨o', lt_size_of_items hvs'⟩, hreached⟩ (.single ho')
    obtain ⟨vs, hvs⟩ := hitems .refl
    exact hall ⟨⟨start, lt_size_of_items hvs⟩, .refl⟩

namespace Machine.Unaltered

variable {m : Machine} (h : m.Unaltered) {n : Nat}
include h

theorem toNative_yields {v : Value} (hv : OfArrays m.objects v) :
    (Bridge.toNative v).Yields (Engine.ofLevel (n + 3)) m (nativeWithin m.objects Bridge.nestingLimit v) := by
  have hrooted : (m.rooted [v]).Unaltered := ⟨h.standing, h.functions⟩
  exact Bridge.Yields.holding (hrooted.toNativeWithin_yields hv)

/-- Arguments are converted from left to right, so what stands behind one that goes round does not matter. -/
theorem arguments_yield_none {before after : List Value} {v : Value} (hv : OfArrays m.objects v)
    (hround : Circular m.objects v) (hbefore : ∀ w ∈ before, OfArrays m.objects w ∧ Clean m.objects w) :
    ((before ++ v :: after).mapM Bridge.toNative).Yields (Engine.ofLevel (n + 3)) m none := by
  induction before with
  | nil =>
    rw [List.nil_append, List.mapM_cons]
    have hnone := h.toNative_yields (n := n) hv
    rw [nativeWithin_of_circular hround] at hnone
    exact hnone.bind (k := fun _ => none) nofun
  | cons w before ih =>
    obtain ⟨harrays, hclean⟩ := hbefore w List.mem_cons_self
    have hrest := ih fun w' hw' => hbefore w' (List.mem_cons_of_mem w hw')
    have hnone : nativeWithin m.objects Bridge.nestingLimit w >>=
        (fun _ => none : Native → Outcome (List Native)) = none := by
      match hout : nativeWithin m.objects Bridge.nestingLimit w with
      | none => rfl
      | some (.error err) => exact absurd hout (nativeWithin_ne_error hclean err)
      | some (.ok t) => rfl
    rw [List.cons_append, List.mapM_cons, ← hnone]
    apply (h.toNative_yields harrays).bind
    intro t _
    exact hrest.bind (k := fun _ => none) nofun

theorem callHost_stops {before after : List Value} {v : Value} (hv : OfArrays m.objects v)
    (hround : Circular m.objects v) (hbefore : ∀ w ∈ before, OfArrays m.objects w ∧ Clean m.objects w)
    (handle : Handle) : ∃ resume,
      Bridge.callHost handle (before ++ v :: after) (Engine.ofLevel (n + 3)) m = .ask (.beginCall handle) m resume ∧
      ∀ f, (resume (some f)).Stops := by
  refine ⟨_, rfl, fun _ => ?_⟩
  have hnone : ((before ++ v :: after).mapM Bridge.toNative).Yields (Engine.ofLevel (n + 3)) m none :=
    h.arguments_yield_none hv hround hbefore
  dsimp only
  rw [Run.andThen_assoc]
  exact hnone.stops

/-- The conversion of what is made up of ordinary arrays and primitive values comes back, and always in the same way,
when there are levels enough. But if it gets from an array to the same array again, no number of levels is enough, and
a host function that is called with the value is never entered. -/
theorem comesBack_unless_circular {v : Value} (hv : OfArrays m.objects v) :
    (¬Circular m.objects v → ∃ least r, ∀ l ≥ least,
      (Bridge.toNativeWithin l v).Yields (Engine.ofLevel (n + 3)) m (some r)) ∧
    (Circular m.objects v → (∀ l, (Bridge.toNativeWithin l v).Yields (Engine.ofLevel (n + 3)) m none) ∧
      ∀ (handle : Handle) (before after : List Value), (∀ w ∈ before, OfArrays m.objects w ∧ Clean m.objects w) →
        ∃ resume, Bridge.callHost handle (before ++ v :: after) (Engine.ofLevel (n + 3)) m =
          .ask (.beginCall handle) m resume ∧ ∀ f, (resume (some f)).Stops) := by
  constructor
  · intro hstraight
    obtain ⟨least, r, hr⟩ := settles_of_not_circular hv hstraight
    refine ⟨least, r, fun l hl => ?_⟩
    rw [← hr l hl]
    exact h.toNativeWithin_yields hv
  · intro hround
    refine ⟨fun l => ?_, fun handle before after hbefore => h.callHost_stops hv hround hbefore handle⟩
    have hnone := h.toNativeWithin_yields (l := l) (n := n) hv
    rwa [nativeWithin_of_circular hround] at hnone

end Machine.Unaltered

theorem itemsAt?_push_ofItems (objects : Array Object) (w : Value) :
    itemsAt? (objects.push (.ofItems [w])) objects.size = some [w] := by
  have hitems : (Object.ofItems [w]).items? = some [w] := rfl
  rw [itemsAt?, Array.getElem?_push_size, Option.bind_some, hitems]

theorem circular_ownItem (hvs : itemsAt? objects o = some [.object o]) : Circular objects (.object o) :=
  ⟨o, o, rfl, .refl, .single ⟨[], [], hvs, nofun⟩⟩

theorem ofArrays_ownItem (hvs : itemsAt? objects o = some [.object o]) : OfArrays objects (.object o) := by
  intro o' ho'
  generalize hv : Value.object o = v at ho'
  generalize hw : Value.object o' = w at ho'
  induction ho' with
  | refl =>
    cases hv.trans hw.symm
    rw [hvs]
    rfl
  | item hvs' hitem _ ih =>
    cases hv
    cases hvs.symm.trans hvs'
    exact ih (List.mem_singleton.mp hitem).symm hw

theorem comesBack_unless_circular_ownItem : ∃ (m : Machine) (v : Value),
    m.Unaltered ∧ OfArrays m.objects v ∧ Circular m.objects v ∧
      ∀ l, (Bridge.toNativeWithin l v).Yields (Engine.ofLevel 3) m none := by
  let own : Value := .object Realm.initial.objects.size
  let m : Machine := { Realm.initial with objects := Realm.initial.objects.push (.ofItems [own]) }
  have hm : m.Unaltered := Machine.unaltered_initial.keep (.push _)
  have hvs := itemsAt?_push_ofItems Realm.initial.objects own
  have hv : OfArrays m.objects _ := ofArrays_ownItem hvs
  have hround : Circular m.objects _ := circular_ownItem hvs
  exact ⟨m, _, hm, hv, hround, ((hm.comesBack_unless_circular (n := 0) hv).2 hround).1⟩

end Guest

end Embedding
