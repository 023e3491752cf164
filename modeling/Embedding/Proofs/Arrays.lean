import Embedding.Proofs.Integers
import Embedding.Proofs.Parts

namespace Embedding

/-- How work comes out: with a value, with an error, or not at all. -/
abbrev Outcome := ExceptT Error Option

namespace Guest

variable {α β : Type}

/-- The run comes out like this on every way on which its context stays live. It asks nothing else of the host. -/
def Run.Yields (out : Option (Except Error α)) (m : Machine) : Run (Except Error α) → Prop
  | .done r m' => out = some r ∧ m' = m
  | .threw _ _ => False
  | .stopped why _ => out = none ∧ why = .exhausted
  | .ask q _ resume => ∀ r, q.Live r → (resume r).Yields out m
  | .call .. => False

theorem Run.Yields.leaving {out : Option (Except Error α)} {m m' : Machine} {x : Run (Except Error α)}
    {f : Machine → Machine} (h : x.Yields out m) (hf : f m = m') : (x.leaving f).Yields out m' := by
  induction x with
  | done r m₁ =>
    obtain ⟨hr, rfl⟩ := h
    exact ⟨hr, hf⟩
  | threw v m₁ => exact h
  | stopped why m₁ => exact h
  | ask q m₁ resume ih => exact fun r hr => ih r (h r hr)
  | call begun args m₁ resume ih => exact h

/-- The run never comes back, and calls nothing of the host. -/
def Run.Stops : Run α → Prop
  | .stopped why _ => why = .exhausted
  | .ask q _ resume => ∀ r, q.Live r → (resume r).Stops
  | _ => False

theorem Run.Yields.stops {m : Machine} {x : Run (Except Error α)} {f : Except Error α → Machine → Run β}
    (h : x.Yields none m) : (x.andThen f).Stops := by
  induction x with
  | done r m₁ => cases h.1
  | threw v m₁ => exact h
  | stopped why m₁ => exact h.2
  | ask q m₁ resume ih => exact fun r hr => ih r (h r hr)
  | call begun args m₁ resume ih => exact h

namespace Bridge

def Yields (x : Bridge α) (e : Engine) (m : Machine) (out : Outcome α) : Prop := (x.run e m).Yields out m

namespace Yields

variable {x : Bridge α} {e : Engine} {m : Machine}

theorem of_ends {a : α} (h : x.Ends e m fun b m' => b = a ∧ m' = m) : x.Yields e m (pure a) := by
  unfold Bridge.Ends at h
  unfold Yields
  generalize x.run e m = run at h
  induction run with
  | done r m' =>
    obtain ⟨b, rfl, rfl, rfl⟩ := h
    exact ⟨rfl, rfl⟩
  | threw v m' => exact h.elim
  | stopped why m' => exact h.elim
  | ask q m' resume ih => exact fun r hr => ih r (h.2 r hr)
  | call begun args m' resume ih => exact h.elim

theorem bind {out : Outcome α} {f : α → Bridge β} {k : α → Outcome β} (h : x.Yields e m out)
    (hf : ∀ a, out = pure a → (f a).Yields e m (k a)) : (x >>= f).Yields e m (out >>= k) := by
  unfold Yields at h ⊢
  rw [run_bind]
  generalize x.run e m = run at h
  induction run with
  | done r m' =>
    obtain ⟨rfl, rfl⟩ := h
    cases r with
    | ok a => exact hf a rfl
    | error err => exact ⟨rfl, rfl⟩
  | threw v m' => exact h
  | stopped why m' =>
    obtain ⟨rfl, rfl⟩ := h
    exact ⟨rfl, rfl⟩
  | ask q m' resume ih => exact fun r hr => ih r (h r hr)
  | call begun args m' resume ih => exact h

theorem andThen {a : α} {f : α → Bridge β} {out : Outcome β} (h : x.Ends e m fun b m' => b = a ∧ m' = m)
    (hf : (f a).Yields e m out) : (x >>= f).Yields e m out := by
  apply (of_ends h).bind (k := fun _ => out)
  rintro _ ⟨⟩
  exact hf

theorem pure {a : α} : (pure a : Bridge α).Yields e m (pure a) := ⟨rfl, rfl⟩

theorem map {out : Outcome α} (f : α → β) (h : x.Yields e m out) :
    (x >>= fun a => return f a).Yields e m (out >>= fun a => return f a) :=
  h.bind fun _ _ => pure

theorem ofExcept {r : Except Error α} : (ofExcept r).Yields e m (some r) := ⟨rfl, rfl⟩

theorem mapM {ι : Type} {is : List ι} {g : ι → Option α} {as : List α} (has : is.mapM g = some as)
    {f : ι → Bridge β} {out : α → Outcome β}
    (hf : ∀ i ∈ is, ∀ a ∈ as, g i = some a → (f i).Yields e m (out a)) :
    (is.mapM f).Yields e m (as.mapM out) := by
  induction is generalizing as with
  | nil =>
    cases has
    exact pure
  | cons i is ih =>
    rw [List.mapM_cons] at has
    obtain ⟨a, ha, has⟩ := Option.bind_eq_some_iff.mp has
    obtain ⟨rest, hrest, has⟩ := Option.bind_eq_some_iff.mp has
    cases has
    rw [List.mapM_cons, List.mapM_cons]
    apply (hf i List.mem_cons_self a List.mem_cons_self ha).bind
    intro b _
    apply Yields.map (b :: ·)
    exact ih hrest fun i' hi' a' ha' => hf i' (List.mem_cons_of_mem i hi') a' (List.mem_cons_of_mem a ha')

theorem holding {vs : List Value} {out : Outcome α} (h : x.Yields e (m.rooted vs) out) :
    (holding vs x).Yields e m out :=
  Run.Yields.leaving h rfl

theorem deeper {out : Outcome α} (h : x.Yields e { m with depth := m.depth + 1 } out) :
    (deeper x).Yields e m out :=
  Run.Yields.leaving h rfl

end Yields

end Bridge

namespace Object

/-- What is at a place of an ordinary array, where a hole is undefined. -/
def item? (x : Object) (i : Nat) : Option Value :=
  match x.payload with
  | .array elements _ _ =>
    match elements.getD i none, x.property? (.ofNat i) with
    | some v, _ => some v
    | none, some ⟨.data v _, _, _⟩ => some v
    | none, some _ => none
    | none, none => if x.proto = some Intrinsic.arrayPrototype then some .undefined else none
  | _ => none

/-- The items of an ordinary array: none of them is behind a getter. -/
def items? (x : Object) : Option (List Value) :=
  match x.payload with
  | .array _ length _ => if length < 2 ^ 32 then (List.range length).mapM x.item? else none
  | _ => none

theorem exists_of_items? {x : Object} {vs : List Value} (h : x.items? = some vs) : ∃ elements length fixed,
    x.payload = .array elements length fixed ∧ length < 2 ^ 32 ∧ (List.range length).mapM x.item? = some vs := by
  unfold items? at h
  split at h
  · next elements length fixed hpayload =>
    obtain ⟨hlength, h⟩ := Option.ite_none_right_eq_some.mp h
    exact ⟨elements, length, fixed, hpayload, hlength, h⟩
  · cases h

end Object

/-- The items of the ordinary array at a place. -/
def itemsAt? (objects : Array Object) (o : ObjectId) : Option (List Value) := objects[o]?.bind (·.items?)

/-- A value is, or has somewhere among the items of its arrays, another. -/
inductive Contains (objects : Array Object) : Value → Value → Prop
  | refl {v : Value} : Contains objects v v
  | item {o : ObjectId} {vs : List Value} {v w : Value} (hvs : itemsAt? objects o = some vs) (hv : v ∈ vs)
      (hw : Contains objects v w) : Contains objects (.object o) w

/-- A value is made up of ordinary arrays and primitive values. -/
def OfArrays (objects : Array Object) (v : Value) : Prop :=
  ∀ o, Contains objects v (.object o) → (itemsAt? objects o).isSome = true

theorem OfArrays.item {objects : Array Object} {o : ObjectId} {vs : List Value} {v : Value}
    (h : OfArrays objects (.object o)) (hvs : itemsAt? objects o = some vs) (hv : v ∈ vs) : OfArrays objects v :=
  fun o' ho' => h o' (.item hvs hv ho')

def nativeOfPrimitive : Value → Except Error Native
  | .undefined | .null => .ok .null
  | .bool b => .ok (.bool b)
  | .number d => .ok (Bridge.nativeOfNumber d)
  | .bigint n => .ok (.bigint n)
  | .text t => return .string (← Bridge.hostText t)
  | .symbol _ | .object _ => .ok .unmapped

/-- The host value of what is made up of arrays nested no deeper than so many levels. -/
def nativeWithin (objects : Array Object) : Nat → Value → Outcome Native
  | 0, _ => none
  | n + 1, .object o =>
    match itemsAt? objects o with
    | some vs => do return .array (← vs.mapM (nativeWithin objects n))
    | none => none
  | _ + 1, v => some (nativeOfPrimitive v)

theorem run_downTheStack (l : Nat) (e : Engine) (m : Machine) :
    ∃ m', Bridge.downTheStack l e m = .stopped .exhausted m' := by
  induction l generalizing m with
  | zero => exact ⟨m, rfl⟩
  | succ l ih =>
    obtain ⟨m', hm'⟩ := ih { m with depth := m.depth + 1 }
    refine ⟨{ m' with depth := m.depth }, ?_⟩
    show (Bridge.downTheStack l e { m with depth := m.depth + 1 }).leaving _ = _
    rw [hm']
    rfl

theorem downTheStack_yields (l : Nat) (e : Engine) (m : Machine) :
    (Bridge.ofGuest (Bridge.downTheStack l)).Yields e m none := by
  obtain ⟨m', hm'⟩ := run_downTheStack l e m
  rw [Bridge.Yields, Bridge.run_ofGuest, hm']
  exact ⟨rfl, rfl⟩

namespace Machine.Unaltered

variable {m : Machine} (h : m.Unaltered) {n : Nat} {o : ObjectId} {x : Object}
include h

theorem get_noElement {k : Key} (hk : k.index?.isSome = true) (receiver : Value) :
    (Engine.ofLevel (n + 2)).get Intrinsic.arrayPrototype k receiver m = .done .undefined m := by
  obtain ⟨harray, hobject⟩ := Realm.reads_noElement hk
  rw [Act.get_inherited (h.object (by decide)) harray Realm.proto_arrayPrototype, Act.get_eq (h.object (by decide)) hobject,
    Realm.proto_objectPrototype]

theorem get_item {i : Nat} {v : Value} (hx : m.objects[o]? = some x) (hi : i < 2 ^ 32 - 1) (hv : x.item? i = some v)
    (receiver : Value) : (Engine.ofLevel (n + 3)).get o (.ofNat i) receiver m = .done v m := by
  have hindex := Key.index?_ofNat hi
  unfold Object.item? at hv
  split at hv
  · next hpayload =>
    split at hv
    · next helement =>
      cases hv
      exact Act.get_own hx (Object.reads_element hpayload hindex helement)
    · next hhole hproperty =>
      cases hv
      exact Act.get_own hx (Object.reads_listed hpayload hindex hhole hproperty (by rintro _ ⟨⟩; nofun))
    · cases hv
    · next hhole hproperty =>
      split at hv
      · next hproto =>
        cases hv
        rw [Act.get_inherited hx (Object.reads_listed hpayload hindex hhole hproperty Object.not_lazy_of_none) hproto]
        exact h.get_noElement (by rw [hindex]; rfl) receiver
      · cases hv
  · cases hv

theorem arrayItems_yields {convert : Value → Bridge Native} {out : Value → Outcome Native} {vs : List Value}
    (hx : m.objects[o]? = some x) (hvs : x.items? = some vs)
    (hconvert : ∀ v ∈ vs, (convert v).Yields (Engine.ofLevel (n + 3)) (m.rooted [v]) (out v)) :
    (Bridge.arrayItems convert o).Yields (Engine.ofLevel (n + 3)) m (vs.mapM out) := by
  obtain ⟨elements, length, fixed, hpayload, hlength, hitems⟩ := Object.exists_of_items? hvs
  have hget : (Engine.ofLevel (n + 3)).get o "length" (.object o) m = .done (.ofNat length) m :=
    Act.get_own hx (Object.reads_length hpayload)
  unfold Bridge.arrayItems
  apply Bridge.Yields.andThen (Bridge.countOf_ends hget (by omega))
  rw [Nat.mod_eq_of_lt hlength]
  apply Bridge.Yields.mapM hitems
  intro i hi v hv hitem
  have hlt : i < length := List.mem_range.mp hi
  have hread : (Bridge.itemAt o i).Ends (Engine.ofLevel (n + 3)) m fun v' m' => v' = v ∧ m' = m :=
    .check (h.get_item hx (by omega) hitem (.object o)) ⟨rfl, rfl⟩
  exact Bridge.Yields.andThen hread (hconvert v hv).holding

theorem nativeOfObject_yields {convert : Value → Bridge Native} {out : Value → Outcome Native} {vs : List Value}
    (hvs : itemsAt? m.objects o = some vs)
    (hconvert : ∀ v ∈ vs, (convert v).Yields (Engine.ofLevel (n + 3)) (m.rooted [v]) (out v)) :
    (Bridge.nativeOfObject convert o).Yields (Engine.ofLevel (n + 3)) m (do return .array (← vs.mapM out)) := by
  obtain ⟨x, hx, hvs⟩ := Option.bind_eq_some_iff.mp hvs
  obtain ⟨elements, length, fixed, hpayload, -, -⟩ := Object.exists_of_items? hvs
  have hproxy : x.isProxy = false := by rw [Object.isProxy, hpayload]; rfl
  have harray : x.isArray = true := by rw [Object.isArray, hpayload]
  unfold Bridge.nativeOfObject
  apply Bridge.Yields.andThen (Bridge.kindOf_array_ends hx hproxy harray)
  exact (h.arrayItems_yields hx hvs hconvert).map Native.array

theorem toNativeWithin_yields {l : Nat} {v : Value} (hv : OfArrays m.objects v) :
    (Bridge.toNativeWithin l v).Yields (Engine.ofLevel (n + 3)) m (nativeWithin m.objects l v) := by
  induction l generalizing v m with
  | zero =>
    rw [Bridge.toNativeWithin]
    generalize Bridge.stackLimit = limit
    exact downTheStack_yields limit _ m
  | succ l ih =>
    cases v with
    | object o =>
      obtain ⟨vs, hvs⟩ := Option.isSome_iff_exists.mp (hv o .refl)
      rw [nativeWithin, hvs]
      apply h.nativeOfObject_yields hvs
      intro w hw
      have hbelow : Machine.Unaltered { m.rooted [w] with depth := m.depth + 1 } := ⟨h.standing, h.functions⟩
      exact Bridge.Yields.deeper (ih hbelow (hv.item hvs hw))
    | text t =>
      have hout : nativeWithin m.objects (l + 1) (.text t) =
          (do return .string (← some (Bridge.hostText t)) : Outcome Native) := by
        cases ht : Bridge.hostText t <;> simp [nativeWithin, nativeOfPrimitive, ht] <;> rfl
      rw [hout]
      exact Bridge.Yields.ofExcept.map Native.string
    | bigint n =>
      rw [Bridge.toNativeWithin, Bridge.nativeOf_bigint]
      exact Bridge.Yields.pure
    | _ => exact Bridge.Yields.pure

end Machine.Unaltered

end Guest

end Embedding
