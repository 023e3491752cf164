import Embedding.Proofs.Parts
import Embedding.Proofs.WorkInside

namespace Embedding

open Guest

namespace Guest

/-- An array of elements of a type, as the engine has it. -/
def Object.IsRow (x : Object) (t : ElementType) : Prop :=
  ∃ buffer offset length, x.payload = .typedArray (.plain t) buffer offset length

/-- The kind that an object is taken for, by its class if it is an array and otherwise by its prototypes. -/
def Object.kindAmong (x : Object) (ps : List ObjectId) : Kind :=
  if x.isArray then .array else (Kind.builtins.tail.find? fun k => Intrinsic.prototypeOf k ∈ ps).getD .unknown

theorem Object.isProxy_of_chain {objects : Array Object} {o : ObjectId} {x : Object} {ps : List ObjectId}
    (hchain : Chain objects o ps) (hx : objects[o]? = some x) : x.isProxy = false := by
  obtain ⟨y, hy, hproxy⟩ : ∃ y, objects[o]? = some y ∧ y.isProxy = false := by
    cases ps with
    | nil => exact hchain.imp fun y h => ⟨h.1, h.2.1⟩
    | cons p ps => exact hchain.imp fun y h => ⟨h.1, h.2.1⟩
  cases hx.symm.trans hy
  exact hproxy

theorem Chain.unique {objects : Array Object} {o : ObjectId} {ps qs : List ObjectId} (h : Chain objects o ps)
    (h' : Chain objects o qs) : ps = qs := by
  induction ps generalizing o qs with
  | nil =>
    obtain ⟨x, hx, -, hproto⟩ := h
    cases qs with
    | nil => rfl
    | cons q qs =>
      obtain ⟨y, hy, -, hproto', -⟩ := h'
      cases hx.symm.trans hy
      cases hproto.symm.trans hproto'
  | cons p ps ih =>
    obtain ⟨x, hx, -, hproto, hrest⟩ := h
    cases qs with
    | nil =>
      obtain ⟨y, hy, -, hproto'⟩ := h'
      cases hx.symm.trans hy
      cases hproto.symm.trans hproto'
    | cons q qs =>
      obtain ⟨y, hy, -, hproto', hrest'⟩ := h'
      cases hx.symm.trans hy
      cases hproto.symm.trans hproto'
      rw [ih hrest hrest']

theorem Bridge.kindOf_eq (o : ObjectId) : kindOf o = requireLive >>= fun _ => borrowing (testKinds o) := rfl

section Chain

variable {m : Machine} (h : m.Unaltered) {n : Nat} {o : ObjectId} {x : Object} {ps : List ObjectId}
  (hdepth : m.depth < m.depthLimit) (hx : m.objects[o]? = some x) (hchain : Chain m.objects o ps)
  (hshort : ps.length < 1000)
include h hdepth hx hchain hshort

theorem Machine.Unaltered.run_testKinds : (Bridge.testKinds o).run (Engine.ofLevel (n + 3)) m =
    if x.isArray then .done (.ok .array) m
    else match Kind.builtins.tail.find? fun k => decide (Intrinsic.prototypeOf k ∈ ps) with
      | some k => .ask (.report (.kindResolved k)) m fun _ => .done (.ok k) m
      | none => .done (.ok .unknown) m := by
  have hproxy := Object.isProxy_of_chain hchain hx
  cases hisArray : x.isArray with
  | true =>
    have htest := Bridge.run_passes_isArray (n := n + 2) hx hproxy
    unfold Bridge.testKinds
    rw [Bridge.run_bind, Bridge.run_ofGuest, htest, hisArray]
    rfl
  | false =>
    have harray := Bridge.run_isArray (n := n + 2) hx hproxy
    rw [hisArray] at harray
    exact h.run_testKinds_of_climbs harray (fun _ _ _ => Act.climbs_of_chain hchain)
      (Nat.lt_of_lt_of_le hshort (Nat.le_add_left ..)) hdepth

/-- The kind that is found depends on nothing but the prototypes, once it is known that an object is no array. -/
theorem Machine.Unaltered.kindOf_ends_of_chain :
    (Bridge.kindOf o).Ends (Engine.ofLevel (n + 3)) m fun k m' => k = x.kindAmong ps ∧ m' = m := by
  have hproxy := Object.isProxy_of_chain hchain hx
  rw [Object.kindAmong]
  cases hisArray : x.isArray with
  | true => exact Bridge.kindOf_array_ends hx hproxy hisArray
  | false =>
    have harray := Bridge.run_isArray (m := m.borrowed) (n := n + 2) hx hproxy
    rw [hisArray] at harray
    exact h.kindOf_ends_of_climbs harray (fun _ _ _ => Act.climbs_of_chain hchain)
      (Nat.lt_of_lt_of_le hshort (Nat.le_add_left ..)) hdepth

theorem Machine.Unaltered.eq_of_gives_kindOf {m' : Machine} {log : List Exchange} {k : Kind}
    (hgives : ((Bridge.kindOf o).run (Engine.ofLevel (n + 3)) m).Gives log (.ok k) m') : k = x.kindAmong ps := by
  rw [Bridge.kindOf_eq] at hgives
  obtain ⟨_, _, _, m₁, -, hlive, htests⟩ := Bridge.exists_of_gives_bind hgives
  obtain ⟨-, rfl⟩ := Bridge.gives_requireLive hlive
  have hborrowed : m₁.borrowed.Unaltered := ⟨h.standing, h.functions⟩
  obtain ⟨m₂, htests, -⟩ := Bridge.gives_borrowing htests
  rw [hborrowed.run_testKinds hdepth hx hchain hshort] at htests
  rw [Object.kindAmong]
  split at htests
  · next harray =>
    cases (Run.gives_done.mp htests).2.1
    rw [if_pos harray]
  · next harray =>
    rw [if_neg harray]
    split at htests
    · next k' hk' =>
      cases htests with
      | ask hdone =>
        cases (Run.gives_done.mp hdone).2.1
        rw [hk']
        rfl
    · next hnone =>
      cases (Run.gives_done.mp htests).2.1
      rw [hnone]
      rfl

end Chain

namespace Bridge

theorem exists_of_gives_map {α β : Type} {x : Bridge α} {g : α → β} {e : Engine} {m m' : Machine} {log : List Exchange}
    {b : β} (h : ((do return g (← x) : Bridge β).run e m).Gives log (.ok b) m') : ∃ a, b = g a := by
  obtain ⟨_, _, a, _, _, _, hreturn⟩ := exists_of_gives_bind h
  cases (Run.gives_done.mp hreturn).2.1
  exact ⟨a, rfl⟩

theorem exists_kindOf_of_gives_typed {convert : Value → Bridge Native} {o : ObjectId} {e : Engine} {m m' : Machine}
    {log : List Exchange} {t : ElementType} {xs : List t.Carrier}
    (h : ((nativeOfObject convert o).run e m).Gives log (.ok (.typed t xs)) m') :
    ∃ l m₁, ((kindOf o).run e m).Gives l (.ok (.typed t)) m₁ := by
  obtain ⟨l, _, k, m₁, _, hkind, hrest⟩ := exists_of_gives_bind h
  cases k with
  | array | buffer | map | set | date =>
    obtain ⟨a, ha⟩ := exists_of_gives_map hrest
    cases ha
  | typed s =>
    obtain ⟨a, ha⟩ := exists_of_gives_map hrest
    cases ha
    exact ⟨l, m₁, hkind⟩
  | unknown => cases (Run.gives_done.mp hrest).2.1

end Bridge

end Guest

/-- What the host makes of a guest object with some prototypes. -/
structure ValueRef.Viewed {σ : Type} (handler : Handler σ) (w : World) (s : σ) (v : ValueRef) (x : Guest.Object)
    (ps : List ObjectId) : Prop where
  /-- The object has the view of the kind that its prototypes tell, and no other. -/
  view : ∀ view, (v.requireView view).result handler w s = .ok () ↔ x.kindAmong ps = view.kind
  /-- It comes out as an array of elements only if its prototypes tell so. -/
  objectToNative : ∀ t xs, v.objectToNative.result handler w s = .ok (.typed t xs) → x.kindAmong ps = .typed t
  toNative : ∀ t xs, v.toNative.result handler w s = .ok (.typed t xs) → x.kindAmong ps = .typed t
  /-- So the views of elements that it has are right exactly when its prototypes do not tell another element type than
  its own. -/
  sound : (∀ t, (v.requireView (.typed t)).result handler w s = .ok () → x.IsRow t) ↔
    ∀ t, x.kindAmong ps = .typed t → x.IsRow t
  /-- An array of elements of one type that has been given the prototype of another passes for an array of that one,
  and its bytes are read so. Where the two are the same it is read as what it is. -/
  contents : ∀ {own t : ElementType} {buffer : ObjectId} {offset length : Nat} {data : List UInt8},
    x.payload = .typedArray (.plain own) buffer offset length →
    x.proto = some (Intrinsic.elementPrototype (.plain t)) →
    (∀ k ∈ ["buffer", "byteOffset", "byteLength"], x.property? (Key.ofString k) = none) →
    (w.context v.context).machine.objects[buffer]? = some (.ofBytes data) →
    offset + length * own.width ≤ data.length → data.length < 2 ^ 53 →
    (v.requireView (.typed t)).result handler w s = .ok () ∧
    (v.contentsIn (.typed t)).result handler w s =
      .ok (.typed t (t.decode ((data.drop offset).take (length * own.width))))

theorem Guest.Object.kindAmong_chainOf {x : Guest.Object} {k : Kind} (hx : x.isArray = false)
    (hk : k ∈ Kind.builtins.tail) : x.kindAmong (Intrinsic.chainOf k) = k := by
  rw [Object.kindAmong, hx, if_neg Bool.false_ne_true]
  exact Intrinsic.kindAmong_chainOf (ofKind?_builtins k hk).2

theorem ValueRef.requireView_iff_of_kind {σ : Type} {handler : Handler σ} {w : World} {s : σ} {v : ValueRef} {k : Kind}
    (h : v.kind.result handler w s = .ok k) (view : View) :
    (v.requireView view).result handler w s = .ok () ↔ k = view.kind := by
  unfold ValueRef.requireView
  rw [Attempt.result_bind h]
  by_cases hkind : k = view.kind
  · have hsame : ¬ (k != view.kind) = true := by simp [hkind]
    rw [if_neg hsame]
    exact ⟨fun _ => hkind, fun _ => rfl⟩
  · have hother : (k != view.kind) = true := by simp [hkind]
    rw [if_pos hother]
    exact ⟨nofun, fun h => absurd h hkind⟩

namespace ValueRef

variable {σ : Type} (handler : Handler σ) (s : σ) {w : World} {v : ValueRef} {o : ObjectId} {x : Guest.Object}
  {ps : List ObjectId} (hfree : w.contextObstacle? v.context = none)
  (hpin : (w.context v.context).pins.find? v.pin = some (.object o))
  (hm : (w.context v.context).machine.Unaltered)
  (hdepth : (w.context v.context).machine.depth < (w.context v.context).machine.depthLimit)
  (hx : (w.context v.context).machine.objects[o]? = some x)
include hfree hpin hm hdepth hx

theorem contents_of_row {own t : ElementType} {buffer : ObjectId} {offset length : Nat} {data : List UInt8}
    (hrow : x.payload = .typedArray (.plain own) buffer offset length)
    (hproto : x.proto = some (Intrinsic.elementPrototype (.plain t)))
    (hown : ∀ k ∈ ["buffer", "byteOffset", "byteLength"], x.property? (Key.ofString k) = none)
    (hy : (w.context v.context).machine.objects[buffer]? = some (.ofBytes data))
    (hroom : offset + length * own.width ≤ data.length) (hlength : data.length < 2 ^ 53) :
    (v.contentsIn (.typed t)).result handler w s =
      .ok (.typed t (t.decode ((data.drop offset).take (length * own.width)))) := by
  obtain ⟨memory, hmachine⟩ := w.exists_machineFor v.context
  have hm' : (Machine.heldOn { (w.context v.context).machine with memory } (.object o)).Unaltered :=
    ⟨hm.standing, hm.functions⟩
  have hitems := hm'.typedItems_of_row_ends (n := 999996) hdepth hx hrow hproto hown hy hroom hlength
  have hends : ((View.typed t).contents o).Ends Engine.standard ((w.machineFor v.context).heldOn (.object o))
      fun a _ => a = .typed t (t.decode ((data.drop offset).take (length * own.width))) := by
    rw [hmachine]
    apply Bridge.Ends.bind hitems
    rintro _ m' ⟨rfl, -⟩
    exact .pure rfl
  obtain ⟨_, _, hresult, rfl, -⟩ := ValueRef.insideObject_of_ends hfree hpin handler s hends
  exact hresult

variable (hchain : Chain (w.context v.context).machine.objects o ps) (hshort : ps.length < 1000)
include hchain hshort

theorem kind_eq : v.kind.result handler w s = .ok (x.kindAmong ps) := by
  obtain ⟨memory, hmachine⟩ := w.exists_machineFor v.context
  have hm' : (Machine.heldOn { (w.context v.context).machine with memory } (.object o)).Unaltered :=
    ⟨hm.standing, hm.functions⟩
  have hends := hm'.kindOf_ends_of_chain (n := 999997) hdepth hx hchain hshort
  rw [← hmachine] at hends
  obtain ⟨_, _, hresult, ⟨rfl, -⟩, -⟩ := ValueRef.insideObject_of_ends hfree hpin handler s hends
  exact hresult

theorem requireView_iff (view : View) :
    (v.requireView view).result handler w s = .ok () ↔ x.kindAmong ps = view.kind :=
  requireView_iff_of_kind (kind_eq handler s hfree hpin hm hdepth hx hchain hshort) view

omit hfree hpin in
theorem kindAmong_of_gives {convert : Value → Bridge Native} {log : List Exchange} {m' : Machine} {t : ElementType}
    {xs : List t.Carrier} (hgives : ((Bridge.holding [.object o] (Bridge.nativeOfObject convert o)).run Engine.standard
      ((w.machineFor v.context).heldOn (.object o))).Gives log (.ok (.typed t xs)) m') :
    x.kindAmong ps = .typed t := by
  obtain ⟨memory, hmachine⟩ := w.exists_machineFor v.context
  have hm' : ((Machine.heldOn { (w.context v.context).machine with memory } (.object o)).rooted [.object o]).Unaltered :=
    ⟨hm.standing, hm.functions⟩
  rw [hmachine] at hgives
  obtain ⟨_, hnative, -⟩ := Bridge.gives_holding hgives
  obtain ⟨_, _, hkind⟩ := Bridge.exists_kindOf_of_gives_typed hnative
  exact (hm'.eq_of_gives_kindOf (n := 999997) hdepth hx hchain hshort hkind).symm

/-- Where the builtin objects have not been altered, an object that is no array is taken for what its prototypes tell,
whatever it is. -/
theorem viewed : v.Viewed handler w s x ps where
  view := requireView_iff handler s hfree hpin hm hdepth hx hchain hshort
  objectToNative t xs hnative := by
    obtain ⟨_, _, hgives⟩ := exists_gives_of_inside hfree hpin hnative
    exact kindAmong_of_gives hm hdepth hx hchain hshort hgives
  toNative t xs hnative := by
    obtain ⟨_, _, hgives⟩ := exists_gives_of_inside hfree hpin hnative
    exact kindAmong_of_gives hm hdepth hx hchain hshort hgives
  sound := by
    have hview (t : ElementType) := requireView_iff handler s hfree hpin hm hdepth hx hchain hshort (.typed t)
    exact forall_congr' fun t => ⟨fun h hk => h ((hview t).mpr hk), fun h hk => h ((hview t).mp hk)⟩
  contents {own t buffer offset length data} hrow hproto hkeys hy hroom hlength := by
    refine ⟨?_, contents_of_row handler s hfree hpin hm hdepth hx hrow hproto hkeys hy hroom hlength⟩
    rw [requireView_iff handler s hfree hpin hm hdepth hx hchain hshort]
    have hproxy := Object.isProxy_of_chain hchain hx
    have hown : Chain _ o (Intrinsic.chainOf (.typed t)) := ⟨x, hx, hproxy, hproto, hm.chain_elementPrototype t⟩
    rw [hchain.unique hown]
    exact Object.kindAmong_chainOf (by simp [Object.isArray, hrow]) (by cases t <;> decide)

end ValueRef

def Guest.Object.disguised (t : ElementType) (buffer : ObjectId) (length : Nat) : Object :=
  { Object.ofRow .uint8 buffer length with proto := some (Intrinsic.elementPrototype (.plain t)) }

theorem Guest.Machine.exists_disguised (t : ElementType) (data : List UInt8) : ∃ (m : Machine) (o buffer : ObjectId),
    m.Unaltered ∧ m.depth < m.depthLimit ∧ m.objects[o]? = some (.disguised t buffer data.length) ∧
    m.objects[buffer]? = some (.ofBytes data) := by
  refine ⟨{ Realm.initial with
    depthLimit := callDepthLimit
    objects := (Realm.initial.objects.push (.ofBytes data)).push (.disguised t Realm.initial.objects.size data.length) },
    Realm.initial.objects.size + 1, Realm.initial.objects.size,
    Machine.unaltered_initial.keep ((Keeps.push _).trans (.push _)), ?_, ?_, ?_⟩
  · exact (by decide : 0 < callDepthLimit)
  · rw [Array.getElem?_push, Array.size_push, if_pos rfl]
  · rw [Array.getElem?_push, Array.size_push, if_neg (by omega), Array.getElem?_push, if_pos rfl]

def World.holding (m : Machine) (x : Value) : World where
  runtimes := #[{ openContexts := 1 }]
  contexts := #[{ machine := m, pins := (({} : Pins).add x).2 }]

/-- An array of bytes that has been given the prototype of the arrays of doubles has their view, and not its own, and its
bytes come out as a double. -/
theorem viewed_disguised : ∃ (w : World) (v : ValueRef) (o : ObjectId) (x : Guest.Object) (ps : List ObjectId),
    w.contextObstacle? v.context = none ∧ (w.context v.context).pins.find? v.pin = some (.object o) ∧
    (w.context v.context).machine.Unaltered ∧
    (w.context v.context).machine.depth < (w.context v.context).machine.depthLimit ∧
    (w.context v.context).machine.objects[o]? = some x ∧ Chain (w.context v.context).machine.objects o ps ∧
    ps.length < 1000 ∧ x.IsRow .uint8 ∧
    ∀ (handler : Handler Unit), v.Viewed handler w () x ps ∧
      (v.requireView (.typed .float64)).result handler w () = .ok () ∧
      (v.requireView (.typed .uint8)).result handler w () ≠ .ok () ∧
      (v.contentsIn (.typed .float64)).result handler w () = .ok (.typed .float64 [⟨0x0807060504030201⟩]) := by
  obtain ⟨m, o, buffer, hm, hdepth, hx, hy⟩ := Machine.exists_disguised .float64 [1, 2, 3, 4, 5, 6, 7, 8]
  have hchain : Chain m.objects o (Intrinsic.chainOf (.typed .float64)) :=
    ⟨_, hx, rfl, rfl, hm.chain_elementPrototype .float64⟩
  refine ⟨.holding m (.object o), ⟨⟨0⟩, 0⟩, o, _, _, rfl, rfl, hm, hdepth, hx, hchain, by decide, ⟨_, _, _, rfl⟩,
    fun handler => ?_⟩
  have hviewed := ValueRef.viewed handler () (w := .holding m (.object o)) (v := ⟨⟨0⟩, 0⟩) rfl rfl hm
    hdepth hx hchain (by decide)
  obtain ⟨hview, hcontents⟩ := hviewed.contents (t := .float64) rfl rfl (fun _ _ => rfl) hy (by decide) (by decide)
  have hkind : (Guest.Object.disguised .float64 buffer 8).kindAmong (Intrinsic.chainOf (.typed .float64)) =
      .typed .float64 := Object.kindAmong_chainOf rfl (by decide)
  refine ⟨hviewed, hview, fun hbytes => ?_, hcontents⟩
  cases hkind.symm.trans ((hviewed.view (.typed .uint8)).mp hbytes)

end Embedding
