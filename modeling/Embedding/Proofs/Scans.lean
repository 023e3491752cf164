import Embedding.Proofs.NoThrow
import Embedding.Proofs.Views

namespace Embedding

open Guest

namespace Guest

/-- The test for a kind: whether the object is an instance of the constructor that the realm has for it. -/
def Bridge.instanceTest (o : ObjectId) (k : Kind) : Act Bool :=
  match Intrinsic.ofKind? k with
  | some c => Act.instanceOf (.object o) (.object c)
  | none => return false

/-- What the tests do to the machine is kept, but for what they have borrowed. -/
def Machine.returned (m m' : Machine) : Machine := { m' with borrows := m.borrows }

namespace Bridge

variable {e : Engine} {o : ObjectId} {m m₁ m' : Machine} {log l₁ l₂ : List Exchange} {k : Kind} {ks : List Kind}

theorem isInstanceOf_eq : isInstanceOf o k = passes (instanceTest o k) := by
  unfold isInstanceOf instanceTest
  cases Intrinsic.ofKind? k <;> rfl

theorem reaches_passes {test : Act Bool} {r : Except Cut Bool} : (passes test e m).Reaches log r m' ↔
    (∃ v, (test e m).Reaches log (.error (.threw v)) m' ∧ r = .ok true) ∨
      (test e m).Reaches log r m' ∧ ∀ v, r ≠ .error (.threw v) := by
  refine (Run.reaches_orElse (f := fun _ m => .done true m)).trans (or_congr_left ?_)
  constructor
  · rintro ⟨l₁, l₂, v, m₁, rfl, htest, hdone⟩
    obtain ⟨rfl, rfl, rfl⟩ := Run.reaches_done.mp hdone
    exact ⟨v, by rwa [List.append_nil], rfl⟩
  · rintro ⟨v, htest, rfl⟩
    exact ⟨log, [], v, m', (List.append_nil log).symm, htest, .done⟩

/-- Kinds that an object is tested for in turn, and all tests say no. -/
inductive Excluded (e : Engine) (o : ObjectId) : Machine → List Kind → List Exchange → Machine → Prop where
  | nil {m : Machine} : Excluded e o m [] [] m
  | cons {m m₁ m₂ : Machine} {k : Kind} {ks : List Kind} {l₁ l₂ : List Exchange} :
      (instanceTest o k e m).Reaches l₁ (.ok false) m₁ → Excluded e o m₁ ks l₂ m₂ →
      Excluded e o m (k :: ks) (l₁ ++ l₂) m₂

inductive Verdict (k : Kind) : Except Cut Bool → Except Cut (Option Kind) → Prop where
  | yes : Verdict k (.ok true) (.ok (some k))
  | threw {v : Value} : Verdict k (.error (.threw v)) (.ok (some k))
  | stopped {why : Stop} : Verdict k (.error (.stopped why)) (.error (.stopped why))

theorem firstKind_cons : firstKind o (k :: ks) e m = (passes (instanceTest o k) e m).andThen fun passed m =>
    if passed then .done (some k) m else firstKind o ks e m := by
  rw [firstKind, isInstanceOf_eq, Act.run_bind]
  congr 1
  funext passed m
  cases passed <;> rfl

theorem reaches_firstKind_of_verdict {z : Except Cut Bool} {r : Except Cut (Option Kind)} {before after : List Kind}
    (hbefore : Excluded e o m before l₁ m₁) (htest : (instanceTest o k e m₁).Reaches l₂ z m') (hz : Verdict k z r) :
    (firstKind o (before ++ k :: after) e m).Reaches (l₁ ++ l₂) r m' := by
  induction hbefore with
  | nil =>
    rw [List.nil_append, List.nil_append, firstKind_cons]
    cases hz with
    | yes =>
      rw [← List.append_nil l₂]
      exact (reaches_passes.mpr (.inr ⟨htest, nofun⟩)).andThen .done
    | threw =>
      rw [← List.append_nil l₂]
      exact (reaches_passes.mpr (.inl ⟨_, htest, rfl⟩)).andThen .done
    | stopped => exact (reaches_passes.mpr (.inr ⟨htest, nofun⟩)).andThen_of_cut
  | cons hno _ ih =>
    rw [List.cons_append, List.append_assoc, firstKind_cons]
    exact (reaches_passes.mpr (.inr ⟨hno, nofun⟩)).andThen (ih htest)

theorem reaches_firstKind_of_excluded (h : Excluded e o m ks log m') :
    (firstKind o ks e m).Reaches log (.ok none) m' := by
  induction h with
  | nil => exact .done
  | cons hno _ ih =>
    rw [firstKind_cons]
    exact (reaches_passes.mpr (.inr ⟨hno, nofun⟩)).andThen ih

theorem reaches_testKinds_of_first (harray : (Act.isArray o e m).Reaches l₁ (.ok false) m₁)
    (hfirst : (firstKind o Kind.builtins.tail e m₁).Reaches l₂ (.ok (some k)) m') {r : Except Failure Kind}
    {m₂ : Machine} : (testKinds o).Reaches e m ((l₁ ++ l₂) ++ log) r m₂ ↔
      log = [.asked (.report (.kindResolved k)) ()] ∧ r = .ok k ∧ m₂ = m' := by
  have harray' : (ofGuest (passes (Act.isArray o))).Reaches e m l₁ (.ok false) m₁ :=
    reaches_ofGuest_ok.mpr (reaches_passes.mpr (.inr ⟨harray, nofun⟩))
  have hfirst' : (ofGuest (firstKind o Kind.builtins.tail)).Reaches e m₁ l₂ (.ok (some k)) m' :=
    reaches_ofGuest_ok.mpr hfirst
  unfold testKinds
  rw [List.append_assoc, harray'.bind_iff]
  simp only [Bool.false_eq_true, if_false]
  rw [hfirst'.bind_iff]
  simp only
  rw [reaches_bind]
  constructor
  · rintro (⟨k₁, k₂, u, m₃, rfl, hask, hreturn⟩ | ⟨failure, rfl, hask⟩)
    · obtain ⟨_, rfl, -, rfl⟩ := reaches_ask.mp hask
      obtain ⟨rfl, rfl, rfl⟩ := reaches_pure.mp hreturn
      exact ⟨rfl, rfl, rfl⟩
    · obtain ⟨_, -, ⟨⟩, -⟩ := reaches_ask.mp hask
  · rintro ⟨rfl, rfl, rfl⟩
    exact .inl ⟨_, [], (), m₂, rfl, reaches_ask.mpr ⟨(), rfl, rfl, rfl⟩, reaches_pure.mpr ⟨rfl, rfl, rfl⟩⟩

/-- The ways of the tests on which none throws, and what kind they tell: an array, else one of the first kind of whose
constructor the object is an instance, else one of no kind. -/
inductive Scanned (e : Engine) (o : ObjectId) (m : Machine) : List Exchange → Kind → Machine → Prop where
  | array {way : List Exchange} {m' : Machine} (harray : (Act.isArray o e m).Reaches way (.ok true) m') :
      Scanned e o m way .array m'
  | first {before after : List Kind} {k : Kind} {l₀ l₁ l₂ : List Exchange} {m₀ m₁ m' : Machine}
      (hkinds : Kind.builtins.tail = before ++ k :: after) (harray : (Act.isArray o e m).Reaches l₀ (.ok false) m₀)
      (hbefore : Excluded e o m₀ before l₁ m₁) (htest : (instanceTest o k e m₁).Reaches l₂ (.ok true) m') :
      Scanned e o m ((l₀ ++ (l₁ ++ l₂)) ++ [.asked (.report (.kindResolved k)) ()]) k m'
  | unknown {l₀ l₁ : List Exchange} {m₀ m' : Machine} (harray : (Act.isArray o e m).Reaches l₀ (.ok false) m₀)
      (hall : Excluded e o m₀ Kind.builtins.tail l₁ m') : Scanned e o m (l₀ ++ l₁) .unknown m'

theorem reaches_testKinds_of_scanned {way : List Exchange} (h : Scanned e o m way k m') {r : Except Failure Kind}
    {m₂ : Machine} : (testKinds o).Reaches e m (way ++ log) r m₂ ↔ log = [] ∧ r = .ok k ∧ m₂ = m' := by
  have hpassed {l : List Exchange} {isArray : Bool} {m₁ : Machine} (h : (Act.isArray o e m).Reaches l (.ok isArray) m₁) :
      (ofGuest (passes (Act.isArray o))).Reaches e m l (.ok isArray) m₁ :=
    reaches_ofGuest_ok.mpr (reaches_passes.mpr (.inr ⟨h, nofun⟩))
  cases h with
  | array harray =>
    unfold testKinds
    rw [(hpassed harray).bind_iff]
    simp only [if_true]
    exact reaches_pure
  | first hkinds harray hbefore htest =>
    have hfirst : (firstKind o Kind.builtins.tail e _).Reaches _ (.ok (some k)) m' :=
      hkinds ▸ reaches_firstKind_of_verdict hbefore htest .yes
    rw [List.append_assoc, reaches_testKinds_of_first harray hfirst]
    simp
  | unknown harray hall =>
    have hnone : (ofGuest (firstKind o Kind.builtins.tail)).Reaches e _ _ (.ok none) m' :=
      reaches_ofGuest_ok.mpr (reaches_firstKind_of_excluded hall)
    unfold testKinds
    rw [List.append_assoc, (hpassed harray).bind_iff]
    simp only [Bool.false_eq_true, if_false]
    rw [hnone.bind_iff]
    exact reaches_pure

theorem reaches_kindOf_live {r : Except Failure Kind} :
    (kindOf o).Reaches e m (.asked .isReleased false :: log) r m' ↔
      ∃ m₁, (testKinds o).Reaches e m.borrowed log r m₁ ∧ m' = m.returned m₁ := by
  have hlive : requireLive.Reaches e m [.asked .isReleased false] (.ok ()) m :=
    reaches_requireLive.mpr ⟨rfl, .inl ⟨rfl, rfl⟩⟩
  rw [kindOf_eq, ← List.singleton_append, hlive.bind_iff]
  exact reaches_borrowing

theorem reaches_kindOf_of_tests {way : List Exchange} {p : Prop}
    (h : ∀ r m₂, (testKinds o).Reaches e m.borrowed way r m₂ ↔ p ∧ r = .ok k ∧ m₂ = m₁) {r : Except Failure Kind}
    {m₂ : Machine} : (kindOf o).Reaches e m (.asked .isReleased false :: way) r m₂ ↔
      p ∧ r = .ok k ∧ m₂ = m.returned m₁ := by
  rw [reaches_kindOf_live]
  simp only [h]
  constructor
  · rintro ⟨_, ⟨hp, hr, rfl⟩, hm⟩
    exact ⟨hp, hr, hm⟩
  · rintro ⟨hp, hr, hm⟩
    exact ⟨m₁, ⟨hp, hr, rfl⟩, hm⟩

/-- On a way on which no test throws the host finds the kind that they tell, and nothing else can happen. -/
theorem reaches_kindOf_of_scanned {way : List Exchange} (h : Scanned e o m.borrowed way k m₁) {r : Except Failure Kind}
    {m₂ : Machine} : (kindOf o).Reaches e m (.asked .isReleased false :: (way ++ log)) r m₂ ↔
      log = [] ∧ r = .ok k ∧ m₂ = m.returned m₁ :=
  reaches_kindOf_of_tests fun _ _ => reaches_testKinds_of_scanned h

end Bridge

end Guest

/-- An object that is taken for one of a kind when its tests have gone some way, whoever the host is. -/
structure Guest.Bridge.TakenFor (e : Engine) (o : ObjectId) (m : Machine) (way : List Exchange) (k : Kind)
    (m' : Machine) : Prop where
  /-- The kind is reported, nothing else is done, and there is no error. -/
  kind : ∀ log r m₁, (kindOf o).Reaches e m (way ++ log) r m₁ ↔
    log = [.asked (.report (.kindResolved k)) ()] ∧ r = .ok k ∧ m₁ = m'
  /-- The conversion goes on with the parts that an object of the kind has. -/
  whole : ∀ convert log r m₁,
    (nativeOfObject convert o).Reaches e m (way ++ .asked (.report (.kindResolved k)) () :: log) r m₁ ↔
      (takenFor convert o k).Reaches e m' log r m₁
  /-- So a host is told that takes this way, and it gets the view of the kind, and no other. -/
  host : ∀ {σ : Type} (handler : Handler σ) (w : World) (s : σ) (v : ValueRef), e = Engine.standard →
    w.contextObstacle? v.context = none → (w.context v.context).pins.find? v.pin = some (.object o) →
    (w.machineFor v.context).heldOn (.object o) = m →
    way <+: v.wayInside handler w s (.object o) (fun
      | .object o => kindOf o
      | _ => throw (.conversion "non-object value" "object")) →
    v.kind.result handler w s = .ok k ∧
      ∀ view, (v.requireView view).result handler w s = .ok () ↔ k = view.kind

namespace Guest.Bridge

variable {e : Engine} {o : ObjectId} {m m₀ m₁ m₂ : Machine} {l₀ l₁ l₂ : List Exchange} {before after : List Kind}
  {k : Kind} {v : Value}

/-- An object that is no array is taken for one of the first kind whose test does not say no. So it is when the test
throws: what it throws is not reported, no other test is made, and the object passes for one of that kind. -/
theorem takenFor_of_threw (hkinds : Kind.builtins.tail = before ++ k :: after)
    (harray : (Act.isArray o e m.borrowed).Reaches l₀ (.ok false) m₀) (hbefore : Excluded e o m₀ before l₁ m₁)
    (hthrew : (instanceTest o k e m₁).Reaches l₂ (.error (.threw v)) m₂) :
    TakenFor e o m (.asked .isReleased false :: (l₀ ++ (l₁ ++ l₂))) k (m.returned m₂) := by
  have hfirst : (firstKind o Kind.builtins.tail e m₀).Reaches (l₁ ++ l₂) (.ok (some k)) m₂ := by
    rw [hkinds]
    exact reaches_firstKind_of_verdict hbefore hthrew .threw
  have hkind (log r m') : (kindOf o).Reaches e m (.asked .isReleased false :: (l₀ ++ (l₁ ++ l₂)) ++ log) r m' ↔
      log = [.asked (.report (.kindResolved k)) ()] ∧ r = .ok k ∧ m' = m.returned m₂ := by
    exact reaches_kindOf_of_tests fun _ _ => reaches_testKinds_of_first harray hfirst
  refine ⟨hkind, fun convert log r m' => ?_, ?_⟩
  · have htaken := (hkind _ _ _).mpr ⟨rfl, rfl, rfl⟩
    rw [nativeOfObject_eq, List.append_cons]
    exact htaken.bind_iff
  · rintro σ handler w s u rfl hfree hpin rfl ⟨log, hway⟩
    obtain ⟨r, m', hreaches, hresult⟩ := ValueRef.exists_reaches_inside (f := fun
      | .object o => kindOf o
      | _ => throw (.conversion "non-object value" "object")) hfree hpin handler s
    rw [← hway] at hreaches
    obtain ⟨-, rfl, -⟩ := (hkind _ _ _).mp (reaches_of_caught (fun _ _ _ => (quiet_kindOf o).not_reaches) hreaches)
    exact ⟨hresult, ValueRef.requireView_iff_of_kind hresult⟩

end Guest.Bridge

namespace Guest

theorem Act.exists_run_raise {α : Type} (kind : ErrorKind) (message : String) (e : Engine) (m : Machine) :
    ∃ v m', (raise kind message : Act α) e m = .threw v m' := by
  unfold raise
  rw [run_bind_of_done (show newError kind message e m = .done m.objects.size _ from rfl)]
  have hframes (n : Machine) : ∃ b, inGuestCode e n = .done b n := by
    unfold inGuestCode
    rw [run_bind_of_done run_machine]
    cases n.frames with
    | nil => exact ⟨_, rfl⟩
    | cons f fs => exact ⟨_, rfl⟩
  obtain ⟨b, hb⟩ := hframes _
  rw [run_bind_of_done hb]
  cases b <;> exact ⟨_, _, rfl⟩

theorem Bridge.instanceTest_threw {n : Nat} {m : Machine} {o c : ObjectId} {k : Kind} {x : Object} {d : Double}
    (hc : Intrinsic.ofKind? k = some c) (hx : m.objects[c]? = some x)
    (hreads : x.Reads (.symbol Symbol.hasInstance) (some (.plain (.number d)))) :
    ∃ v m', (instanceTest o k (Engine.ofLevel (n + 1)) m).Reaches [] (.error (.threw v)) m' := by
  have hget : Act.get (.object c) (.symbol Symbol.hasInstance) (Engine.ofLevel (n + 1)) m = .done (.number d) m :=
    Act.get_own hx hreads
  obtain ⟨v, m', hraise⟩ := Act.exists_run_raise (α := Value) .type "not a function" (Engine.ofLevel n) m
  have hcall : Act.call (.number d) (.object c) [.object o] (Engine.ofLevel (n + 1)) m = .threw v m' := hraise
  have hrun : instanceTest o k (Engine.ofLevel (n + 1)) m = .threw v m' := by
    unfold instanceTest Act.instanceOf
    simp only [hc]
    show (Act.get (.object c) (.symbol Symbol.hasInstance) >>= _) _ m = _
    rw [Act.run_bind_of_done hget]
    show (Act.call (.number d) (.object c) [.object o] >>= _) _ m = _
    rw [Act.run_bind, hcall]
    rfl
  exact ⟨v, m', hrun ▸ .threw⟩

/-- The constructor of buffers has been given a number to test for its instances, and there is an object besides. -/
theorem Machine.exists_uncallable : ∃ (m : Machine) (o : ObjectId) (x y : Object),
    m.objects[Intrinsic.bufferConstructor]? = some x ∧
    x.Reads (.symbol Symbol.hasInstance) (some (.plain (.number Double.zero))) ∧
    m.objects[o]? = some y ∧ y.isProxy = false ∧ y.isArray = false := by
  have hsite := constructorSite_of_kind (k := .buffer) rfl nofun
  obtain ⟨b, hb⟩ := hsite.exists_payload
  have hsize : Intrinsic.bufferConstructor < Realm.initial.objects.size :=
    (Array.getElem?_eq_some_iff.mp (Realm.getElem?_initial hsite.isSome_siteAt?)).1
  refine ⟨{ Realm.initial with
    objects := (Realm.initial.objects.push { proto := some Intrinsic.objectPrototype }).modify
      Intrinsic.bufferConstructor (·.putProperty (.symbol Symbol.hasInstance) (.plain (.number Double.zero))) },
    Realm.initial.objects.size, (Realm.builtin Intrinsic.bufferConstructor).putProperty
      (.symbol Symbol.hasInstance) (.plain (.number Double.zero)),
    { proto := some Intrinsic.objectPrototype }, ?_, ?_, ?_, rfl, rfl⟩
  · rw [Array.getElem?_modify, if_pos rfl, Array.getElem?_push, if_neg (Nat.ne_of_lt hsize),
      Realm.getElem?_initial hsite.isSome_siteAt?, Option.map_some]
  · exact Object.reads_of_isTable (by rw [Object.payload_putProperty, hb]; rfl)
      (by rw [Object.property?_putProperty, if_pos rfl]) (by rintro _ ⟨⟩; nofun)
  · rw [Array.getElem?_modify, if_neg (Nat.ne_of_lt hsize)]
    exact Array.getElem?_push_size

/-- An object that has nothing to do with buffers passes for one when the test for buffers throws. -/
theorem Bridge.takenFor_of_threw_uncallable : ∃ (m : Machine) (o : ObjectId) (v : Value) (m' : Machine),
    (Act.isArray o Engine.standard m.borrowed).Reaches [] (.ok false) m.borrowed ∧
    (instanceTest o .buffer Engine.standard m.borrowed).Reaches [] (.error (.threw v)) m' ∧
    TakenFor Engine.standard o m [.asked .isReleased false] .buffer (m.returned m') := by
  obtain ⟨m, o, x, y, hx, hreads, hy, hproxy, hplain⟩ := Machine.exists_uncallable
  have harray : (Act.isArray o Engine.standard m.borrowed).Reaches [] (.ok false) m.borrowed := by
    have hrun := Bridge.run_isArray (n := 999999) (m := m.borrowed) hy hproxy
    rw [hplain] at hrun
    exact hrun ▸ .done
  obtain ⟨v, m', hthrew⟩ := instanceTest_threw (n := 999999) (m := m.borrowed) (o := o) (k := .buffer) rfl hx hreads
  have hkinds : Kind.builtins.tail = [] ++ .buffer :: Kind.builtins.tail.tail := rfl
  exact ⟨m, o, v, m', harray, hthrew, takenFor_of_threw hkinds harray .nil hthrew⟩

end Guest

end Embedding
