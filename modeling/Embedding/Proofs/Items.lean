import Embedding.Proofs.Arrays
import Embedding.Proofs.RunOutcomes

namespace Embedding.Guest

variable {α β : Type}

namespace Bridge

variable {e : Engine} {m m' : Machine} {log : List Exchange} {o : ObjectId}

theorem not_reaches_wrongType_ok {v : Value} {wanted : String} {a : α} :
    ¬ (wrongType v wanted : Bridge α).Reaches e m log (.ok a) m' := by
  intro h
  rcases reaches_bind.mp h with ⟨_, _, _, _, _, -, hthrow⟩ | ⟨_, ⟨⟩, -⟩
  obtain ⟨-, hseen, -⟩ := (reaches_of_run_done (run_throw _)).mp hthrow
  cases hseen

theorem reaches_asDouble_ok {v : Value} {d : Double} :
    (asDouble v).Reaches e m log (.ok d) m' ↔ v = .number d ∧ log = [] ∧ m' = m := by
  constructor
  · intro h
    cases v with
    | number d' =>
      obtain ⟨rfl, hd, rfl⟩ := reaches_pure.mp h
      cases hd
      exact ⟨rfl, rfl, rfl⟩
    | _ => exact absurd h not_reaches_wrongType_ok
  · rintro ⟨rfl, rfl, rfl⟩
    exact reaches_pure.mpr ⟨rfl, rfl, rfl⟩

theorem reaches_getProperty_of_get {name : String} {v : Value} {r : Except Failure Value}
    (hget : e.get o name (.object o) m = .done v m) :
    (getProperty o name).Reaches e m log r m' ↔ log = [] ∧ r = .ok v ∧ m' = m :=
  reaches_of_run_ok (run_check_of_done hget)

theorem reaches_countOf_ok {name : String} {k : Nat} : (countOf o name).Reaches e m log (.ok k) m' ↔
    ∃ d : Double, (getProperty o name).Reaches e m log (.ok (.number d)) m' ∧ k = d.word := by
  unfold countOf
  rw [reaches_bind]
  constructor
  · rintro (⟨l₁, _, v, m₁, rfl, hget, hrest⟩ | ⟨_, ⟨⟩, -⟩)
    rcases reaches_bind.mp hrest with ⟨k₁, k₂, d, m₂, rfl, hdouble, hreturn⟩ | ⟨_, ⟨⟩, -⟩
    obtain ⟨rfl, rfl, rfl⟩ := reaches_asDouble_ok.mp hdouble
    obtain ⟨rfl, hk, rfl⟩ := reaches_pure.mp hreturn
    cases hk
    exact ⟨d, by simpa using hget, rfl⟩
  · rintro ⟨d, hget, rfl⟩
    refine .inl ⟨log, [], .number d, m', (List.append_nil log).symm, hget, ?_⟩
    exact reaches_bind.mpr (.inl ⟨[], [], d, m', rfl, reaches_asDouble_ok.mpr ⟨rfl, rfl, rfl⟩,
      reaches_pure.mpr ⟨rfl, rfl, rfl⟩⟩)

/-- At each place of a row there is a moment at which what is before it has been done, and what is behind it has not. -/
theorem InTurn.exists_at {f : α → Bridge β} {as : List α} {bs : List β} (h : InTurn f e m as log bs m') {i : Nat} {b : β}
    (hb : bs[i]? = some b) : ∃ a l₁ l₂ l₃ m₁ m₂, as[i]? = some a ∧ log = l₁ ++ (l₂ ++ l₃) ∧
      InTurn f e m (as.take i) l₁ (bs.take i) m₁ ∧ (f a).Reaches e m₁ l₂ (.ok b) m₂ ∧
      InTurn f e m₂ (as.drop (i + 1)) l₃ (bs.drop (i + 1)) m' := by
  induction h generalizing i with
  | nil => cases hb
  | cons ha hrest ih =>
    cases i with
    | zero =>
      cases hb
      exact ⟨_, [], _, _, _, _, rfl, rfl, .nil, ha, hrest⟩
    | succ i =>
      obtain ⟨a, l₁, l₂, l₃, m₁, m₂, has, rfl, hbefore, hb, hafter⟩ := ih hb
      exact ⟨a, _, l₂, l₃, m₁, m₂, has, (List.append_assoc ..).symm, .cons ha hbefore, hb, hafter⟩

/-- The host form of what is read at a place of an array. -/
def itemNative (convert : Value → Bridge Native) (o : ObjectId) (i : Nat) : Bridge Native := do
  let v ← itemAt o i
  holding [v] (convert v)

variable {convert : Value → Bridge Native}

theorem arrayItems_eq (convert : Value → Bridge Native) (o : ObjectId) : arrayItems convert o =
    countOf o "length" >>= fun k => (List.range (k % 2 ^ 32)).mapM (itemNative convert o) := rfl

theorem reaches_itemNative_ok {i : Nat} {t : Native} : (itemNative convert o i).Reaches e m log (.ok t) m' ↔
    ∃ l₁ l₂ v m₁ m₂, log = l₁ ++ l₂ ∧ (itemAt o i).Reaches e m l₁ (.ok v) m₁ ∧
      (convert v).Reaches e (m₁.rooted [v]) l₂ (.ok t) m₂ ∧ m' = { m₂ with roots := m₁.roots } := by
  rw [itemNative, reaches_bind]
  constructor
  · rintro (⟨l₁, l₂, v, m₁, rfl, hread, hheld⟩ | ⟨_, ⟨⟩, -⟩)
    obtain ⟨m₂, hconvert, rfl⟩ := reaches_holding.mp hheld
    exact ⟨l₁, l₂, v, m₁, m₂, rfl, hread, hconvert, rfl⟩
  · rintro ⟨l₁, l₂, v, m₁, m₂, rfl, hread, hconvert, rfl⟩
    exact .inl ⟨l₁, l₂, v, m₁, rfl, hread, reaches_holding.mpr ⟨m₂, hconvert, rfl⟩⟩

theorem reaches_arrayItems_ok {ts : List Native} : (arrayItems convert o).Reaches e m log (.ok ts) m' ↔
    ∃ l₁ l₂ d m₁, log = l₁ ++ l₂ ∧ (getProperty o "length").Reaches e m l₁ (.ok (.number d)) m₁ ∧
      InTurn (itemNative convert o) e m₁ (List.range (d.word % 2 ^ 32)) l₂ ts m' := by
  rw [arrayItems_eq, reaches_bind]
  constructor
  · rintro (⟨l₁, l₂, k, m₁, rfl, hcount, hrow⟩ | ⟨_, ⟨⟩, -⟩)
    obtain ⟨d, hget, rfl⟩ := reaches_countOf_ok.mp hcount
    exact ⟨l₁, l₂, d, m₁, rfl, hget, reaches_mapM_ok.mp hrow⟩
  · rintro ⟨l₁, l₂, d, m₁, rfl, hget, hrow⟩
    exact .inl ⟨l₁, l₂, _, m₁, rfl, reaches_countOf_ok.mpr ⟨d, hget, rfl⟩, reaches_mapM_ok.mpr hrow⟩

theorem reaches_arrayItems_error {failure : Failure} : (arrayItems convert o).Reaches e m log (.error failure) m' ↔
    (∃ l₁ l₂ d m₁, log = l₁ ++ l₂ ∧ (getProperty o "length").Reaches e m l₁ (.ok (.number d)) m₁ ∧
      FailsAt (itemNative convert o) e m₁ (List.range (d.word % 2 ^ 32)) l₂ failure m') ∨
      (countOf o "length").Reaches e m log (.error failure) m' := by
  rw [arrayItems_eq, reaches_bind]
  constructor
  · rintro (⟨l₁, l₂, k, m₁, rfl, hcount, hrow⟩ | ⟨_, ⟨⟩, hcount⟩)
    · obtain ⟨d, hget, rfl⟩ := reaches_countOf_ok.mp hcount
      exact .inl ⟨l₁, l₂, d, m₁, rfl, hget, reaches_mapM_error.mp hrow⟩
    · exact .inr hcount
  · rintro (⟨l₁, l₂, d, m₁, rfl, hget, hrow⟩ | hcount)
    · exact .inl ⟨l₁, l₂, _, m₁, rfl, reaches_countOf_ok.mpr ⟨d, hget, rfl⟩, reaches_mapM_error.mpr hrow⟩
    · exact .inr ⟨failure, rfl, hcount⟩

theorem reaches_toNativeWithin_undefined {depth : Nat} {r : Except Failure Native} :
    (toNativeWithin (depth + 1) .undefined).Reaches e m log r m' ↔ log = [] ∧ r = .ok .null ∧ m' = m :=
  reaches_pure

/-- What becomes of an array that is taken apart. -/
structure ItemsTaken (convert : Value → Bridge Native) (e : Engine) (o : ObjectId) (m : Machine) : Prop where
  /-- Who asks for the length is told the whole word of the number that is there. -/
  counted : ∀ log k m', (countOf o "length").Reaches e m log (.ok k) m' ↔
    ∃ d : Double, (getProperty o "length").Reaches e m log (.ok (.number d)) m' ∧ k = d.word
  /-- The array comes out if the places below the lower half of that word can be read and converted, one after the
  other. -/
  gives : ∀ log ts m', (arrayItems convert o).Reaches e m log (.ok ts) m' ↔
    ∃ l₁ l₂ d m₁, log = l₁ ++ l₂ ∧ (getProperty o "length").Reaches e m l₁ (.ok (.number d)) m₁ ∧
      InTurn (itemNative convert o) e m₁ (List.range (d.word % 2 ^ 32)) l₂ ts m'
  /-- So there are as many items as were counted only if that number has thirty-two bits. -/
  number : ∀ (d : Double) log ts m₁ m', InTurn (itemNative convert o) e m₁ (List.range (d.word % 2 ^ 32)) log ts m' →
    ts.length = d.word % 2 ^ 32 ∧ (ts.length = d.word ↔ d.word < 2 ^ 32)
  /-- An item is what its place is read as, and converted to, when all places below have been and none above. -/
  item : ∀ count log ts m₁ m', InTurn (itemNative convert o) e m₁ (List.range count) log ts m' →
    ∀ i t, ts[i]? = some t → ∃ l₁ l₂ l₃ l₄ v m₂ m₃ m₄, log = l₁ ++ (l₂ ++ l₃ ++ l₄) ∧
      InTurn (itemNative convert o) e m₁ (List.range i) l₁ (ts.take i) m₂ ∧
      (itemAt o i).Reaches e m₂ l₂ (.ok v) m₃ ∧ (convert v).Reaches e (m₃.rooted [v]) l₃ (.ok t) m₄ ∧
      InTurn (itemNative convert o) e { m₄ with roots := m₃.roots } ((List.range count).drop (i + 1)) l₄
        (ts.drop (i + 1)) m'
  hole : ∀ {m₁ x i}, m₁.Unaltered → m₁.objects[o]? = some x → i < 2 ^ 32 - 1 → x.item? i = some .undefined →
    ∀ log r m', (itemAt o i).Reaches e m₁ log r m' ↔ log = [] ∧ r = .ok .undefined ∧ m' = m₁
  undefined : ∀ depth m₁ log r m', (toNativeWithin (depth + 1) .undefined).Reaches e m₁ log r m' ↔
    log = [] ∧ r = .ok .null ∧ m' = m₁
  /-- It fails as the length does, or else as the first of those places. -/
  fails : ∀ log failure m', (arrayItems convert o).Reaches e m log (.error failure) m' ↔
    (∃ l₁ l₂ d m₁, log = l₁ ++ l₂ ∧ (getProperty o "length").Reaches e m l₁ (.ok (.number d)) m₁ ∧
      FailsAt (itemNative convert o) e m₁ (List.range (d.word % 2 ^ 32)) l₂ failure m') ∨
      (countOf o "length").Reaches e m log (.error failure) m'
  /-- That is all that is done with an object that has been taken for an array. -/
  whole : ∀ (start : Machine) (l : List Exchange), (kindOf o).Reaches e start l (.ok .array) m → ∀ log r m',
    (nativeOfObject convert o).Reaches e start (l ++ log) r m' ↔
      ∃ r₀, (arrayItems convert o).Reaches e m log r₀ m' ∧ r = r₀.map Native.array

/-- Whatever guest code runs when an array is taken apart, the items are what the places hold when they are read. -/
theorem itemsTaken (convert : Value → Bridge Native) (o : ObjectId) (m : Machine) (n : Nat) :
    ItemsTaken convert (Engine.ofLevel (n + 3)) o m where
  counted _ _ _ := reaches_countOf_ok
  gives _ _ _ := reaches_arrayItems_ok
  number d log ts m₁ m' hrow := by
    have hlength : ts.length = d.word % 2 ^ 32 := hrow.length.trans List.length_range
    exact ⟨hlength, by omega⟩
  item count log ts m₁ m' hrow i t ht := by
    obtain ⟨j, l₁, _, l₄, m₂, _, hj, rfl, hbefore, hitem, hafter⟩ := hrow.exists_at ht
    obtain ⟨hlt, rfl⟩ := List.getElem?_eq_some_iff.mp hj
    rw [List.getElem_range] at hitem
    obtain ⟨l₂, l₃, v, m₃, m₄, rfl, hread, hconvert, rfl⟩ := reaches_itemNative_ok.mp hitem
    rw [List.take_range, Nat.min_eq_left (by simpa using Nat.le_of_lt hlt)] at hbefore
    exact ⟨l₁, l₂, l₃, l₄, v, m₂, m₃, m₄, rfl, hbefore, hread, hconvert, hafter⟩
  hole hm hx hi hhole log r m' :=
    reaches_of_run_ok (run_check_of_done (hm.get_item hx hi hhole (.object o)))
  undefined _ _ _ _ _ := reaches_toNativeWithin_undefined
  fails _ _ _ := reaches_arrayItems_error
  whole start l hkind log r m' := by
    rw [nativeOfObject_eq, hkind.bind_iff]
    exact reaches_map

end Bridge

end Embedding.Guest
