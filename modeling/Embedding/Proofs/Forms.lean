import Embedding.Guest.Collect
import Embedding.Proofs.Needs
import Embedding.Proofs.Shows

namespace Embedding

namespace Native

mutual

/-- What the guest form of a host value needs, in the order in which it is asked for. -/
def needs : Native → List Guest.Need
  | .array items => needsOfItems items
  | .set items => needsOfItems items
  | .map entries => needsOfEntries entries
  | .function f => [.function f]
  | .unmapped => [.passage]
  | .null => []
  | .bool _ => []
  | .int _ => []
  | .float _ => []
  | .bigint _ => []
  | .string _ => []
  | .bytes _ => []
  | .typed .. => []
  | .date _ => []

def needsOfItems : List Native → List Guest.Need
  | [] => []
  | x :: xs => x.needs ++ needsOfItems xs

def needsOfEntries : List (String × Native) → List Guest.Need
  | [] => []
  | (_, x) :: rest => x.needs ++ needsOfEntries rest

end

mutual

/-- The memory that the engine counts for the guest form of a host value. -/
def footprint : Native → Nat
  | .string s =>
    let t := Text.ofString s
    if 256 < t.length then (if t.units.any (256 ≤ ·.toNat) then 2 * t.length else t.length) else 0
  | .array items => footprintOfItems 16 items
  | .bytes data => data.length
  | .typed t xs => xs.length * t.width
  | .map entries => footprintOfEntries entries
  | .set items => footprintOfItems 32 items
  | .null => 0
  | .bool _ => 0
  | .int _ => 0
  | .float _ => 0
  | .bigint _ => 0
  | .date _ => 0
  | .function _ => 0
  | .unmapped => 0

def footprintOfItems (each : Nat) : List Native → Nat
  | [] => 0
  | x :: xs => x.footprint + (each + footprintOfItems each xs)

def footprintOfEntries : List (String × Native) → Nat
  | [] => 0
  | (_, x) :: rest => x.footprint + (32 + footprintOfEntries rest)

end

end Native

namespace Guest

/-- The elements of a set after one has been added. -/
def insertElement (vs : List Value) (v : Value) : List Value :=
  if vs.any (Act.sameValueZero · v) then vs else vs ++ [entryKey v]

/-- The guest function that calls a host function. -/
def Object.ofHandle (h : Handle) : Object where
  proto := some Intrinsic.functionPrototype
  properties := #[("length", .fixed (.ofNat 0))]
  payload := .host h

/-- A value has no objects from a place on. -/
def Value.Below (place : Nat) (v : Value) : Prop := ∀ o, v = .object o → o < place

mutual

/-- A value is the guest form of a host value. Its objects lie at or behind a place, those of items in the order of the
items. The functions of the host are at the places listed. -/
def Forms (objects : Array Object) (lo : Nat) : Native → Value → List ObjectId → Prop
  | .array items, v, os => ∃ o vs, v = .object o ∧ lo ≤ o ∧ objects[o]? = some (.ofItems vs) ∧
    FormsItems objects (o + 1) items vs os
  | .bytes data, v, os => os = [] ∧ ∃ o, v = .object o ∧ lo ≤ o ∧ objects[o]? = some (.ofBytes data)
  | .typed t xs, v, os => os = [] ∧ ∃ buffer o, v = .object o ∧ lo ≤ buffer ∧ lo ≤ o ∧
    objects[buffer]? = some (.ofBytes (t.encode xs)) ∧ objects[o]? = some (.ofRow t buffer xs.length)
  | .map entries, v, os => ∃ o es, v = .object o ∧ lo ≤ o ∧ objects[o]? = some (.ofEntries es) ∧
    FormsEntries objects (o + 1) entries es os
  | .set items, v, os => ∃ o vs, v = .object o ∧ lo ≤ o ∧
    objects[o]? = some (.ofElements (vs.foldl insertElement [])) ∧ FormsItems objects (o + 1) items vs os
  | .date i, v, os => os = [] ∧ ∃ o, v = .object o ∧ lo ≤ o ∧
    objects[o]? = some (.ofTime (Double.ofInt i.milliseconds))
  | .function _, v, os => ∃ o h, v = .object o ∧ os = [o] ∧ lo ≤ o ∧ objects[o]? = some (.ofHandle h)
  | t, v, os => os = [] ∧ t.primitive? = some v

def FormsItems (objects : Array Object) (lo : Nat) : List Native → List Value → List ObjectId → Prop
  | [], vs, os => vs = [] ∧ os = []
  | x :: xs, vs, os => ∃ next w ws os₁ os₂, vs = w :: ws ∧ os = os₁ ++ os₂ ∧ lo ≤ next ∧ w.Below next ∧
    Forms objects lo x w os₁ ∧ FormsItems objects next xs ws os₂

def FormsEntries (objects : Array Object) (lo : Nat) :
    List (String × Native) → List (Value × Value) → List ObjectId → Prop
  | [], es, os => es = [] ∧ os = []
  | (k, x) :: rest, es, os => ∃ next w es' os₁ os₂, es = (.text (Text.ofString k), w) :: es' ∧ os = os₁ ++ os₂ ∧
    lo ≤ next ∧ w.Below next ∧ Forms objects lo x w os₁ ∧ FormsEntries objects next rest es' os₂

end

section Keep

variable {a b : Array Object}

mutual

theorem Forms.keep {lo lo' : Nat} {t : Native} {v : Value} {os : List ObjectId} (h : Forms a lo t v os)
    (hkeeps : Keeps (lo ≤ ·) a b) (hlo : lo' ≤ lo) : Forms b lo' t v os := by
  cases t with
  | array items =>
    rw [Forms] at h ⊢
    obtain ⟨o, vs, rfl, ho, hx, hitems⟩ := h
    have hbehind : Keeps (o + 1 ≤ ·) a b := hkeeps.imp fun i hi => Nat.le_trans ho (Nat.le_of_succ_le hi)
    exact ⟨o, vs, rfl, Nat.le_trans hlo ho, hkeeps _ _ ho hx, hitems.keep hbehind (Nat.le_refl _)⟩
  | map entries =>
    rw [Forms] at h ⊢
    obtain ⟨o, es, rfl, ho, hx, hentries⟩ := h
    have hbehind : Keeps (o + 1 ≤ ·) a b := hkeeps.imp fun i hi => Nat.le_trans ho (Nat.le_of_succ_le hi)
    exact ⟨o, es, rfl, Nat.le_trans hlo ho, hkeeps _ _ ho hx, hentries.keep hbehind (Nat.le_refl _)⟩
  | set items =>
    rw [Forms] at h ⊢
    obtain ⟨o, vs, rfl, ho, hx, hitems⟩ := h
    have hbehind : Keeps (o + 1 ≤ ·) a b := hkeeps.imp fun i hi => Nat.le_trans ho (Nat.le_of_succ_le hi)
    exact ⟨o, vs, rfl, Nat.le_trans hlo ho, hkeeps _ _ ho hx, hitems.keep hbehind (Nat.le_refl _)⟩
  | bytes data =>
    rw [Forms] at h ⊢
    obtain ⟨rfl, o, rfl, ho, hx⟩ := h
    exact ⟨rfl, o, rfl, Nat.le_trans hlo ho, hkeeps _ _ ho hx⟩
  | typed t xs =>
    rw [Forms] at h ⊢
    obtain ⟨rfl, buffer, o, rfl, hbuffer, ho, hy, hx⟩ := h
    exact ⟨rfl, buffer, o, rfl, Nat.le_trans hlo hbuffer, Nat.le_trans hlo ho, hkeeps _ _ hbuffer hy,
      hkeeps _ _ ho hx⟩
  | date i =>
    rw [Forms] at h ⊢
    obtain ⟨rfl, o, rfl, ho, hx⟩ := h
    exact ⟨rfl, o, rfl, Nat.le_trans hlo ho, hkeeps _ _ ho hx⟩
  | function f =>
    rw [Forms] at h ⊢
    obtain ⟨o, g, rfl, rfl, ho, hx⟩ := h
    exact ⟨o, g, rfl, rfl, Nat.le_trans hlo ho, hkeeps _ _ ho hx⟩
  | _ => exact h

theorem FormsItems.keep {lo lo' : Nat} {xs : List Native} {vs : List Value} {os : List ObjectId}
    (h : FormsItems a lo xs vs os) (hkeeps : Keeps (lo ≤ ·) a b) (hlo : lo' ≤ lo) : FormsItems b lo' xs vs os := by
  cases xs with
  | nil => exact h
  | cons x xs =>
    rw [FormsItems] at h ⊢
    obtain ⟨next, w, ws, os₁, os₂, rfl, rfl, hnext, hbelow, hform, hrest⟩ := h
    have hbehind : Keeps (next ≤ ·) a b := hkeeps.imp fun i hi => Nat.le_trans hnext hi
    exact ⟨next, w, ws, os₁, os₂, rfl, rfl, Nat.le_trans hlo hnext, hbelow, hform.keep hkeeps hlo,
      hrest.keep hbehind (Nat.le_refl _)⟩

theorem FormsEntries.keep {lo lo' : Nat} {entries : List (String × Native)} {es : List (Value × Value)}
    {os : List ObjectId} (h : FormsEntries a lo entries es os) (hkeeps : Keeps (lo ≤ ·) a b) (hlo : lo' ≤ lo) :
    FormsEntries b lo' entries es os := by
  cases entries with
  | nil => exact h
  | cons e rest =>
    rw [FormsEntries] at h ⊢
    obtain ⟨next, w, es', os₁, os₂, rfl, rfl, hnext, hbelow, hform, hrest⟩ := h
    have hbehind : Keeps (next ≤ ·) a b := hkeeps.imp fun i hi => Nat.le_trans hnext hi
    exact ⟨next, w, es', os₁, os₂, rfl, rfl, Nat.le_trans hlo hnext, hbelow, hform.keep hkeeps hlo,
      hrest.keep hbehind (Nat.le_refl _)⟩

end

end Keep

theorem sameValueZero_entryKey (a b : Value) : Act.sameValueZero (entryKey a) b = Act.sameValueZero a b := by
  cases a with
  | number d =>
    rw [entryKey]
    by_cases hd : d.isZero = true
    · have hzero : Double.zero.isZero = true := by decide
      rw [if_pos hd]
      cases b with
      | number c =>
        simp only [Act.sameValueZero, Double.numericEq_of_isZero hzero hd, Double.isNaN_of_isZero hd,
          Double.isNaN_of_isZero hzero]
      | _ => rfl
    · rw [if_neg hd]
  | _ => rfl

theorem nativeOfNumber_zero : Bridge.nativeOfNumber Double.zero = .int 0 := by
  rw [← Double.ofInt_zero]
  exact Native.nativeOfNumber_ofInt 0

theorem nativeOfNumber_entryKey (d : Double) : Bridge.nativeOfNumber (if d.isZero then Double.zero else d) =
    if d.isNegativeZero then .int 0 else Bridge.nativeOfNumber d := by
  by_cases hd : d.isZero = true
  · rw [if_pos hd, nativeOfNumber_zero, Double.isNegativeZero, hd, Bool.true_and]
    by_cases hneg : d.isNegative = true
    · rw [if_pos hneg]
    · rw [if_neg hneg, Double.eq_zero hd (Bool.not_eq_true _ ▸ hneg), nativeOfNumber_zero]
  · simp [Double.isNegativeZero, hd]

section Shows

variable {objects : Array Object} {lo n : Nat} {t : Native} {v : Value} {os : List ObjectId}

theorem shows_primitive (h : t.primitive? = some v) : Shows objects lo (n + 1) v t.norm := by
  cases t <;> cases h
  case null => exact .null
  case bool b => exact .bool
  case int k => exact .number (Native.nativeOfNumber_ofInt k)
  case float d => exact .number (Native.normFloat_eq d)
  case bigint k => exact .bigint
  case string s => exact .text
  case unmapped => exact .null

theorem shows_element (h : t.primitive? = some v) :
    Shows objects lo (n + 1) (entryKey v) (if t.isNegativeZero then .int 0 else t.norm) := by
  cases t <;> cases h
  case int k =>
    have hbound : k.toInt.natAbs < 2 ^ 64 := by
      have hlow := k.le_toInt
      have hhigh := k.toInt_lt
      omega
    apply Shows.number
    rw [nativeOfNumber_entryKey, Double.isNegativeZero_ofInt_of_lt hbound]
    exact Native.nativeOfNumber_ofInt k
  case float d =>
    apply Shows.number
    have hsame : (if d.isNaN then Double.nan else d).isNegativeZero = d.isNegativeZero := by
      split
      · next hnan =>
        cases hzero : d.isZero with
        | false => simp only [Double.isNegativeZero, hzero, Bool.false_and]; decide
        | true =>
          rw [Double.isNaN_of_isZero hzero] at hnan
          cases hnan
      · rfl
    rw [nativeOfNumber_entryKey, hsame, Native.normFloat_eq]
    rfl
  all_goals exact shows_primitive rfl

theorem Forms.primitive_or (h : Forms objects lo t v os) :
    (t.primitive? = some v ∧ v.isObject = false) ∨ (t.primitive? = none ∧ ∃ o, v = .object o ∧ lo ≤ o) := by
  cases t with
  | array | map | set =>
    rw [Forms] at h
    obtain ⟨o, _, rfl, ho, -⟩ := h
    exact .inr ⟨rfl, o, rfl, ho⟩
  | bytes | date =>
    rw [Forms] at h
    obtain ⟨-, o, rfl, ho, -⟩ := h
    exact .inr ⟨rfl, o, rfl, ho⟩
  | typed =>
    rw [Forms] at h
    obtain ⟨-, _, o, rfl, -, ho, -⟩ := h
    exact .inr ⟨rfl, o, rfl, ho⟩
  | function =>
    rw [Forms] at h
    obtain ⟨o, _, rfl, -, ho, -⟩ := h
    exact .inr ⟨rfl, o, rfl, ho⟩
  | _ =>
    obtain ⟨-, hv⟩ := h
    cases hv
    exact .inl ⟨rfl, rfl⟩

theorem Forms.mono {lo' : Nat} (h : Forms objects lo t v os) (hlo : lo' ≤ lo) : Forms objects lo' t v os :=
  h.keep .refl hlo

theorem not_sameValueZero_object {w : Value} {o : ObjectId} (h : w.Below o) :
    Act.sameValueZero w (.object o) = false := by
  cases w with
  | object o' =>
    have hne : o' ≠ o := Nat.ne_of_lt (h o' rfl)
    simpa [Act.sameValueZero] using hne
  | _ => rfl

theorem sameElement_of_primitive {x y : Native} (hx : x.primitive? = none) : x.sameElement y = false := by
  rw [Native.sameElement, hx]

theorem Forms.shows_element {lo₀ : Nat} (h : Forms objects lo t v os) (hfits : t.FitsWithin n)
    (hshows : Shows objects lo₀ n v t.norm) :
    Shows objects lo₀ n (entryKey v) (if t.isNegativeZero then .int 0 else t.norm) := by
  obtain ⟨n, rfl⟩ : ∃ k, n = k + 1 := by
    cases n with
    | zero => exact hfits.elim
    | succ k => exact ⟨k, rfl⟩
  rcases h.primitive_or with ⟨ht, -⟩ | ⟨ht, o, rfl, -⟩
  · exact Guest.shows_element ht
  · have hnegative : t.isNegativeZero = false := by cases t <;> first | rfl | cases ht
    rw [hnegative]
    exact hshows

/-- What a set has kept so far and the host values that have been seen: a primitive value is among the ones just when it
is among the others, and the forms that are still to come are behind what has been kept. -/
structure KeptAs (lo : Nat) (kept : List Value) (seen : List Native) : Prop where
  same : ∀ x w, x.primitive? = some w → kept.any (Act.sameValueZero · w) = seen.any (·.sameElement x)
  below : ∀ k ∈ kept, k.Below lo

namespace KeptAs

variable {kept : List Value} {seen : List Native} {next : Nat}

theorem nil : KeptAs lo [] [] := ⟨fun _ _ _ => rfl, nofun⟩

theorem mono (h : KeptAs lo kept seen) (hle : lo ≤ next) : KeptAs next kept seen where
  same := h.same
  below k hk o ho := Nat.lt_of_lt_of_le (h.below k hk o ho) hle

/-- Any host value is among those seen just when its form is among what has been kept: a new object is not. -/
theorem any_eq (h : KeptAs lo kept seen) (hform : Forms objects lo t v os) :
    kept.any (Act.sameValueZero · v) = seen.any (·.sameElement t) := by
  rcases hform.primitive_or with ⟨ht, -⟩ | ⟨ht, o, rfl, ho⟩
  · exact h.same t v ht
  · have hkept : kept.any (Act.sameValueZero · (.object o)) = false := by
      rw [List.any_eq_false]
      intro k hk
      rw [not_sameValueZero_object fun o' ho' => Nat.lt_of_lt_of_le (h.below k hk o' ho') ho]
      exact Bool.false_ne_true
    have hseen : seen.any (·.sameElement t) = false := by
      rw [List.any_eq_false]
      intro y _
      rw [Native.sameElement, ht]
      cases y.primitive? <;> exact Bool.false_ne_true
    rw [hkept, hseen]

theorem append (h : KeptAs lo kept seen) (hform : Forms objects lo t v os) (hle : lo ≤ next) (hv : v.Below next) :
    KeptAs next (kept ++ [entryKey v]) (t :: seen) where
  same y w hy := by
    rw [List.any_append, List.any_cons, List.any_cons, List.any_nil, Bool.or_false, h.same y w hy,
      sameValueZero_entryKey, Bool.or_comm]
    congr 1
    rcases hform.primitive_or with ⟨ht, -⟩ | ⟨ht, o, rfl, -⟩
    · rw [Native.sameElement, ht, hy]
    · rw [sameElement_of_primitive ht]
      cases y <;> cases hy <;> rfl
  below k hk := by
    rcases List.mem_append.mp hk with hk | hk
    · exact (h.mono hle).below k hk
    · obtain rfl := List.mem_singleton.mp hk
      cases v with
      | object o => exact hv
      | _ => exact nofun

end KeptAs

/-- A set keeps the elements that are not among others before them: seen as guest values, or as host values. -/
theorem FormsItems.exists_elements {lo₀ : Nat} {xs : List Native} {vs : List Value}
    (h : FormsItems objects lo xs vs os) {kept : List Value} {seen : List Native} (hkept : KeptAs lo kept seen)
    (hfits : ∀ x ∈ xs, x.FitsWithin n)
    (hshows : ∀ x ∈ xs, ∀ w os, Forms objects lo x w os → Shows objects lo₀ n w x.norm) :
    ∃ es : List (Value × Native), vs.foldl insertElement kept = kept ++ es.map (·.1) ∧
      Native.normElements seen xs = es.map (·.2) ∧ es.length ≤ xs.length ∧ ∀ e ∈ es, Shows objects lo₀ n e.1 e.2 := by
  induction xs generalizing vs os kept seen lo with
  | nil =>
    rw [FormsItems] at h
    obtain ⟨rfl, -⟩ := h
    exact ⟨[], by simp, by rw [Native.normElements]; rfl, Nat.le_refl _, nofun⟩
  | cons x xs ih =>
    rw [FormsItems] at h
    obtain ⟨next, w, ws, os₁, os₂, rfl, rfl, hnext, hw, hform, hrest⟩ := h
    have hfits' : ∀ y ∈ xs, y.FitsWithin n := fun y hy => hfits y (List.mem_cons_of_mem x hy)
    have hshows' : ∀ y ∈ xs, ∀ w os, Forms objects next y w os → Shows objects lo₀ n w y.norm :=
      fun y hy w os hform => hshows y (List.mem_cons_of_mem x hy) w os (hform.mono hnext)
    rw [List.foldl_cons, insertElement, Native.normElements, hkept.any_eq hform]
    by_cases hfound : seen.any (·.sameElement x) = true
    · rw [if_pos hfound, if_pos hfound]
      obtain ⟨es, hitems, hnorm, hlength, hes⟩ := ih hrest (hkept.mono hnext) hfits' hshows'
      exact ⟨es, hitems, hnorm, Nat.le_succ_of_le hlength, hes⟩
    · rw [if_neg hfound, if_neg hfound]
      obtain ⟨es, hitems, hnorm, hlength, hes⟩ := ih hrest (hkept.append hform hnext hw) hfits' hshows'
      refine ⟨(entryKey w, if x.isNegativeZero then .int 0 else x.norm) :: es, ?_, ?_, Nat.succ_le_succ hlength, ?_⟩
      · rw [hitems, List.append_assoc, List.map_cons, List.singleton_append]
      · rw [hnorm, List.map_cons]
      · intro e he
        rcases List.mem_cons.mp he with rfl | he
        · exact hform.shows_element (hfits x List.mem_cons_self) (hshows x List.mem_cons_self _ _ hform)
        · exact hes e he

theorem FormsItems.exists_items {lo₀ : Nat} {xs : List Native} {vs : List Value} (h : FormsItems objects lo xs vs os)
    (hshows : ∀ x ∈ xs, ∀ w os, Forms objects lo x w os → Shows objects lo₀ n w x.norm) :
    ∃ es : List (Value × Native), vs = es.map (·.1) ∧ Native.normItems xs = es.map (·.2) ∧ es.length = xs.length ∧
      ∀ e ∈ es, Shows objects lo₀ n e.1 e.2 := by
  induction xs generalizing vs os lo with
  | nil =>
    rw [FormsItems] at h
    obtain ⟨rfl, -⟩ := h
    exact ⟨[], rfl, by rw [Native.normItems]; rfl, rfl, nofun⟩
  | cons x xs ih =>
    rw [FormsItems] at h
    obtain ⟨next, w, ws, os₁, os₂, rfl, rfl, hnext, hw, hform, hrest⟩ := h
    obtain ⟨es, rfl, hnorm, hlength, hes⟩ := ih hrest fun y hy w os hform =>
      hshows y (List.mem_cons_of_mem x hy) w os (hform.mono hnext)
    refine ⟨(w, x.norm) :: es, rfl, by rw [Native.normItems, hnorm]; rfl, congrArg Nat.succ hlength, ?_⟩
    intro e he
    rcases List.mem_cons.mp he with rfl | he
    · exact hshows x List.mem_cons_self w os₁ hform
    · exact hes e he

theorem FormsEntries.exists_entries {lo₀ : Nat} {entries : List (String × Native)} {es : List (Value × Value)}
    (h : FormsEntries objects lo entries es os)
    (hshows : ∀ e ∈ entries, ∀ w os, Forms objects lo e.2 w os → Shows objects lo₀ n w e.2.norm) :
    ∃ fs : List (String × Value × Native), es = fs.map (fun f => (.text (Text.ofString f.1), f.2.1)) ∧
      Native.normEntries entries = fs.map (fun f => (f.1, f.2.2)) ∧ fs.map (·.1) = entries.map (·.1) ∧
      ∀ f ∈ fs, Shows objects lo₀ n f.2.1 f.2.2 := by
  induction entries generalizing es os lo with
  | nil =>
    rw [FormsEntries] at h
    obtain ⟨rfl, -⟩ := h
    exact ⟨[], rfl, by rw [Native.normEntries]; rfl, rfl, nofun⟩
  | cons e rest ih =>
    obtain ⟨k, x⟩ := e
    rw [FormsEntries] at h
    obtain ⟨next, w, es', os₁, os₂, rfl, rfl, hnext, hw, hform, hrest⟩ := h
    obtain ⟨fs, rfl, hnorm, hkeys, hfs⟩ := ih hrest fun e he w os hform =>
      hshows e (List.mem_cons_of_mem _ he) w os (hform.mono hnext)
    refine ⟨(k, w, x.norm) :: fs, rfl, by rw [Native.normEntries, hnorm]; rfl, congrArg (k :: ·) hkeys, ?_⟩
    intro f hf
    rcases List.mem_cons.mp hf with rfl | hf
    · exact hshows (k, x) List.mem_cons_self w os₁ hform
    · exact hfs f hf

theorem Forms.shows (h : Forms objects lo t v os) (hfits : t.FitsWithin n) : Shows objects lo n v t.norm := by
  induction n generalizing t v os lo with
  | zero => exact hfits.elim
  | succ n ih =>
    cases t with
    | array items =>
      rw [Forms] at h
      obtain ⟨o, vs, rfl, ho, hx, hitems⟩ := h
      obtain ⟨es, rfl, hnorm, hlength, hes⟩ := hitems.exists_items fun x hx w os hform =>
        ih (hform.mono (Nat.le_succ_of_le ho)) (hfits.2 x hx)
      rw [Native.norm, hnorm]
      exact .array ho hx (hlength ▸ hfits.1) hes
    | map entries =>
      rw [Forms] at h
      obtain ⟨o, es, rfl, ho, hx, hentries⟩ := h
      obtain ⟨fs, rfl, hnorm, hkeys, hfs⟩ := hentries.exists_entries fun e he w os hform =>
        ih (hform.mono (Nat.le_succ_of_le ho)) (hfits.2.2 e he)
      have hlength : fs.length = entries.length := by simpa using congrArg List.length hkeys
      rw [Native.norm, hnorm]
      exact .map ho hx (hlength ▸ hfits.1) (hkeys ▸ hfits.2.1) hfs
    | set items =>
      rw [Forms] at h
      obtain ⟨o, vs, rfl, ho, hx, hitems⟩ := h
      obtain ⟨es, hkept, hnorm, hlength, hes⟩ := hitems.exists_elements .nil hfits.2
        (fun x hx w os hform => ih (hform.mono (Nat.le_succ_of_le ho)) (hfits.2 x hx))
      rw [hkept] at hx
      rw [Native.norm, hnorm]
      exact .set ho hx (Nat.lt_of_le_of_lt hlength hfits.1) hes
    | bytes data =>
      rw [Forms] at h
      obtain ⟨-, o, rfl, ho, hx⟩ := h
      rw [Native.norm]
      exact .bytes ho hx hfits
    | typed t xs =>
      rw [Forms] at h
      obtain ⟨-, buffer, o, rfl, hbuffer, ho, hy, hx⟩ := h
      rw [Native.norm]
      exact .typed ho hbuffer hx hy hfits
    | date i =>
      rw [Forms] at h
      obtain ⟨-, o, rfl, ho, hx⟩ := h
      rw [Native.norm, ← Native.ofMilliseconds_milliseconds hfits.1]
      exact .date ho hx hfits.2.1 hfits.2.2
    | function f =>
      rw [Forms] at h
      obtain ⟨o, g, rfl, -, ho, hx⟩ := h
      rw [Native.norm]
      exact .function ho hx ⟨rfl, rfl, rfl⟩
    | _ => exact shows_primitive h.2

end Shows

end Guest

end Embedding
