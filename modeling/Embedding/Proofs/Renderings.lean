import Embedding.Native.Render
import Embedding.Proofs.ByteOrder
import Embedding.Proofs.Singles
import Mathlib.Data.List.Nodup

namespace Embedding

namespace ElementType

def isFloat : ElementType → Bool
  | float32 | float64 => true
  | _ => false

def isSigned : ElementType → Bool
  | int8 | int16 | int32 | bigInt64 => true
  | _ => false

/-- The integer that the bits of an element stand for, in two's complement where the type is signed. -/
def integerOf (t : ElementType) (x : t.Carrier) : Int :=
  if t.isSigned = true ∧ 2 ^ (8 * t.width - 1) ≤ t.bitsOf x then t.bitsOf x - 2 ^ (8 * t.width) else t.bitsOf x

theorem toInt_eq_of_bits {w : Nat} (hw : 0 < w) (b : BitVec w) :
    b.toInt = if 2 ^ (w - 1) ≤ b.toNat then (b.toNat : Int) - 2 ^ w else b.toNat := by
  obtain ⟨k, rfl⟩ := Nat.exists_eq_add_of_lt hw
  have hdouble : 2 ^ (0 + k + 1) = 2 * 2 ^ (0 + k) := by rw [Nat.pow_succ, Nat.mul_comm]
  rw [BitVec.toInt_eq_toNat_cond, Nat.add_sub_cancel]
  split <;> split <;> first | rfl | omega

theorem elementJson_of_integer {t : ElementType} (ht : t.isFloat = false) (x : t.Carrier) :
    Native.elementJson t x = .int (t.integerOf x) := by
  cases t with
  | float32 | float64 => cases ht
  | uint8 | uint16 | uint32 | bigUint64 => rfl
  | int8 | int16 | int32 | bigInt64 =>
    simp only [Native.elementJson, integerOf, isSigned, true_and, bitsOf]
    exact congrArg _ (toInt_eq_of_bits (by decide) x.toBitVec)

end ElementType

namespace Native

/-- Whether a host value has no parts that are host values themselves. -/
def isPlain : Native → Bool
  | array _ | set _ | map _ => false
  | _ => true

/-- One host value gone through in two ways, which differ in the orders of the entries of its maps, however deep they
lie. A key has one entry in a map. -/
inductive Reordered : Native → Native → Prop
  | plain {v : Native} (hv : v.isPlain = true) : Reordered v v
  | array {es : List (Native × Native)} (hitems : ∀ e ∈ es, Reordered e.1 e.2) :
      Reordered (.array (es.map (·.1))) (.array (es.map (·.2)))
  | set {es : List (Native × Native)} (hitems : ∀ e ∈ es, Reordered e.1 e.2) :
      Reordered (.set (es.map (·.1))) (.set (es.map (·.2)))
  | map {es : List (String × Native × Native)} {entries entries' : List (String × Native)}
      (hkeys : (es.map (·.1)).Nodup) (hentries : entries.Perm (es.map fun e => (e.1, e.2.1)))
      (hentries' : entries'.Perm (es.map fun e => (e.1, e.2.2))) (hitems : ∀ e ∈ es, Reordered e.2.1 e.2.2) :
      Reordered (.map entries) (.map entries')

section Members

variable {α : Type}

theorem nameLe_eq_decide (a b : String × α) : Json.Value.nameLe a b = decide (a.1 ≤ b.1) := by
  rw [Json.Value.nameLe]
  by_cases hlt : a.1 < b.1
  · rw [decide_eq_true hlt, Bool.true_or, decide_eq_true (String.not_lt.mp (String.lt_asymm hlt))]
  · have hle : a.1 ≤ b.1 ↔ a.1 = b.1 :=
      ⟨fun hle => String.le_antisymm hle (String.not_lt.mp hlt), fun heq => heq ▸ String.le_refl _⟩
    rw [decide_eq_false hlt, Bool.false_or, decide_eq_decide.mpr hle, beq_eq_decide]

theorem nameLe_trans (a b c : String × α) (h : Json.Value.nameLe a b = true) (h' : Json.Value.nameLe b c = true) :
    Json.Value.nameLe a c = true := by
  rw [nameLe_eq_decide, decide_eq_true_eq] at h h' ⊢
  exact String.le_trans h h'

theorem nameLe_total (a b : String × α) : (Json.Value.nameLe a b || Json.Value.nameLe b a) = true := by
  rw [nameLe_eq_decide, nameLe_eq_decide, ← Bool.decide_or, decide_eq_true_eq]
  exact String.le_total _ _

theorem mergeSort_eq_of_perm {es fs : List (String × α)} (hkeys : (es.map (·.1)).Nodup) (h : es.Perm fs) :
    es.mergeSort Json.Value.nameLe = fs.mergeSort Json.Value.nameLe := by
  have hes := List.mergeSort_perm es Json.Value.nameLe
  have hfs := List.mergeSort_perm fs Json.Value.nameLe
  refine List.Perm.eq_of_pairwise (fun e f he hf hle hle' => ?_) (List.pairwise_mergeSort nameLe_trans nameLe_total es)
    (List.pairwise_mergeSort nameLe_trans nameLe_total fs) ((hes.trans h).trans hfs.symm)
  rw [nameLe_eq_decide, decide_eq_true_eq] at hle hle'
  exact List.inj_on_of_nodup_map hkeys (hes.mem_iff.mp he) (h.mem_iff.mpr (hfs.mem_iff.mp hf))
    (String.le_antisymm hle hle')

theorem map_mergeSort_nameLe {β : Type} (f : α → β) (es : List (String × α)) :
    (es.mergeSort Json.Value.nameLe).map (fun e => (e.1, f e.2)) =
      (es.map fun e => (e.1, f e.2)).mergeSort Json.Value.nameLe :=
  List.map_mergeSort fun _ _ _ _ => rfl

theorem pairwise_mergeSort_bytes {es : List (String × α)} (hkeys : (es.map (·.1)).Nodup) :
    (es.mergeSort Json.Value.nameLe).Pairwise fun e f => e.1.toUTF8.toList < f.1.toUTF8.toList := by
  have hperm := List.mergeSort_perm es Json.Value.nameLe
  have hnodup : ((es.mergeSort Json.Value.nameLe).map (·.1)).Nodup := (hperm.map _).nodup_iff.mpr hkeys
  refine ((List.pairwise_map.mp hnodup).and (List.pairwise_mergeSort nameLe_trans nameLe_total es)).imp fun ⟨hne, hle⟩ => Bytes.toUTF8_lt ?_
  rw [nameLe_eq_decide, decide_eq_true_eq] at hle
  exact Decidable.byContradiction fun hlt => hne (String.le_antisymm hle (String.not_lt.mp hlt))

end Members

theorem itemsJson_eq_map (items : List Native) : itemsJson items = items.map toJson := by
  induction items with
  | nil => rfl
  | cons v rest ih => rw [itemsJson, ih, List.map_cons]

theorem entriesJson_eq_map (entries : List (String × Native)) :
    entriesJson entries = entries.map fun e => (e.1, e.2.toJson) := by
  induction entries with
  | nil => rfl
  | cons e rest ih => rw [entriesJson, ih, List.map_cons]

theorem Reordered.toJson_eq {v v' : Native} (h : Reordered v v') : v'.toJson = v.toJson := by
  induction h with
  | plain => rfl
  | @array es _ ih =>
    rw [toJson, toJson, itemsJson_eq_map, itemsJson_eq_map, List.map_map, List.map_map]
    exact congrArg _ (List.map_congr_left ih)
  | @set es _ ih =>
    rw [toJson, toJson, itemsJson_eq_map, itemsJson_eq_map, List.map_map, List.map_map]
    exact congrArg _ (List.map_congr_left ih)
  | @map es entries entries' hkeys hentries hentries' _ ih =>
    have hsame : (es.map fun e => (e.1, e.2.2)).map (fun e => (e.1, e.2.toJson)) =
        (es.map fun e => (e.1, e.2.1)).map fun e => (e.1, e.2.toJson) := by
      rw [List.map_map, List.map_map]
      exact List.map_congr_left fun e he => congrArg (Prod.mk e.1) (ih e he)
    have hperm : (entries'.map fun e => (e.1, e.2.toJson)).Perm (entries.map fun e => (e.1, e.2.toJson)) := by
      refine (hentries'.map _).trans ?_
      rw [hsame]
      exact (hentries.map _).symm
    have hnodup : (entries'.map (·.1)).Nodup := by
      rw [(hentries'.map _).nodup_iff, List.map_map]
      exact hkeys
    rw [toJson, toJson, Json.Value.ofMembers, Json.Value.ofMembers, entriesJson_eq_map, entriesJson_eq_map]
    refine congrArg _ (mergeSort_eq_of_perm ?_ hperm)
    rwa [List.map_map]

/-- What an element of a vector is rendered as. -/
inductive RendersElement : (t : ElementType) → t.Carrier → Json.Value → Prop
  | integer {t : ElementType} {x : t.Carrier} (ht : t.isFloat = false) : RendersElement t x (.int (t.integerOf x))
  | single {s : Single} {d : Double} (hs : ¬(s.isNaN = true ∨ s.isInfinite = true)) (hd : s.Is d) :
      RendersElement .float32 s (.float d)
  | singleNull {s : Single} (hs : s.isNaN = true ∨ s.isInfinite = true) : RendersElement .float32 s .null
  | double {d : Double} (hd : ¬(d.isNaN = true ∨ d.isInfinite = true)) : RendersElement .float64 d (.float d)
  | doubleNull {d : Double} (hd : d.isNaN = true ∨ d.isInfinite = true) : RendersElement .float64 d .null

/-- What a host value is rendered as. The members of an object are in the order of the bytes of their names, so that
no two of them have one name. -/
inductive Renders : Native → Json.Value → Prop
  | null : Renders .null .null
  | unmapped : Renders .unmapped .null
  | bool (b : Bool) : Renders (.bool b) (.bool b)
  | int (n : Int64) : Renders (.int n) (.int n.toInt)
  | float {d : Double} {j : Json.Value} (hj : RendersElement .float64 d j) : Renders (.float d) j
  | bigint (n : Int) : Renders (.bigint n) (.string (toString n))
  | string (s : String) : Renders (.string s) (.string s)
  | bytes (data : List UInt8) : Renders (.bytes data) (.array (data.map fun b => .int b.toNat))
  | typed {t : ElementType} {es : List (t.Carrier × Json.Value)} (helements : ∀ e ∈ es, RendersElement t e.1 e.2) :
      Renders (.typed t (es.map (·.1))) (.array (es.map (·.2)))
  | array {es : List (Native × Json.Value)} (hitems : ∀ e ∈ es, Renders e.1 e.2) :
      Renders (.array (es.map (·.1))) (.array (es.map (·.2)))
  | set {es : List (Native × Json.Value)} (hitems : ∀ e ∈ es, Renders e.1 e.2) :
      Renders (.set (es.map (·.1))) (.array (es.map (·.2)))
  | map {entries : List (String × Native)} {es : List (String × Native × Json.Value)}
      (hentries : entries.Perm (es.map fun e => (e.1, e.2.1)))
      (hsorted : es.Pairwise fun e f => e.1.toUTF8.toList < f.1.toUTF8.toList)
      (hitems : ∀ e ∈ es, Renders e.2.1 e.2.2) : Renders (.map entries) (.object (es.map fun e => (e.1, e.2.2)))
  | date (i : Instant) : Renders (.date i) (.string i.text)
  | function (f : HostFn) : Renders (.function f) (.string "[host function]")

theorem rendersElement (t : ElementType) (x : t.Carrier) : RendersElement t x (elementJson t x) := by
  by_cases ht : t.isFloat = false
  · rw [ElementType.elementJson_of_integer ht]
    exact .integer ht
  · cases t with
    | float32 =>
      show RendersElement .float32 x (floatJson x.toDouble)
      cases hx : x.isFinite with
      | true =>
        have hd := Single.is_toDouble hx
        rw [floatJson, if_pos hd.finite]
        exact .single (fun hs => Bool.eq_false_iff.mp (Single.isFinite_eq_false_iff.mpr hs) hx) hd
      | false =>
        rw [floatJson, if_neg (Bool.eq_false_iff.mp (Single.isFinite_toDouble_of_not hx))]
        exact .singleNull (Single.isFinite_eq_false_iff.mp hx)
    | float64 =>
      show RendersElement .float64 x (floatJson x)
      cases hx : x.isFinite with
      | true =>
        rw [floatJson, if_pos hx]
        exact .double fun hd => Bool.eq_false_iff.mp (Double.isFinite_eq_false_iff.mpr hd) hx
      | false =>
        rw [floatJson, if_neg (Bool.eq_false_iff.mp hx)]
        exact .doubleNull (Double.isFinite_eq_false_iff.mp hx)
    | _ => exact absurd rfl ht

theorem Reordered.renders {v v' : Native} (h : Reordered v v') : v.Renders v.toJson := by
  induction h with
  | @plain v hv =>
    cases v with
    | array | set | map => cases hv
    | null => exact .null
    | unmapped => exact .unmapped
    | bool b => exact .bool b
    | int n => exact .int n
    | float d => exact .float (rendersElement .float64 d)
    | bigint n => exact .bigint n
    | string s => exact .string s
    | bytes data => exact .bytes data
    | typed t xs =>
      have htyped := @Renders.typed t (xs.map fun x => (x, elementJson t x))
        (List.forall_mem_map.mpr fun x _ => rendersElement t x)
      have helements : (xs.map fun x => (x, elementJson t x)).map (·.1) = xs := by
        rw [List.map_map]
        exact List.map_id xs
      rwa [helements, List.map_map] at htyped
    | date i => exact .date i
    | function f => exact .function f
  | @array es _ ih =>
    have harray := @Renders.array (es.map fun e => (e.1, e.1.toJson)) (List.forall_mem_map.mpr ih)
    rw [List.map_map, List.map_map] at harray
    rwa [toJson, itemsJson_eq_map, List.map_map]
  | @set es _ ih =>
    have hset := @Renders.set (es.map fun e => (e.1, e.1.toJson)) (List.forall_mem_map.mpr ih)
    rw [List.map_map, List.map_map] at hset
    rwa [toJson, itemsJson_eq_map, List.map_map]
  | @map es entries entries' hkeys hentries _ _ ih =>
    let listed := (entries.map fun e => (e.1, e.2, e.2.toJson)).mergeSort Json.Value.nameLe
    have hlisted : listed.Perm (entries.map fun e => (e.1, e.2, e.2.toJson)) := List.mergeSort_perm _ _
    have hjson : (Native.map entries).toJson = .object (listed.map fun e => (e.1, e.2.2)) := by
      rw [toJson, Json.Value.ofMembers, entriesJson_eq_map, map_mergeSort_nameLe Prod.snd, List.map_map]
      rfl
    rw [hjson]
    refine .map ?_ (pairwise_mergeSort_bytes ?_) fun e he => ?_
    · have hback := hlisted.map fun e => (e.1, e.2.1)
      rw [List.map_map] at hback
      exact (hback.trans (List.Perm.of_eq (List.map_id entries))).symm
    · rw [List.map_map]
      have hnodup : (entries.map (·.1)).Nodup := by
        rw [(hentries.map _).nodup_iff, List.map_map]
        exact hkeys
      exact hnodup
    · obtain ⟨entry, hentry, rfl⟩ := List.mem_map.mp (hlisted.mem_iff.mp he)
      obtain ⟨f, hf, rfl⟩ := List.mem_map.mp (hentries.mem_iff.mp hentry)
      exact ih f hf

end Native

end Embedding
