import Embedding.Proofs.Forms
import Embedding.Proofs.Integers
import Embedding.Proofs.Visits

namespace Embedding.Guest

namespace Machine

variable (m : Machine)

/-- Whether there is room for so much memory. -/
def HasRoom (bytes : Nat) : Prop := ∀ limit, m.memoryLimit = some limit → m.memory + bytes ≤ limit

/-- A machine that has made an object, and taken so much memory for it. -/
def made (x : Object) (bytes : Nat := 0) : Machine :=
  { m with objects := m.objects.push x, memory := m.memory + bytes }

/-- A machine in which an object has become another, and that has taken so much memory for it. -/
def filled (o : ObjectId) (x : Object) (bytes : Nat := 0) : Machine :=
  { m with objects := m.objects.setIfInBounds o x, memory := m.memory + bytes }

variable {m}

theorem HasRoom.of_le {bytes bytes' : Nat} (h : m.HasRoom bytes) (hle : bytes' ≤ bytes) : m.HasRoom bytes' :=
  fun limit hlimit => Nat.le_trans (Nat.add_le_add_left hle _) (h limit hlimit)

theorem getElem?_made (x : Object) (bytes : Nat) : (m.made x bytes).objects[m.objects.size]? = some x :=
  Array.getElem?_push_size

theorem setIfInBounds_push_size (objects : Array Object) (x y : Object) :
    (objects.push x).setIfInBounds objects.size y = objects.push y := by
  apply Array.ext_getElem?
  intro i
  rw [Array.getElem?_setIfInBounds, Array.getElem?_push, Array.getElem?_push, Array.size_push]
  by_cases hi : objects.size = i
  · simp [hi]
  · simp [hi, Ne.symm hi]

theorem filled_made (x y : Object) : (m.made x).filled m.objects.size y = m.made y := by
  simp [filled, made, setIfInBounds_push_size]

end Machine

theorem Object.change_eq {x y : Object} {f : Object → Object} (hy : f x = y) (hx : x.handle? = none)
    (hnone : y.handle? = none) : x.change f = y :=
  (x.change_of_handle? f hx (hy ▸ hnone)).trans hy

theorem clipTime_ofInt {ms : Int} (hleast : Instant.leastMilliseconds ≤ ms) (hgreatest : ms ≤ Instant.greatestMilliseconds) :
    clipTime (Double.ofInt ms) = Double.ofInt ms := by
  unfold Instant.leastMilliseconds at hleast
  unfold Instant.greatestMilliseconds at hgreatest
  by_cases hzero : ms = 0
  · subst hzero
    decide +kernel
  · have hsmall : ms.natAbs < 2 ^ 53 := by omega
    have hint := Double.toInt?_ofInt hsmall
    have hfinite := Double.isFinite_of_toInt? hint
    have hwithin : (Double.ofInt ms).abs.le (Double.ofInt 8640000000000000) = true :=
      Double.abs_ofInt_le hzero (by decide) (by omega) (by decide)
    simp only [clipTime, hfinite, hwithin, Bool.and_self, if_true, Double.trunc_of_toInt? hint,
      Double.isZero_ofInt hzero hsmall, Bool.false_eq_true, if_false]

namespace Act

variable {e : Engine} {m : Machine} {n : Nat} {o : ObjectId} {x : Object}

theorem run_charge {bytes : Nat} (h : m.HasRoom bytes) :
    charge bytes e m = .done () { m with memory := m.memory + bytes } := by
  unfold charge
  rw [run_bind_of_done run_machine]
  refine (run_congr (y := modifyMachine fun m' => { m' with memory := m.memory + bytes }) ?_ e m).trans rfl
  split
  · next limit hlimit => exact if_neg (Nat.not_lt.mpr (h limit hlimit))
  · rfl

theorem run_newObject {proto : ObjectId} {payload : Payload} (h : ({ proto := some proto, payload } : Object).handle? = none) :
    newObject proto payload e m = .done m.objects.size (m.made { proto := some proto, payload }) := run_alloc h

theorem run_modifyObject {f : Object → Object} {y : Object} (hx : m.objects[o]? = some x) (hy : x.change f = y) :
    modifyObject o f e m = .done () (m.filled o y) := by
  have hobjects : m.objects.modify o (·.change f) = m.objects.setIfInBounds o y := by
    apply Array.ext_getElem?
    intro i
    rw [Array.getElem?_modify, Array.getElem?_setIfInBounds]
    by_cases hi : o = i
    · subst hi
      obtain ⟨hlt, -⟩ := Array.getElem?_eq_some_iff.mp hx
      rw [if_pos rfl, if_pos rfl, if_pos hlt, hx, Option.map_some, hy]
    · rw [if_neg hi, if_neg hi]
  show Run.done () { m with objects := m.objects.modify o (·.change f) } = _
  rw [hobjects]
  rfl

theorem run_newText {s : String} (h : m.HasRoom (Native.string s).footprint) :
    newText (Text.ofString s) e m =
      .done (.text (Text.ofString s)) { m with memory := m.memory + (Native.string s).footprint } := by
  rw [Native.footprint] at h ⊢
  unfold newText
  by_cases hlong : 256 < (Text.ofString s).length
  · simp only [if_pos hlong] at h ⊢
    rw [run_bind_of_done (run_charge h)]
    rfl
  · simp only [if_neg hlong]
    rfl

theorem run_newBuffer {data : List UInt8} (h : m.HasRoom data.length) :
    (newBuffer data.toArray Intrinsic.bufferPrototype) e m =
      .done m.objects.size (m.made (.ofBytes data) data.length) := by
  have hsize : data.toArray.size = data.length := List.size_toArray
  unfold newBuffer
  rw [run_bind_of_done (run_charge (hsize ▸ h)), run_newObject rfl, hsize]
  rfl

theorem run_newArray (h : m.HasRoom 0) : newArray [] e m = .done m.objects.size (m.made (.ofItems [])) := by
  show (charge 0 >>= fun _ => newObject Intrinsic.arrayPrototype (.array #[] 0 false)) e m = _
  rw [run_bind_of_done (run_charge h), run_newObject rfl]
  rfl

section Set

variable {k : Key} {v receiver : Value}

theorem run_plainSet_of_absent (hx : m.objects[o]? = some x) (hreads : x.Reads k none) {y : Act (Option Refusal)}
    (hy : (match x.proto with
      | some p => setOn p k v receiver
      | none => assignReceiver k v receiver) = y) : plainSet o k v receiver e m = y e m := by
  unfold plainSet
  rw [run_bind_of_done (run_object hx)]
  refine (run_congr (hreads.match_element _ _) e m).trans ?_
  rw [← hy]
  exact run_bind_of_done (hreads.own o e m) _

theorem set_inherited {p : ObjectId} (hx : m.objects[o]? = some x) (hreads : x.Reads k none)
    (hproto : x.proto = some p) :
    (Engine.ofLevel (n + 1)).set o k v receiver m = (Engine.ofLevel n).set p k v receiver m := by
  show setRule o k v receiver (Engine.ofLevel n) m = _
  rw [setRule, run_unlessProxy hx hreads.notProxy, run_plainSet_of_absent hx hreads (by rw [hproto])]
  rfl

theorem set_absent (hx : m.objects[o]? = some x) (hreads : x.Reads k none) (hproto : x.proto = none) :
    (Engine.ofLevel (n + 1)).set o k v receiver m = assignReceiver k v receiver (Engine.ofLevel n) m := by
  show setRule o k v receiver (Engine.ofLevel n) m = _
  rw [setRule, run_unlessProxy hx hreads.notProxy, run_plainSet_of_absent hx hreads (by rw [hproto])]

theorem getOwn_eq {p? : Option Property} (hx : m.objects[o]? = some x) (hreads : x.Reads k p?) :
    (Engine.ofLevel (n + 1)).getOwn o k m = .done p? m := by
  show getOwnRule o k (Engine.ofLevel n) m = _
  rw [getOwnRule, run_unlessProxy hx hreads.notProxy, hreads.own]

theorem ne_length {i : Nat} (h : k.index? = some i) : (k == Key.ofString "length") = false := by
  have hnone : (Key.ofString "length").index? = none := by decide +kernel
  rw [beq_eq_false_iff_ne]
  rintro rfl
  rw [hnone] at h
  cases h

theorem reads_ofItems_of_le {vs : List Value} {i : Nat} (hindex : k.index? = some i) (hi : vs.length ≤ i) :
    (Object.ofItems vs).Reads k none := by
  refine Object.reads_listed rfl hindex ?_ rfl Object.not_lazy_of_none
  simp [Array.getD_eq_getD_getElem?, hi]

theorem putElement_ofItems (vs : List Value) (v : Value) :
    putElement (.ofItems vs) (vs.map some).toArray vs.length false vs.length (.plain v) = .ofItems (vs ++ [v]) := by
  have hsize : ¬ vs.length < (vs.map some).toArray.size := by simp
  have hgap : vs.length - (vs.map some).toArray.size = 0 := by simp
  simp only [putElement, Property.plain, Nat.le_refl, if_true, if_neg hsize, hgap, Nat.zero_le]
  simp [Object.ofItems]

theorem run_plainDefine_item {vs : List Value} (hx : m.objects[o]? = some (.ofItems vs)) (hsize : vs.length < 2 ^ 32 - 1)
    (hroom : m.HasRoom 16) : plainDefine o (.ofNat vs.length) (plainDescriptor v) e m =
      .done none (m.filled o (.ofItems (vs ++ [v])) 16) := by
  have hindex := Key.index?_ofNat hsize
  have hpayload : (Object.ofItems vs).payload = .array (vs.map some).toArray vs.length false := rfl
  have hextensible : (Object.ofItems vs).extensible = true := rfl
  have hfull : (vs.map some).toArray.size ≤ vs.length := by simp
  unfold plainDefine
  rw [run_bind_of_done (run_object hx)]
  simp only [hpayload, hindex, ne_length hindex, Bool.false_eq_true, if_false]
  rw [run_bind_of_done ((reads_ofItems_of_le hindex (Nat.le_refl _)).own o e m)]
  simp only [hextensible, Bool.not_true, Bool.false_and, Bool.false_eq_true, if_false, if_pos hfull]
  rw [run_bind_of_done (run_charge hroom)]
  rw [run_bind_of_done (run_modifyObject (m := { m with memory := m.memory + 16 }) hx
    (Object.change_eq (putElement_ofItems vs v) rfl rfl))]
  rfl

theorem put_item {vs : List Value} (h : m.Unaltered) (hx : m.objects[o]? = some (.ofItems vs))
    (hsize : vs.length < 2 ^ 32 - 1) (hroom : m.HasRoom 16) :
    put (.object o) (.ofNat vs.length) v true (Engine.ofLevel (n + 4)) m =
      .done () (m.filled o (.ofItems (vs ++ [v])) 16) := by
  have hindex := Key.index?_ofNat hsize
  obtain ⟨harray, hobject⟩ := Realm.reads_noElement (k := .ofNat vs.length) (by rw [hindex]; rfl)
  have hreads : (Object.ofItems vs).Reads (.ofNat vs.length) none := reads_ofItems_of_le hindex (Nat.le_refl _)
  have hdefine : (Engine.ofLevel (n + 1)).define o (.ofNat vs.length) (plainDescriptor v) m =
      .done none (m.filled o (.ofItems (vs ++ [v])) 16) := by
    show defineRule o _ _ (Engine.ofLevel n) m = _
    rw [defineRule, run_unlessProxy hx hreads.notProxy, run_plainDefine_item hx hsize hroom]
  have hassign : assignReceiver (.ofNat vs.length) v (.object o) (Engine.ofLevel (n + 1)) m =
      .done none (m.filled o (.ofItems (vs ++ [v])) 16) := by
    have hown : getOwn o (.ofNat vs.length) (Engine.ofLevel (n + 1)) m = .done none m := getOwn_eq hx hreads
    show (getOwn o (.ofNat vs.length) >>= _) (Engine.ofLevel (n + 1)) m = _
    rw [run_bind_of_done hown]
    exact hdefine
  have hset : setOn o (.ofNat vs.length) v (.object o) (Engine.ofLevel (n + 4)) m =
      .done none (m.filled o (.ofItems (vs ++ [v])) 16) := by
    show (Engine.ofLevel (n + 4)).set _ _ _ _ m = _
    rw [set_inherited hx hreads rfl, set_inherited (h.object (by decide)) harray Realm.proto_arrayPrototype,
      set_absent (h.object (by decide)) hobject Realm.proto_objectPrototype, hassign]
  show (setOn o (.ofNat vs.length) v (.object o) >>= _) (Engine.ofLevel (n + 4)) m = _
  rw [run_bind_of_done hset]
  rfl

end Set

theorem run_mapSet {es : List (Value × Value)} {k v target : Value} (hx : m.objects[o]? = some (.ofEntries es))
    (hnew : ∀ e ∈ es, sameValueZero e.1 k = false) (hroom : m.HasRoom 32) :
    runBuiltin (.collection .mapSet) (.object o) [k, v] target e m =
      .done (.object o) (m.filled o (.ofEntries (es ++ [(entryKey k, v)])) 32) := by
  have hplace : MapEntries.place? (es.map some).toArray k = none := by
    simp only [MapEntries.place?, List.findIdx?_toArray, List.findIdx?_map, List.findIdx?_eq_none_iff]
    exact fun e he => hnew e he
  have hentries : MapEntries.insert (es.map some).toArray k v = ((es ++ [(entryKey k, v)]).map some).toArray := by
    rw [MapEntries.insert, hplace]
    simp
  show (thisMap (.object o) >>= _) e m = _
  rw [run_bind_of_done (run_thisMap hx rfl), run_bind_of_done (run_charge hroom)]
  show (setPayload o (.map (MapEntries.insert (es.map some).toArray k v)) >>= _) e _ = _
  rw [hentries]
  exact run_bind_of_done (run_modifyObject (m := { m with memory := m.memory + 32 }) hx
    (Object.change_eq rfl rfl rfl)) _

theorem run_setAdd {vs : List Value} {v target : Value} (hx : m.objects[o]? = some (.ofElements vs))
    (hroom : m.HasRoom 32) : runBuiltin (.collection .setAdd) (.object o) [v] target e m =
      .done (.object o) (m.filled o (.ofElements (insertElement vs v)) 32) := by
  have hplace : (SetEntries.place? (vs.map some).toArray v).isSome = vs.any (sameValueZero · v) := by
    simp [SetEntries.place?, List.findIdx?_map, List.findIdx?_isSome, Function.comp_def]
  have helements : SetEntries.insert (vs.map some).toArray v = ((insertElement vs v).map some).toArray := by
    rw [SetEntries.insert, hplace, insertElement]
    split <;> simp
  show (thisSet (.object o) >>= _) e m = _
  rw [run_bind_of_done (run_thisSet hx rfl), run_bind_of_done (run_charge hroom)]
  show (setPayload o (.set (SetEntries.insert (vs.map some).toArray v)) >>= _) e _ = _
  rw [helements]
  exact run_bind_of_done (run_modifyObject (m := { m with memory := m.memory + 32 }) hx
    (Object.change_eq rfl rfl rfl)) _

section Construct

variable {c p : ObjectId} (hget : e.get c "prototype" (.object c) m = .done (.object p) m)
include hget

theorem run_filledContainer {proto : ObjectId} {payload : Payload} {adder : String} {pairs : Bool}
    (hnone : ({ proto := some p, payload } : Object).handle? = none) :
    filledContainer proto payload .undefined adder pairs (.object c) e m =
      .done (.object m.objects.size) (m.made { proto := some p, payload }) := by
  have hget' : get (.object c) "prototype" e m = .done (.object p) m := hget
  unfold filledContainer
  rw [run_bind_of_done hget', run_bind_of_done (run_pure e m p), run_bind_of_done (run_newObject hnone)]
  rfl

theorem run_protoOfTarget {fallback : ObjectId} : protoOfTarget (.object c) fallback e m = .done p m := by
  have hget' : get (.object c) "prototype" e m = .done (.object p) m := hget
  show (get (.object c) "prototype" >>= _) e m = _
  rw [run_bind_of_done hget']
  rfl

theorem run_constructRow {t : ElementType} {buffer : ObjectId} {xs : List t.Carrier}
    (hx : m.objects[buffer]? = some (.ofBytes (t.encode xs))) :
    constructRow (.plain t) [.object buffer] (.object c) e m =
      .done (.object m.objects.size)
        (m.made { proto := some p, payload := .typedArray (.plain t) buffer 0 xs.length }) := by
  have hbuffer : anyBuffer? (.object buffer) e m = .done (some buffer) m := by
    unfold anyBuffer?
    rw [run_bind_of_done (run_isBufferOf hx rfl false)]
    rfl
  have hindex : toBufferIndex .undefined e m = .done 0 m := rfl
  have hsize : (t.encode xs).toArray.size = xs.length * t.width := by
    rw [List.size_toArray, ElementType.length_encode]
  have hwidth : (ArrayElement.plain t).width = t.width := rfl
  show (anyBuffer? (.object buffer) >>= _) e m = _
  rw [run_bind_of_done hbuffer]
  show (toBufferIndex .undefined >>= _) e m = _
  rw [run_bind_of_done hindex, run_bind_of_done (run_bufferBytes ⟨_, false, hx, rfl⟩)]
  have harg : (arg [Value.object buffer] 2).isUndefined = true := rfl
  simp only [harg, if_true, hsize, hwidth, Nat.zero_mod, Nat.sub_zero, Nat.mul_mod_left,
    Nat.mul_div_cancel _ t.width_pos, bne_self_eq_false, Nat.not_lt_zero, decide_false, Bool.or_false,
    Bool.false_eq_true, if_false]
  rw [run_bind_of_done (run_pure e m xs.length), run_bind_of_done (run_protoOfTarget hget),
    run_bind_of_done (run_newObject rfl)]
  rfl

theorem run_constructDate {ms : Int} (hleast : Instant.leastMilliseconds ≤ ms)
    (hgreatest : ms ≤ Instant.greatestMilliseconds) : constructDate [.ofInt ms] (.object c) e m =
      .done (.object m.objects.size) (m.made { proto := some p, payload := .date (Double.ofInt ms) }) := by
  have hget' : get (.object c) "prototype" e m = .done (.object p) m := hget
  show (get (.object c) "prototype" >>= fun _ => _) e m = _
  rw [run_bind_of_done hget']
  show (newObject p (.date (clipTime (Double.ofInt ms))) >>= fun o => pure (Value.object o)) e m = _
  rw [clipTime_ofInt hleast hgreatest, run_bind_of_done (run_newObject rfl)]
  rfl

end Construct

theorem run_constructBigInt (k : Int) : runBuiltin (.primitive .constructBigInt) .undefined [.text (Text.ofInt k)]
    .undefined e m = .done (.bigint k) m := by
  have htext := bigIntOfText?_ofInt k
  -- Unification opens the text of a number where it is not hidden.
  generalize Text.ofInt k = t at htext
  have hvalue : bigIntOfValue (arg [.text t] 0) e m = .done k m := by
    show primitiveToBigInt (.text t) e m = _
    rw [primitiveToBigInt, htext]
    rfl
  rw [runBuiltin, primitiveFn]
  exact run_bind_of_done hvalue _

end Act

namespace Machine

variable {m : Machine} {n : Nat}

/-- The constructor of a kind is the builtin one. Guest code can do nothing about its prototype, which is constant. -/
def HasConstructor (m : Machine) (k : Kind) (b : Builtin) : Prop := ∃ c x, Intrinsic.ofKind? k = some c ∧
  m.objects[c]? = some x ∧ x.payload = .builtin b ∧
    x.Reads "prototype" (some (.constant (.object (Intrinsic.prototypeOf k))))

theorem HasConstructor.construct_eq {k : Kind} {c : ObjectId} {b : Builtin} {args : List Value} {x : Object}
    (h : m.HasConstructor k b) (hk : Intrinsic.ofKind? k = some c) (hdepth : m.depth < m.depthLimit)
    (hconstructor : b.isConstructor = true) (hrun : ∀ (e : Engine) (m' : Machine), m'.objects = m.objects →
      e.get c "prototype" (.object c) m' = .done (.object (Intrinsic.prototypeOf k)) m' →
      Act.runBuiltin b .undefined args (.object c) e m' = .done (.object m'.objects.size) (m'.made x)) :
    (Engine.ofLevel (n + 2)).construct (.object c) args (.object c) m = .done (.object m.objects.size) (m.made x) := by
  obtain ⟨c', y, hk', hy, hb, hreads⟩ := h
  cases hk.symm.trans hk'
  rw [Act.construct_builtin hy hb hdepth hconstructor,
    hrun _ (m.framed c (.object c) args) rfl (Act.get_own (m := m.framed c _ _) hy hreads)]
  rfl

theorem Unaltered.hasConstructor {k : Kind} {c : ObjectId} {b : Builtin} (h : m.Unaltered)
    (hk : Intrinsic.ofKind? k = some c) (hne : k ≠ .array)
    (hb : (Realm.siteAt? c).map (·.payload) = some (.builtin b)) : m.HasConstructor k b := by
  have hc := constructorSite_of_kind hk hne
  exact ⟨c, _, hk, h.object hc.crossing, Realm.payload_builtin hb, hc.reads_prototype⟩

theorem Unaltered.hasConstructor_typed (h : m.Unaltered) (t : ElementType) :
    m.HasConstructor (.typed t) (.typedArray (.construct (.plain t))) :=
  h.hasConstructor (c := Intrinsic.elementConstructor (.plain t)) rfl (fun hsame => (by cases hsame)) (by cases t <;> rfl)

theorem HasConstructor.construct_date {ms : Int} (h : m.HasConstructor .date (.date .construct))
    (hdepth : m.depth < m.depthLimit) (hleast : Instant.leastMilliseconds ≤ ms)
    (hgreatest : ms ≤ Instant.greatestMilliseconds) :
    (Engine.ofLevel (n + 2)).construct (.object Intrinsic.dateConstructor) [.ofInt ms]
      (.object Intrinsic.dateConstructor) m = .done (.object m.objects.size) (m.made (.ofTime (Double.ofInt ms))) :=
  h.construct_eq rfl hdepth rfl fun _ _ _ hget => Act.run_constructDate hget hleast hgreatest

theorem HasConstructor.construct_row {t : ElementType} {buffer : ObjectId} {xs : List t.Carrier}
    (h : m.HasConstructor (.typed t) (.typedArray (.construct (.plain t)))) (hdepth : m.depth < m.depthLimit)
    (hx : m.objects[buffer]? = some (.ofBytes (t.encode xs))) :
    (Engine.ofLevel (n + 2)).construct (.object (Intrinsic.elementConstructor (.plain t))) [.object buffer]
      (.object (Intrinsic.elementConstructor (.plain t))) m =
        .done (.object m.objects.size) (m.made (.ofRow t buffer xs.length)) :=
  h.construct_eq rfl hdepth rfl fun _ _ hobjects hget => Act.run_constructRow hget (hobjects ▸ hx)

end Machine

namespace Machine.Unaltered

variable {m : Machine} (h : m.Unaltered) {n : Nat} (hdepth : m.depth < m.depthLimit)
include h hdepth

theorem construct_map : (Engine.ofLevel (n + 2)).construct (.object Intrinsic.mapConstructor) []
    (.object Intrinsic.mapConstructor) m = .done (.object m.objects.size) (m.made (.ofEntries [])) :=
  (h.hasConstructor (k := .map) (b := .collection .constructMap) rfl (by decide) rfl).construct_eq rfl hdepth rfl
    fun _ _ _ hget => Act.run_filledContainer hget rfl

theorem construct_set : (Engine.ofLevel (n + 2)).construct (.object Intrinsic.setConstructor) []
    (.object Intrinsic.setConstructor) m = .done (.object m.objects.size) (m.made (.ofElements [])) :=
  (h.hasConstructor (k := .set) (b := .collection .constructSet) rfl (by decide) rfl).construct_eq rfl hdepth rfl
    fun _ _ _ hget => Act.run_filledContainer hget rfl

theorem construct_date {ms : Int} (hleast : Instant.leastMilliseconds ≤ ms) (hgreatest : ms ≤ Instant.greatestMilliseconds) :
    (Engine.ofLevel (n + 2)).construct (.object Intrinsic.dateConstructor) [.ofInt ms]
      (.object Intrinsic.dateConstructor) m = .done (.object m.objects.size) (m.made (.ofTime (Double.ofInt ms))) :=
  (h.hasConstructor (k := .date) rfl (by decide) rfl).construct_date hdepth hleast hgreatest

theorem construct_row {t : ElementType} {buffer : ObjectId} {xs : List t.Carrier}
    (hx : m.objects[buffer]? = some (.ofBytes (t.encode xs))) :
    (Engine.ofLevel (n + 2)).construct (.object (Intrinsic.elementConstructor (.plain t))) [.object buffer]
      (.object (Intrinsic.elementConstructor (.plain t))) m =
        .done (.object m.objects.size) (m.made (.ofRow t buffer xs.length)) :=
  (h.hasConstructor_typed t).construct_row hdepth hx

theorem call_bigInt (k : Int) : (Engine.ofLevel (n + 1)).call (.object Intrinsic.bigintConstructor) .undefined
    [.text (Text.ofInt k)] m = .done (.bigint k) m :=
  Act.call_builtin_of_done (h.object (by decide))
    (Realm.payload_builtin (show _ = some (Payload.builtin (.primitive .constructBigInt)) from rfl)) hdepth rfl
    (Act.run_constructBigInt k)

theorem run_adder {x y : Object} {o p : ObjectId} {name : String} {k : Key} {f : CollectionFn} {arity bytes : Nat}
    {args : List Value} (hx : m.objects[o]? = some x) (hreads : x.Reads name none) (hproto : x.proto = some p)
    (hp : p ∈ Intrinsic.crossing) (htable : (Realm.siteAt? p).map (·.payload.isTable) = some true)
    (hk : Realm.member? p name = some (.method k (.collection f) arity)) (hnew : (Builtin.collection f).requiresNew = false)
    (hroom : m.HasRoom bytes)
    (hrun : ∀ (e : Engine) (m' : Machine), m'.objects[o]? = some x → m'.HasRoom bytes →
      Act.runBuiltin (.collection f) (.object o) args .undefined e m' = .done (.object o) (m'.filled o y bytes)) :
    (Bridge.callMethod o name args).run (Engine.ofLevel (n + 2)) m = .done (.ok (.object o)) (m.filled o y bytes) := by
  obtain ⟨g, z, hget, hz, hb⟩ := h.get_method (n := n) (.object o) hp htable hk
  have hmethod : (Engine.ofLevel (n + 2)).get o name (.object o) m = .done (.object g) m :=
    (Act.get_inherited hx hreads hproto).trans hget
  have hcall : (Engine.ofLevel (n + 2)).call (.object g) (.object o) args (m.rooted (.object g :: .object o :: args)) =
      .done (.object o) ((m.rooted (.object g :: .object o :: args)).filled o y bytes) := by
    rw [Act.call_builtin (m := m.rooted _) hz hb hdepth hnew]
    exact congrArg (Run.leaving · _) (hrun _ ((m.rooted _).framed g _ _) hx hroom)
  exact Bridge.run_callMethod hmethod hz (by simp [Object.isCallable, hb]) hcall

end Machine.Unaltered

def Machine.exposing (m : Machine) (h : Handle) : Machine :=
  { m with objects := m.objects.push (.ofHandle h), roots := .value (.object m.objects.size) :: m.roots }

namespace Bridge

variable {I : List Lease → Machine → Prop} {e : Engine} {m m' : Machine} {grants : List Lease}

theorem constructKind_serves {β : Type} {k : Kind} {c o : ObjectId} {args : List Value} {f : ObjectId → Bridge β}
    {needs : List Need} {post : β → List Lease → Machine → Prop} (hinv : I grants m)
    (hk : Intrinsic.ofKind? k = some c)
    (hconstruct : e.construct (.object c) args (.object c) m = .done (.object o) m')
    (hf : (f o).Serves I e m' needs grants post) : (constructKind k args >>= f).Serves I e m needs grants post := by
  have hkind : (constructKind k args).Serves I e m [] grants fun o' gs m'' => o' = o ∧ gs = grants ∧ m'' = m' := by
    unfold constructKind
    apply Serves.requireLive hinv
    rw [hk]
    exact Serves.step (run_check_of_done hconstruct) (.pure ⟨rfl, rfl, rfl⟩)
  apply hkind.bind
  rintro _ _ _ ⟨rfl, rfl, rfl⟩
  exact hf

theorem newBigInt_serves {n : Int} {v : Value} {P : Value → List Lease → Machine → Prop} (hinv : I grants m)
    (hcall : e.call (.object Intrinsic.bigintConstructor) .undefined [.text (Text.ofInt n)] m = .done v m)
    (hpost : P v grants m) : (newBigInt n).Serves I e m [] grants P := by
  unfold newBigInt
  exact Serves.requireLive hinv (.of_done (run_check_of_done hcall) hpost)

theorem run_newBytes {data : List UInt8} (h : m.HasRoom data.length) :
    (newBytes data).run e m = .done (.ok m.objects.size) (m.made (.ofBytes data) data.length) :=
  run_check_of_done (Act.run_newBuffer h)

theorem expose_serves {β : Type} {f : HostFn} {k : Handle × ObjectId → Bridge β} {needs : List Need}
    {post : β → List Lease → Machine → Prop} (hinv : I grants m)
    (hk : ∀ h, (k (h, m.objects.size)).Serves I e (m.exposing h) needs (grants ++ [⟨m.objects.size, h⟩]) post) :
    (expose f >>= k).Serves I e m (.function f :: needs) grants post := by
  refine ⟨rfl, hinv, fun r => ?_⟩
  cases r with
  | error err => exact ⟨m.roots, rfl⟩
  | ok h =>
    have hobject : (m.grant (.register f) (.ok h)).objects[m.objects.size]? = some (Machine.functionOf h) :=
      Array.getElem?_push_size
    have hchange : (Machine.functionOf h).change (·.putProperty "length" (.fixed (.ofNat 0))) = .ofHandle h := by
      simp [Object.change, Machine.functionOf, Object.putProperty, Object.findIndex?, Object.ofHandle]
    have hput : Act.putProperty m.objects.size "length" (.fixed (.ofNat 0)) e (m.grant (.register f) (.ok h)) =
        .done () ((m.grant (.register f) (.ok h)).filled m.objects.size (.ofHandle h)) :=
      Act.run_modifyObject hobject hchange
    have hfilled : { (m.grant (.register f) (.ok h)).filled m.objects.size (.ofHandle h) with
        roots := .value (.object m.objects.size) :: m.roots } = m.exposing h := by
      simp [Machine.filled, Machine.exposing, Machine.grant, Machine.setIfInBounds_push_size]
    have hdone : (ofGuest do
        Act.putProperty m.objects.size "length" (.fixed (.ofNat 0))
        Act.hold (.object m.objects.size)).run e (m.grant (.register f) (.ok h)) = .done (.ok ()) (m.exposing h) := by
      rw [run_ofGuest, Act.run_bind_of_done hput, ← hfilled]
      rfl
    have hrest : ((do
        let h ← ofExcept (.ok h)
        ofGuest do
          Act.putProperty m.objects.size "length" (.fixed (.ofNat 0))
          Act.hold (.object m.objects.size)
        return (h, m.objects.size) : Bridge (Handle × ObjectId)) >>= k).Serves I e (m.grant (.register f) (.ok h)) needs
          (grants ++ [⟨m.objects.size, h⟩]) post := by
      rw [bind_assoc]
      apply Serves.step rfl
      rw [bind_assoc]
      exact Serves.step hdone (Serves.step rfl (hk h))
    exact hrest

end Bridge

end Embedding.Guest
