import Embedding.Proofs.Elements
import Embedding.Proofs.Shows
import Embedding.Proofs.Words

namespace Embedding.Guest

/-- An object is a buffer with these bytes. -/
def Machine.HasBytes (m : Machine) (b : ObjectId) (bytes : Array UInt8) : Prop :=
  ∃ x shared, m.objects[b]? = some x ∧ x.payload = .buffer bytes shared

/-- An object is asked for its bytes through the builtin functions. -/
structure Machine.TellsBytes (m : Machine) (far : Nat) (o : ObjectId) : Prop where
  buffer : m.HasBuiltin far o "buffer" Property.IsGetter (.typedArray .buffer)
  byteOffset : m.HasBuiltin far o "byteOffset" Property.IsGetter (.typedArray .byteOffset)
  byteLength : m.HasBuiltin far o "byteLength" Property.IsGetter (.typedArray .byteLength)

namespace Machine.TellsBytes

variable {m m' : Machine} {far : Nat} {o p : ObjectId} {x : Object}

theorem keep (h : m.TellsBytes far o) (hkeeps : Keeps (fun _ => True) m.objects m'.objects) : m'.TellsBytes far o where
  buffer := h.buffer.keep hkeeps
  byteOffset := h.byteOffset.keep hkeeps
  byteLength := h.byteLength.keep hkeeps

theorem inherit (h : m.TellsBytes far p) (hx : m.objects[o]? = some x)
    (hreads : ∀ k ∈ ["buffer", "byteOffset", "byteLength"], x.Reads (Key.ofString k) none) (hproto : x.proto = some p) :
    m.TellsBytes (far + 1) o where
  buffer := h.buffer.inherit hx (hreads _ (by simp)) hproto
  byteOffset := h.byteOffset.inherit hx (hreads _ (by simp)) hproto
  byteLength := h.byteLength.inherit hx (hreads _ (by simp)) hproto

end Machine.TellsBytes

namespace Act

variable {e : Engine} {m : Machine} {o : ObjectId}

theorem run_bufferBytes {bytes : Array UInt8} (h : m.HasBytes o bytes) : bufferBytes o e m = .done bytes m := by
  obtain ⟨x, shared, hx, hbytes⟩ := h
  show (object o >>= _) e m = _
  rw [run_bind_of_done (run_object hx)]
  simp only [hbytes]
  rfl

section Buffer

variable {x : Object} {bytes : Array UInt8} (hx : m.objects[o]? = some x) (hbytes : x.payload = .buffer bytes false)
include hx hbytes

theorem run_isBufferOf (shared : Bool) :
    isBufferOf shared (.object o) e m = .done (if shared then none else some o) m := by
  show (object o >>= _) e m = _
  rw [run_bind_of_done (run_object hx)]
  simp only [hbytes]
  cases shared <;> rfl

theorem run_byteLength {args : List Value} {target : Value} :
    runBuiltin (.buffer (.byteLength false)) (.object o) args target e m = .done (.ofNat bytes.size) m := by
  have hthis : thisBuffer false (.object o) e m = .done o m := by
    unfold thisBuffer
    rw [run_bind_of_done (run_isBufferOf hx hbytes false)]
    rfl
  show (thisBuffer false (.object o) >>= fun b => bufferBytes b >>= _) e m = _
  rw [run_bind_of_done hthis, run_bind_of_done (run_bufferBytes ⟨x, false, hx, hbytes⟩)]
  rfl

end Buffer

section Row

variable {x : Object} {t : ElementType} {buffer : ObjectId} {offset length : Nat} (hx : m.objects[o]? = some x)
  (hrow : x.payload = .typedArray (.plain t) buffer offset length) {args : List Value} {target : Value}
include hx hrow

theorem run_thisRow : thisRow (.object o) e m = .done ⟨o, .plain t, buffer, offset, length⟩ m := by
  have hfound : rowOf? (.object o) e m = .done (some ⟨o, .plain t, buffer, offset, length⟩) m := by
    show (object o >>= _) e m = _
    rw [run_bind_of_done (run_object hx)]
    simp only [hrow]
    rfl
  unfold thisRow
  rw [run_bind_of_done hfound]
  rfl

theorem run_rowBuffer : runBuiltin (.typedArray .buffer) (.object o) args target e m = .done (.object buffer) m := by
  show (thisRow (.object o) >>= _) e m = _
  rw [run_bind_of_done (run_thisRow hx hrow)]
  rfl

theorem run_rowByteLength :
    runBuiltin (.typedArray .byteLength) (.object o) args target e m = .done (.ofNat (length * t.width)) m := by
  show (thisRow (.object o) >>= _) e m = _
  rw [run_bind_of_done (run_thisRow hx hrow)]
  rfl

theorem run_rowByteOffset :
    runBuiltin (.typedArray .byteOffset) (.object o) args target e m = .done (.ofNat offset) m := by
  show (thisRow (.object o) >>= _) e m = _
  rw [run_bind_of_done (run_thisRow hx hrow)]
  rfl

end Row

theorem run_getTime {x : Object} {time : Double} (hx : m.objects[o]? = some x) (htime : x.payload = .date time)
    {args : List Value} {target : Value} :
    runBuiltin (.date .getTime) (.object o) args target e m = .done (.number time) m := by
  have hthis : thisTime (.object o) e m = .done time m := by
    show (object o >>= _) e m = _
    rw [run_bind_of_done (run_object hx)]
    simp only [htime]
    rfl
  show (thisTime (.object o) >>= _) e m = _
  rw [run_bind_of_done hthis]
  rfl

end Act

namespace Bridge

variable {m : Machine} {o : ObjectId}

theorem run_countOf {e : Engine} {name : String} {k : Nat} (hget : e.get o name (.object o) m = .done (.ofNat k) m)
    (hk : k < 2 ^ 53) : (countOf o name).run e m = .done (.ok k) m := by
  have hproperty : (getProperty o name).run e m = .done (.ok (.ofNat k)) m := run_check_of_done hget
  have hdouble : (asDouble (.ofNat k)).run e m = .done (.ok (Double.ofInt k)) m := rfl
  have hcount : ((Double.ofInt k).clamp 0 wordLimit).toNat = k := Double.word_ofInt hk
  unfold countOf
  rw [run_after hproperty, run_after hdouble, hcount]
  rfl

theorem countOf_ends {e : Engine} {name : String} {k : Nat}
    (hget : e.get o name (.object o) m = .done (.ofNat k) m) (hk : k < 2 ^ 53) :
    (countOf o name).Ends e m fun k' m' => k' = k ∧ m' = m :=
  .of_done (run_countOf hget hk) ⟨rfl, rfl⟩

theorem run_callMethod_eq {e : Engine} {name : String} {args : List Value} {g : ObjectId} {y : Object}
    (hget : e.get o name (.object o) m = .done (.object g) m) (hy : m.objects[g]? = some y)
    (hcallable : y.isCallable = true) : (callMethod o name args).run e m =
      (check (Act.holding (.object g :: .object o :: args) (Act.call (.object g) (.object o) args))).run e m := by
  have hmethod : (getProperty o name).run e m = .done (.ok (.object g)) m := run_check_of_done hget
  have htest : (ofGuest (Act.isCallable (.object g))).run e m = .done (.ok true) m := by
    rw [← hcallable, run_ofGuest]
    show Run.andThen ((Act.object g >>= _) e m) _ = _
    rw [Act.run_bind_of_done (Act.run_object hy)]
    rfl
  unfold callMethod
  rw [run_after hmethod, run_after htest]
  rfl

theorem run_callMethod {e : Engine} {name : String} {args : List Value} {g : ObjectId} {y : Object} {v : Value}
    {m' : Machine} (hget : e.get o name (.object o) m = .done (.object g) m) (hy : m.objects[g]? = some y)
    (hcallable : y.isCallable = true)
    (hcall : e.call (.object g) (.object o) args (m.rooted (.object g :: .object o :: args)) = .done v m') :
    (callMethod o name args).run e m = .done (.ok v) { m' with roots := m.roots } := by
  have hheld : Act.holding (.object g :: .object o :: args) (Act.call (.object g) (.object o) args) e m =
      .done v { m' with roots := m.roots } := by
    rw [Act.run_holding, Act.call, hcall]
    rfl
  rw [run_callMethod_eq hget hy hcallable]
  exact run_check_of_done hheld

theorem run_callMethod_of_same {e : Engine} {name : String} {args : List Value} {g : ObjectId} {y : Object} {v : Value}
    (hget : e.get o name (.object o) m = .done (.object g) m) (hy : m.objects[g]? = some y)
    (hcallable : y.isCallable = true) (hcall : e.call (.object g) (.object o) args
      (m.rooted (.object g :: .object o :: args)) = .done v (m.rooted (.object g :: .object o :: args))) :
    (callMethod o name args).run e m = .done (.ok v) m := by
  rw [run_callMethod hget hy hcallable hcall]
  rfl

section Bytes

variable {e : Engine} {b : ObjectId} {bytes : Array UInt8}

theorem run_bytesOf (h : m.HasBytes b bytes) : (bytesOf (.object b)).run e m = .done (.ok bytes) m := by
  obtain ⟨x, shared, hx, hbytes⟩ := h
  have hobject : (ofGuest (Act.object b)).run e m = .done (.ok x) m := by
    rw [run_ofGuest, Act.run_object hx]
    rfl
  unfold bytesOf
  rw [run_after hobject]
  simp only [hbytes]
  rfl

theorem run_bufferBytes (hbytes : m.HasBytes b bytes)
    (hget : e.get b "byteLength" (.object b) m = .done (.ofNat bytes.size) m) (hsmall : bytes.size < 2 ^ 53) :
    (bufferBytes b).run e m = .done (.ok bytes.toList) m := by
  unfold bufferBytes
  rw [run_after (run_countOf hget hsmall), run_after (run_bytesOf hbytes), Array.extract_size]
  rfl

theorem run_typedItems {offset count : Nat} (t : ElementType)
    (hbuffer : e.get o "buffer" (.object o) m = .done (.object b) m) (hbytes : m.HasBytes b bytes)
    (hoffset : e.get o "byteOffset" (.object o) m = .done (.ofNat offset) m)
    (hcount : e.get o "byteLength" (.object o) m = .done (.ofNat count) m) (hroom : offset + count ≤ bytes.size)
    (hsmall : bytes.size < 2 ^ 53) :
    (typedItems t o).run e m = .done (.ok (t.decode ((bytes.toList.drop offset).take count))) m := by
  have hproperty : (getProperty o "buffer").run e m = .done (.ok (.object b)) m := run_check_of_done hbuffer
  unfold typedItems
  rw [run_after hproperty, run_after (run_bytesOf hbytes), run_after (run_countOf hoffset (by omega)),
    run_after (run_countOf hcount (by omega))]
  simp only [Value.isObject, if_true]
  rw [run_after (run_bytesOf hbytes), run_after (run_addWords (by omega)), decodeBetween, bytesBetween?_add,
    if_pos hroom]
  rfl

end Bytes

section Time

variable {e : Engine} {m' : Machine} {time : Double} {ms : Int}

theorem ofMilliseconds?_clamp (hms : time.truncated? = some ms) :
    Instant.ofMilliseconds? (time.clamp (-(2 ^ 63)) (2 ^ 63 - 1)) = Instant.ofMilliseconds? ms := by
  have hclamp : time.clamp (-(2 ^ 63)) (2 ^ 63 - 1) = max (-(2 ^ 63)) (min (2 ^ 63 - 1) ms) := by
    rw [Double.clamp, hms]
  rw [hclamp, Instant.ofMilliseconds?, Instant.ofMilliseconds?]
  unfold Instant.leastMilliseconds Instant.greatestMilliseconds
  by_cases hword : -(2 ^ 63) ≤ ms ∧ ms ≤ 2 ^ 63 - 1
  · rw [show max (-(2 ^ 63)) (min (2 ^ 63 - 1) ms) = ms by omega]
  · rw [if_neg (by omega), if_neg (by omega)]

def instantOf (time : Double) : Bridge Instant := do
  if !time.isFinite then throw (.conversion "invalid date" "DateTime<Utc>")
  match Instant.ofMilliseconds? (time.clamp (-(2 ^ 63)) (2 ^ 63 - 1)) with
  | some i => return i
  | none => throw (.conversion ("date at " ++ time.format .plain ++ " ms") "DateTime<Utc>")

theorem dateOf_eq (o : ObjectId) : dateOf o = callMethod o "getTime" [] >>= fun v => asDouble v >>= instantOf := rfl

theorem run_instantOf (hms : time.truncated? = some ms) (hleast : Instant.leastMilliseconds ≤ ms)
    (hgreatest : ms ≤ Instant.greatestMilliseconds) :
    (instantOf time).run e m = .done (.ok (Instant.ofMilliseconds ms)) m := by
  have hfinite : time.isFinite = true := by rw [time.isFinite_eq_isSome_truncated?, hms, Option.isSome_some]
  have hinstant := (ofMilliseconds?_clamp hms).trans (if_pos ⟨hleast, hgreatest⟩)
  unfold instantOf
  simp only [hfinite, Bool.not_true, Bool.false_eq_true, if_false, hinstant]
  rfl

theorem run_dateOf (hrun : (callMethod o "getTime" []).run e m = .done (.ok (.number time)) m') :
    (dateOf o).run e m = (instantOf time).run e m' := by
  rw [dateOf_eq, run_after hrun]
  rfl

end Time

end Bridge

/-- A date that is asked for its time through the builtin function. -/
structure Machine.KeepsTime (m : Machine) (far : Nat) (o : ObjectId) (time : Double) : Prop where
  holds : ∃ x, m.objects[o]? = some x ∧ x.payload = .date time
  getTime : m.HasBuiltin far o "getTime" Property.IsMethod (.date .getTime)

theorem Machine.KeepsTime.run_getTime {m : Machine} {far n : Nat} {o : ObjectId} {time : Double}
    (h : m.KeepsTime far o time) (hdepth : m.depth < m.depthLimit) :
    (Bridge.callMethod o "getTime" []).run (Engine.ofLevel (far + n + 1)) m = .done (.ok (.number time)) m := by
  obtain ⟨x, hx, htime⟩ := h.holds
  obtain ⟨g, y, hget, hy, hb⟩ := h.getTime.exists_get (n := n) (.object o)
  have hcall : (Engine.ofLevel (far + n + 1)).call (.object g) (.object o) [] (m.rooted [.object g, .object o]) =
      .done (.number time) (m.rooted [.object g, .object o]) :=
    Act.call_builtin_of_done (m := m.rooted _) hy hb hdepth rfl
      (Act.run_getTime (m := (m.rooted _).framed g _ _) hx htime)
  exact Bridge.run_callMethod_of_same hget hy (by simp [Object.isCallable, hb]) hcall

/-- A row of elements is read at the element type that it is asked for. Its own only says how many bytes it has. -/
theorem Machine.TellsBytes.run_typedItems {m : Machine} {far n : Nat} {o b : ObjectId} {x : Object} {s : ElementType}
    {offset length : Nat} {bytes : Array UInt8} (h : m.TellsBytes far o) (t : ElementType) (hdepth : m.depth < m.depthLimit)
    (hx : m.objects[o]? = some x) (hrow : x.payload = .typedArray (.plain s) b offset length) (hbytes : m.HasBytes b bytes)
    (hroom : offset + length * s.width ≤ bytes.size) (hsmall : bytes.size < 2 ^ 53) :
    (Bridge.typedItems t o).run (Engine.ofLevel (far + n + 2)) m =
      .done (.ok (t.decode ((bytes.toList.drop offset).take (length * s.width)))) m := by
  have hbuffer := h.buffer.get_eq (n := n) hdepth rfl fun _ g =>
    Act.run_rowBuffer (m := m.framed g _ _) hx hrow
  have hoffset := h.byteOffset.get_eq (n := n) hdepth rfl fun _ g =>
    Act.run_rowByteOffset (m := m.framed g _ _) hx hrow
  have hcount := h.byteLength.get_eq (n := n) hdepth rfl fun _ g =>
    Act.run_rowByteLength (m := m.framed g _ _) hx hrow
  exact Bridge.run_typedItems t hbuffer hbytes hoffset hcount hroom hsmall

namespace Machine.Unaltered

variable {m : Machine} (h : m.Unaltered) {n : Nat} {o : ObjectId}
include h

theorem hasBuiltin_byteLength :
    m.HasBuiltin 0 Intrinsic.bufferPrototype "byteLength" Property.IsGetter (.buffer (.byteLength false)) :=
  h.hasBuiltin_getter (by decide) (by decide +kernel) rfl

theorem tellsBytes_typedArrayPrototype : m.TellsBytes 0 Intrinsic.typedArrayPrototype where
  buffer := h.hasBuiltin_getter (by decide) (by decide +kernel) rfl
  byteOffset := h.hasBuiltin_getter (by decide) (by decide +kernel) rfl
  byteLength := h.hasBuiltin_getter (by decide) (by decide +kernel) rfl

theorem tellsBytes (t : ElementType) : m.TellsBytes 1 (Intrinsic.elementPrototype (.plain t)) := by
  have hcrossing : Intrinsic.elementPrototype (.plain t) ∈ Intrinsic.crossing := by cases t <;> decide
  have hsite : (Realm.siteAt? (Intrinsic.elementPrototype (.plain t))).map (fun s => (s.proto, s.payload.isTable)) =
      some (some Intrinsic.typedArrayPrototype, true) := by cases t <;> decide +kernel
  have habsent : ∀ k ∈ ["buffer", "byteOffset", "byteLength"],
      Realm.member? (Intrinsic.elementPrototype (.plain t)) (Key.ofString k) = none := by cases t <;> decide +kernel
  obtain ⟨s, hs, hboth⟩ := Option.map_eq_some_iff.mp hsite
  obtain ⟨hproto, htable⟩ := Prod.ext_iff.mp hboth
  refine h.tellsBytes_typedArrayPrototype.inherit (h.object hcrossing) (fun k hk => ?_)
    (Realm.proto_builtin (by rw [hs]; exact congrArg some hproto))
  exact Object.reads_of_isTable (Realm.isTable_builtin (by rw [hs]; exact congrArg some htable))
    (Realm.property?_builtin_of_absent (isSome_siteAt?_of_crossing _ hcrossing) (habsent k hk)) Object.not_lazy_of_none

omit h in
theorem itemAt_ends {vs : List Value} {v : Value} {i : Nat} (hx : m.objects[o]? = some (.ofItems vs))
    (hv : vs[i]? = some v) (hi : i < 2 ^ 32 - 1) :
    (Bridge.itemAt o i).Ends (Engine.ofLevel (n + 1)) m fun v' m' => v' = v ∧ m' = m := by
  have hindex := Key.index?_ofNat hi
  have helement : (vs.map some).toArray.getD i none = some v := by simp [Array.getD_eq_getD_getElem?, hv]
  exact .check (Act.get_own hx (Object.reads_element rfl hindex helement)) ⟨rfl, rfl⟩

omit h in
theorem arrayItems_ends {convert : Value → Bridge Native} {es : List (Value × Native)}
    (hx : m.objects[o]? = some (.ofItems (es.map (·.1)))) (hlength : es.length < 2 ^ 32)
    (hconvert : ∀ e ∈ es, ∀ m', m.Follows (fun _ => True) m' →
      (convert e.1).Ends (Engine.ofLevel (n + 1)) m' fun t m'' => t = e.2 ∧ m'.Follows (fun _ => True) m'') :
    (Bridge.arrayItems convert o).Ends (Engine.ofLevel (n + 1)) m fun ts m' =>
      ts = es.map (·.2) ∧ m.Follows (fun _ => True) m' := by
  have hsize : (es.map (·.1)).length = es.length := List.length_map _
  have hget : (Engine.ofLevel (n + 1)).get o "length" (.object o) m = .done (.ofNat es.length) m := by
    rw [← hsize]
    exact Act.get_own hx (Object.reads_length rfl)
  have hitems : (List.range es.length).map (fun i => (es[i]?.map (·.2)).getD .null) = es.map (·.2) := by
    apply List.ext_getElem
    · simp
    · intro i hi hi'
      simp at hi
      simp [hi]
  unfold Bridge.arrayItems
  apply Bridge.Ends.andThen (Bridge.countOf_ends hget (by omega))
  rw [Nat.mod_eq_of_lt hlength, ← hitems]
  apply Bridge.Ends.mapM .refl
  intro i hi m' hfollows
  have hlt : i < es.length := List.mem_range.mp hi
  have hv : (es.map (·.1))[i]? = some es[i].1 := by simp [hlt]
  apply Bridge.Ends.andThen (itemAt_ends (hfollows.keeps o _ trivial hx) hv (by omega))
  apply Bridge.Ends.holding
  have hrooted : m.Follows (fun _ => True) (m'.rooted [es[i].1]) :=
    ⟨hfollows.keeps, hfollows.size_le, hfollows.depth, hfollows.depthLimit⟩
  apply (hconvert es[i] (List.getElem_mem hlt) _ hrooted).imp
  rintro t m'' ⟨rfl, hstep⟩
  refine ⟨by simp [hlt], ?_⟩
  have hall := hrooted.trans hstep
  exact ⟨hall.keeps, hall.size_le, hall.depth, hall.depthLimit⟩

theorem bufferBytes_ends {data : List UInt8} (hdepth : m.depth < m.depthLimit)
    (hx : m.objects[o]? = some (.ofBytes data)) (hlength : data.length < 2 ^ 53) :
    (Bridge.bufferBytes o).Ends (Engine.ofLevel (n + 3)) m fun bytes m' => bytes = data ∧ m' = m := by
  have hreads : (Object.ofBytes data).Reads "byteLength" none := Object.reads_of_isTable rfl rfl Object.not_lazy_of_none
  have hget := (h.hasBuiltin_byteLength.inherit hx hreads rfl).get_eq (n := n) hdepth rfl
    fun _ g => Act.run_byteLength (m := m.framed g _ _) hx rfl
  rw [show 0 + 1 + n + 2 = n + 3 by omega] at hget
  exact .of_done (Bridge.run_bufferBytes ⟨_, false, hx, rfl⟩ hget hlength) ⟨rfl, rfl⟩

section Row

variable {x : Object} {s t : ElementType} {buffer : ObjectId} {offset length : Nat} (hdepth : m.depth < m.depthLimit)
  (hx : m.objects[o]? = some x) (hrow : x.payload = .typedArray (.plain s) buffer offset length)
  (hproto : x.proto = some (Intrinsic.elementPrototype (.plain t)))
include hdepth hx hrow hproto

/-- What an object says are its elements are the bytes behind it, read at the element type that it is asked for. Its own
element type does not come into it. -/
theorem typedItems_of_row_ends {data : List UInt8}
    (hown : ∀ k ∈ ["buffer", "byteOffset", "byteLength"], x.property? (Key.ofString k) = none)
    (hy : m.objects[buffer]? = some (.ofBytes data)) (hroom : offset + length * s.width ≤ data.length)
    (hlength : data.length < 2 ^ 53) :
    (Bridge.typedItems t o).Ends (Engine.ofLevel (n + 4)) m fun ys m' =>
      ys = t.decode ((data.drop offset).take (length * s.width)) ∧ m' = m := by
  have htells := (h.tellsBytes t).inherit hx (fun k hk => Object.reads_of_typedArray hrow (by revert k; decide +kernel)
    (hown k hk) Object.not_lazy_of_none) hproto
  have hrun := htells.run_typedItems (n := n) t hdepth hx hrow ⟨_, false, hy, rfl⟩ (by simpa using hroom) hlength
  rw [show 1 + 1 + n + 2 = n + 4 by omega] at hrun
  exact .of_done hrun ⟨rfl, rfl⟩

end Row

theorem typedItems_ends {t : ElementType} {buffer : ObjectId} {xs : List t.Carrier} (hdepth : m.depth < m.depthLimit)
    (hx : m.objects[o]? = some (.ofRow t buffer xs.length)) (hy : m.objects[buffer]? = some (.ofBytes (t.encode xs)))
    (hlength : xs.length * t.width < 2 ^ 53) :
    (Bridge.typedItems t o).Ends (Engine.ofLevel (n + 4)) m fun ys m' => ys = xs ∧ m' = m := by
  have hsize : (t.encode xs).length = xs.length * t.width := ElementType.length_encode t xs
  apply (h.typedItems_of_row_ends hdepth hx rfl rfl (fun _ _ => rfl) hy (by omega) (by omega)).imp
  rintro ys m' ⟨rfl, rfl⟩
  refine ⟨?_, rfl⟩
  rw [List.drop_zero, ← hsize, List.take_length, ElementType.decode_encode]

theorem hasBuiltin_getTime :
    m.HasBuiltin 0 Intrinsic.datePrototype "getTime" Property.IsMethod (.date .getTime) :=
  h.hasBuiltin_method (by decide) (by decide +kernel) rfl

theorem dateOf_ends {ms : Int} (hdepth : m.depth < m.depthLimit)
    (hx : m.objects[o]? = some (.ofTime (Double.ofInt ms))) (hleast : Instant.leastMilliseconds ≤ ms)
    (hgreatest : ms ≤ Instant.greatestMilliseconds) :
    (Bridge.dateOf o).Ends (Engine.ofLevel (n + 4)) m fun i m' => i = Instant.ofMilliseconds ms ∧ m' = m := by
  have hsmall : ms.natAbs < 2 ^ 53 := by
    unfold Instant.leastMilliseconds at hleast
    unfold Instant.greatestMilliseconds at hgreatest
    omega
  have hreads : (Object.ofTime (Double.ofInt ms)).Reads "getTime" none :=
    Object.reads_of_isTable rfl rfl Object.not_lazy_of_none
  have hkeeps : m.KeepsTime 1 o (Double.ofInt ms) := ⟨⟨_, hx, rfl⟩, h.hasBuiltin_getTime.inherit hx hreads rfl⟩
  have htime := hkeeps.run_getTime (n := n + 2) hdepth
  rw [show 1 + (n + 2) + 1 = n + 4 by omega] at htime
  have hms : (Double.ofInt ms).truncated? = some ms := Double.truncated?_of_toInt? (Double.toInt?_ofInt hsmall)
  exact .of_done ((Bridge.run_dateOf htime).trans (Bridge.run_instantOf hms hleast hgreatest)) ⟨rfl, rfl⟩

end Machine.Unaltered

end Embedding.Guest
