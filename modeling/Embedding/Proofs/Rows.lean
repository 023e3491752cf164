import Embedding.Proofs.RoundTrip
import Embedding.Proofs.RunOutcomes

namespace Embedding

theorem Guest.readBytes_eq (bytes : Array UInt8) (place width : Nat) :
    readBytes bytes place width = ofLittleEndian ((bytes.toList.drop place).take width) := by
  rw [readBytes, Array.toList_extract, List.extract_eq_take_drop, Nat.add_sub_cancel_left]

/-- So many elements of a type, one after the other, from a place in a buffer on. -/
structure Window (t : ElementType) (bytes : Array UInt8) where
  offset : Nat
  length : Nat
  inside : offset + length * t.width ≤ bytes.size

namespace Window

variable {t t' : ElementType} {bytes : Array UInt8} (w : Window t bytes) (w' : Window t' bytes)

def part : List UInt8 := (bytes.toList.drop w.offset).take (w.length * t.width)

def items : List t.Carrier := t.decode w.part

/-- A place in the buffer lies in the window. -/
def Covers (p : Nat) : Prop := w.offset ≤ p ∧ p < w.offset + w.length * t.width

def onto {new : Array UInt8} (hsize : new.size = bytes.size) : Window t new where
  offset := w.offset
  length := w.length
  inside := hsize ▸ w.inside

def whole (t : ElementType) (xs : List t.Carrier) : Window t (t.encode xs).toArray where
  offset := 0
  length := xs.length
  inside := Nat.le_of_eq (by rw [List.size_toArray, t.length_encode, Nat.zero_add])

theorem length_part : w.part.length = w.length * t.width := by
  have hinside := w.inside
  rw [part, List.length_take_of_le (by rw [List.length_drop, Array.length_toList]; omega)]

theorem length_items : w.items.length = w.length := by
  rw [items, t.length_decode, length_part, Nat.mul_div_cancel _ t.width_pos]

theorem encode_items : t.encode w.items = w.part :=
  t.encode_decode (by rw [length_part]; exact Nat.dvd_mul_left ..)

theorem getElem?_part {p : Nat} (h : w.Covers p) : w.part[p - w.offset]? = bytes[p]? := by
  obtain ⟨hle, hlt⟩ := h
  rw [part, List.getElem?_take_of_lt (by omega), List.getElem?_drop, Array.getElem?_toList, Nat.add_sub_cancel' hle]

theorem encode_items_overlap {p : Nat} (h : w.Covers p) (h' : w'.Covers p) :
    (t.encode w.items)[p - w.offset]? = (t'.encode w'.items)[p - w'.offset]? := by
  rw [encode_items, encode_items, getElem?_part w h, getElem?_part w' h']

theorem exists_item {i : Nat} (hi : i < w.length) : ∃ x, w.items[i]? = some x ∧
    t.bitsOf x = Guest.readBytes bytes (w.offset + i * t.width) t.width := by
  have hinside := w.inside
  have hplace : (i + 1) * t.width ≤ w.length * t.width := Nat.mul_le_mul_right t.width hi
  have hlength : ((bytes.toList.drop (w.offset + i * t.width)).take t.width).length = t.width := by
    rw [Nat.succ_mul] at hplace
    exact List.length_take_of_le (by rw [List.length_drop, Array.length_toList]; omega)
  refine ⟨_, t.getElem?_decode_slice (by simpa using hinside) (by rwa [Nat.mul_div_cancel _ t.width_pos]), ?_⟩
  rw [t.bitsOf_ofBits, Guest.readBytes_eq]
  have hbound := ofLittleEndian_lt ((bytes.toList.drop (w.offset + i * t.width)).take t.width)
  rwa [hlength] at hbound

theorem items_whole (xs : List t.Carrier) : (whole t xs).items = xs := by
  have hpart : (whole t xs).part = t.encode xs := by
    show ((t.encode xs).drop 0).take (xs.length * t.width) = _
    rw [List.drop_zero, ← t.length_encode, List.take_length]
  rw [items, hpart, t.decode_encode]

end Window

namespace Guest

/-- A buffer with other bytes. Objects of other classes have none. -/
def Object.withBytes (x : Object) (bytes : Array UInt8) : Object :=
  match x.payload with
  | .buffer _ shared => { x with payload := .buffer bytes shared }
  | _ => x

/-- A machine in which a buffer has got other bytes. -/
def Machine.overwritten (m : Machine) (b : ObjectId) (bytes : Array UInt8) : Machine :=
  { m with objects := m.objects.modify b (·.withBytes bytes) }

section Overwritten

variable {m : Machine} {b i o g : ObjectId} {x : Object} {k : Key} {old new : Array UInt8} {far steps : Nat}

namespace Object

theorem withBytes_of_buffer {shared : Bool} (h : x.payload = .buffer old shared) :
    x.withBytes new = { x with payload := .buffer new shared } := by
  unfold withBytes
  rw [h]

theorem withBytes_of_ne (h : ∀ old shared, x.payload ≠ .buffer old shared) : x.withBytes new = x := by
  unfold withBytes
  split
  · next hbuffer => exact absurd hbuffer (h _ _)
  · rfl

theorem proto_withBytes (x : Object) (new : Array UInt8) : (x.withBytes new).proto = x.proto := by
  unfold withBytes
  split <;> rfl

theorem Reads.withBytes {p? : Option Property} (h : x.Reads k p?) : (x.withBytes new).Reads k p? := by
  cases hpayload : x.payload with
  | buffer old shared =>
    rw [withBytes_of_buffer hpayload]
    refine ⟨fun o e m => ?_, rfl, fun t buffer offset length hsame => (by cases hsame)⟩
    rw [← h.own o e m]
    simp only [Act.plainOwn, Act.tableOwn, Act.makePrototype, hpayload]
    rfl
  | _ =>
    rw [withBytes_of_ne (fun _ _ hsame => by rw [hpayload] at hsame; cases hsame)]
    exact h

theorem change_withBytes (x : Object) (new : Array UInt8) : x.change (·.withBytes new) = x.withBytes new := by
  cases hpayload : x.payload with
  | buffer old shared =>
    rw [withBytes_of_buffer hpayload]
    simp only [change, hpayload, withBytes_of_buffer hpayload]
    exact disowned_of_handle? _ rfl
  | host h =>
    have hsame : x.withBytes new = x := withBytes_of_ne fun _ _ hsame => by rw [hpayload] at hsame; cases hsame
    simp only [change, hpayload, hsame]
    rw [← hpayload]
  | _ =>
    have hsame : x.withBytes new = x := withBytes_of_ne fun _ _ hsame => by rw [hpayload] at hsame; cases hsame
    simp only [change, hpayload, hsame]
    exact disowned_of_handle? _ (by simp only [handle?, hpayload])

end Object

theorem Act.run_setBufferBytes (e : Engine) (m : Machine) (b : ObjectId) (new : Array UInt8) :
    setBufferBytes b new e m = .done () (m.overwritten b new) := by
  have hchange : (fun x : Object => x.change (·.withBytes new)) = (·.withBytes new) :=
    funext fun x => x.change_withBytes new
  show Run.done () { m with objects := m.objects.modify b fun x => x.change (·.withBytes new) } = _
  rw [hchange]
  rfl

theorem Machine.getElem?_overwritten (m : Machine) (b i : ObjectId) (new : Array UInt8) :
    (m.overwritten b new).objects[i]? = if b = i then m.objects[i]?.map (·.withBytes new) else m.objects[i]? := by
  rw [overwritten, Array.getElem?_modify]

theorem Machine.exists_overwritten {m : Machine} (hx : m.objects[i]? = some x) : ∃ y,
    (m.overwritten b new).objects[i]? = some y ∧ (y = x ∨ b = i ∧ y = x.withBytes new) := by
  rw [getElem?_overwritten, hx]
  by_cases hb : b = i
  · exact ⟨_, if_pos hb, .inr ⟨hb, rfl⟩⟩
  · exact ⟨_, if_neg hb, .inl rfl⟩

theorem Finds.overwritten {p : Property} (h : Finds m.objects k p steps o) :
    Finds (m.overwritten b new).objects k p steps o := by
  induction h with
  | own hx hreads =>
    obtain ⟨y, hy, rfl | ⟨-, rfl⟩⟩ := Machine.exists_overwritten (b := b) hx
    · exact .own hy hreads
    · exact .own hy hreads.withBytes
  | inherited hx hreads hproto _ ih =>
    obtain ⟨y, hy, rfl | ⟨-, rfl⟩⟩ := Machine.exists_overwritten (b := b) hx
    · exact .inherited hy hreads hproto ih
    · exact .inherited hy hreads.withBytes ((Object.proto_withBytes _ _).trans hproto) ih

theorem Machine.HasBuiltin.overwritten {has : Property → ObjectId → Prop} {f : Builtin}
    (h : m.HasBuiltin far o k has f) : (m.overwritten b new).HasBuiltin far o k has f := by
  obtain ⟨steps, p, g, y, hfar, hfinds, hp, hy, hg⟩ := h
  have hsame : y.withBytes new = y := Object.withBytes_of_ne fun _ _ hbuffer => by rw [hg] at hbuffer; cases hbuffer
  obtain ⟨z, hz, rfl | ⟨-, rfl⟩⟩ := exists_overwritten (b := b) hy
  · exact ⟨steps, p, g, z, hfar, hfinds.overwritten, hp, hz, hg⟩
  · exact ⟨steps, p, g, _, hfar, hfinds.overwritten, hp, hz, hsame.symm ▸ hg⟩

theorem Machine.HasBytes.overwritten (h : m.HasBytes b old) : (m.overwritten b new).HasBytes b new := by
  obtain ⟨x, shared, hx, hbytes⟩ := h
  refine ⟨_, shared, (m.getElem?_overwritten b b new).trans (by rw [if_pos rfl, hx]; rfl), ?_⟩
  exact congrArg Object.payload (Object.withBytes_of_buffer hbytes)

theorem Machine.HasBytes.overwritten_of_ne (h : m.HasBytes i old) (hne : i ≠ b) : (m.overwritten b new).HasBytes i old := by
  obtain ⟨x, shared, hx, hbytes⟩ := h
  exact ⟨x, shared, (m.getElem?_overwritten b i new).trans ((if_neg hne.symm).trans hx), hbytes⟩

end Overwritten

/-- A genuine row: its elements lie in the window on the buffer, and it says so through the builtin functions. Doubles count
its bytes exactly. -/
structure Machine.HasRow (m : Machine) (far : Nat) (o b : ObjectId) {t : ElementType} {bytes : Array UInt8}
    (w : Window t bytes) : Prop where
  holds : ∃ x, m.objects[o]? = some x ∧ x.payload = .typedArray (.plain t) b w.offset w.length
  filled : m.HasBytes b bytes
  small : bytes.size < 2 ^ 53
  tells : m.TellsBytes far o

/-- A genuine buffer. It is asked for its length through the builtin function. -/
structure Machine.HasBuffer (m : Machine) (far : Nat) (b : ObjectId) (bytes : Array UInt8) : Prop where
  holds : ∃ x, m.objects[b]? = some x ∧ x.payload = .buffer bytes false
  small : bytes.size < 2 ^ 53
  byteLength : m.HasBuiltin far b "byteLength" Property.IsGetter (.buffer (.byteLength false))

/-- An object that stands for bytes of a buffer: a row of elements, or the buffer itself. The host takes it for one of a
kind and makes a value of it. -/
inductive Machine.Carries (m : Machine) (far : Nat) : (o b : ObjectId) → Array UInt8 → Kind → Native → Prop
  | row {o b : ObjectId} {t : ElementType} {bytes : Array UInt8} (w : Window t bytes) (h : m.HasRow far o b w) :
      Carries m far o b bytes (.typed t) (.typed t w.items)
  | buffer {b : ObjectId} {bytes : Array UInt8} (h : m.HasBuffer far b bytes) :
      Carries m far b b bytes .buffer (.bytes bytes.toList)

namespace Machine

variable {m m' : Machine} {far n : Nat} {o b i p : ObjectId} {t : ElementType} {bytes new : Array UInt8} {x : Object}

theorem TellsBytes.overwritten (h : m.TellsBytes far o) : (m.overwritten i new).TellsBytes far o where
  buffer := h.buffer.overwritten
  byteOffset := h.byteOffset.overwritten
  byteLength := h.byteLength.overwritten

namespace HasRow

variable {w : Window t bytes} (h : m.HasRow far o b w)
include h

theorem keep (hkeeps : Keeps (fun _ => True) m.objects m'.objects) : m'.HasRow far o b w where
  holds := h.holds.imp fun x hx => ⟨hkeeps o x trivial hx.1, hx.2⟩
  filled := h.filled.imp fun x hx => hx.imp fun _ hy => ⟨hkeeps b x trivial hy.1, hy.2⟩
  small := h.small
  tells := h.tells.keep hkeeps

theorem holds_overwritten : ∃ x, (m.overwritten i new).objects[o]? = some x ∧
    x.payload = .typedArray (.plain t) b w.offset w.length := by
  obtain ⟨x, hx, hrow⟩ := h.holds
  have hsame : x.withBytes new = x := Object.withBytes_of_ne fun _ _ hbuffer => by rw [hrow] at hbuffer; cases hbuffer
  obtain ⟨y, hy, rfl | ⟨-, rfl⟩⟩ := exists_overwritten (b := i) hx
  · exact ⟨y, hy, hrow⟩
  · exact ⟨_, hy, hsame.symm ▸ hrow⟩

theorem overwritten_of_ne (hne : b ≠ i) : (m.overwritten i new).HasRow far o b w where
  holds := h.holds_overwritten
  filled := h.filled.overwritten_of_ne hne
  small := h.small
  tells := h.tells.overwritten

theorem overwritten (hsize : new.size = bytes.size) : (m.overwritten b new).HasRow far o b (w.onto hsize) where
  holds := h.holds_overwritten
  filled := h.filled.overwritten
  small := hsize ▸ h.small
  tells := h.tells.overwritten

theorem run_typedItems (hdepth : m.depth < m.depthLimit) :
    (Bridge.typedItems t o).run (Engine.ofLevel (far + n + 2)) m = .done (.ok w.items) m := by
  obtain ⟨x, hx, hrow⟩ := h.holds
  exact h.tells.run_typedItems t hdepth hx hrow h.filled w.inside h.small

theorem run_readElement (e : Engine) {k : Nat} {y : t.Carrier} (hy : w.items[k]? = some y) :
    Act.readElement (.plain t) b w.offset k e m = .done (valueOfBits t (t.bitsOf y)) m := by
  have hk : k < w.length := w.length_items ▸ (List.getElem?_eq_some_iff.mp hy).1
  obtain ⟨z, hz, hbits⟩ := w.exists_item hk
  cases hy.symm.trans hz
  show (Act.bufferBytes b >>= _) e m = _
  rw [Act.run_bind_of_done (Act.run_bufferBytes h.filled), hbits]
  rfl

end HasRow

/-- Where nothing has been altered, a row with no properties of its own has the functions from its prototype. -/
theorem Unaltered.hasRow {w : Window t bytes} (h : m.Unaltered) (hx : m.objects[o]? = some x)
    (hrow : x.payload = .typedArray (.plain t) b w.offset w.length)
    (hproto : x.proto = some (Intrinsic.elementPrototype (.plain t))) (hown : x.properties = #[])
    (hbytes : m.HasBytes b bytes) (hsmall : bytes.size < 2 ^ 53) : m.HasRow 2 o b w where
  holds := ⟨x, hx, hrow⟩
  filled := hbytes
  small := hsmall
  tells := (h.tellsBytes t).inherit hx (fun k hk => Object.reads_of_typedArray hrow (by revert k; decide +kernel)
    (by rw [Object.property?, hown]; rfl) Object.not_lazy_of_none) hproto

namespace HasBuffer

variable (h : m.HasBuffer far b bytes)
include h

theorem keep (hkeeps : Keeps (fun _ => True) m.objects m'.objects) : m'.HasBuffer far b bytes where
  holds := h.holds.imp fun x hx => ⟨hkeeps b x trivial hx.1, hx.2⟩
  small := h.small
  byteLength := h.byteLength.keep hkeeps

theorem overwritten_of_ne (hne : b ≠ i) : (m.overwritten i new).HasBuffer far b bytes where
  holds := h.holds.imp fun _ hx => ⟨(m.getElem?_overwritten i b new).trans ((if_neg hne.symm).trans hx.1), hx.2⟩
  small := h.small
  byteLength := h.byteLength.overwritten

theorem run_bufferBytes (hdepth : m.depth < m.depthLimit) :
    (Bridge.bufferBytes b).run (Engine.ofLevel (far + n + 2)) m = .done (.ok bytes.toList) m := by
  obtain ⟨x, hx, hbytes⟩ := h.holds
  have hcount := h.byteLength.get_eq (n := n) hdepth rfl fun e g =>
    Act.run_byteLength (m := m.framed g _ _) hx hbytes
  exact Bridge.run_bufferBytes ⟨x, false, hx, hbytes⟩ hcount h.small

end HasBuffer

namespace Carries

variable {k : Kind} {v : Native} (h : m.Carries far o b bytes k v)
include h

theorem keep (hkeeps : Keeps (fun _ => True) m.objects m'.objects) : m'.Carries far o b bytes k v := by
  cases h with
  | row w h => exact .row w (h.keep hkeeps)
  | buffer h => exact .buffer (h.keep hkeeps)

theorem hasBytes : m.HasBytes b bytes := by
  cases h with
  | row w h => exact h.filled
  | buffer h => exact h.holds.imp fun _ hx => ⟨false, hx⟩

theorem overwritten_of_ne (hne : b ≠ i) : (m.overwritten i new).Carries far o b bytes k v := by
  cases h with
  | row w h => exact .row w (h.overwritten_of_ne hne)
  | buffer h => exact .buffer (h.overwritten_of_ne hne)

theorem run_takenFor (hdepth : m.depth < m.depthLimit) (convert : Value → Bridge Native) :
    (Bridge.takenFor convert o k).run (Engine.ofLevel (far + n + 2)) m = .done (.ok v) m := by
  cases h with
  | row w h =>
    rw [Bridge.takenFor, Bridge.run_after (h.run_typedItems hdepth)]
    rfl
  | buffer h =>
    rw [Bridge.takenFor, Bridge.run_after (h.run_bufferBytes hdepth)]
    rfl

/-- Where nothing has been altered, an object with the prototype of its kind comes out as what it carries. -/
theorem toNative_ends (hm : m.Unaltered) (hdepth : m.depth < m.depthLimit) (hx : m.objects[o]? = some x)
    (hk : x.IsOf k) : (Bridge.toNative (.object o)).Ends (Engine.ofLevel (far + n + 3)) m fun v' m' =>
      v' = v ∧ m' = m := by
  have hheld : (m.rooted [.object o]).Unaltered := ⟨hm.standing, hm.functions⟩
  have hcarries : (m.rooted [.object o]).Carries far o b bytes k v := h.keep .refl
  obtain ⟨depth, hlimit⟩ : ∃ depth, Bridge.nestingLimit = depth + 1 := ⟨_, rfl⟩
  unfold Bridge.toNative
  apply Bridge.Ends.holding
  rw [hlimit, Bridge.toNativeWithin, Bridge.nativeOf, Bridge.nativeOfObject_eq]
  apply Bridge.Ends.andThen (hheld.kindOf_ends (n := far + n) hdepth hx hk)
  exact .of_done (hcarries.run_takenFor (n := n + 1) hdepth _) ⟨rfl, rfl⟩

end Carries

end Machine

def Machine.withBuffer (m : Machine) (data : List UInt8) : Machine := m.made (.ofBytes data) data.length

/-- A machine that has made a row of elements on a buffer of its own. -/
def Machine.withRow (m : Machine) (t : ElementType) (xs : List t.Carrier) : Machine :=
  (m.withBuffer (t.encode xs)).made (.ofRow t m.objects.size xs.length)

namespace Machine

variable {m m' : Machine} {far n : Nat} {t : ElementType} {log : List Exchange} {r : Except Failure Value}

theorem HasConstructor.keep {k : Kind} {b : Builtin} (h : m.HasConstructor k b)
    (hkeeps : Keeps (fun _ => True) m.objects m'.objects) : m'.HasConstructor k b := by
  obtain ⟨c, x, hk, hx, hb⟩ := h
  exact ⟨c, x, hk, hkeeps c x trivial hx, hb⟩

theorem keeps_withBuffer (m : Machine) (data : List UInt8) :
    Keeps (fun _ => True) m.objects (m.withBuffer data).objects := .push _

theorem keeps_withRow (m : Machine) (t : ElementType) (xs : List t.Carrier) :
    Keeps (fun _ => True) m.objects (m.withRow t xs).objects := (m.keeps_withBuffer _).trans (.push _)

theorem getElem?_withBuffer (m : Machine) (data : List UInt8) :
    (m.withBuffer data).objects[m.objects.size]? = some (.ofBytes data) := getElem?_made _ _

theorem getElem?_withRow (m : Machine) (t : ElementType) (xs : List t.Carrier) :
    (m.withRow t xs).objects[m.objects.size + 1]? = some (.ofRow t m.objects.size xs.length) := by
  have hsize : (m.withBuffer (t.encode xs)).objects.size = m.objects.size + 1 := Array.size_push _
  rw [← hsize]
  exact getElem?_made _ _

theorem carries_withBuffer {data : List UInt8}
    (h : m.HasBuiltin far Intrinsic.bufferPrototype "byteLength" Property.IsGetter (.buffer (.byteLength false)))
    (hsmall : data.length < 2 ^ 53) :
    (m.withBuffer data).Carries (far + 1) m.objects.size m.objects.size data.toArray .buffer (.bytes data) := by
  have hx := m.getElem?_withBuffer data
  exact .buffer ⟨⟨_, hx, rfl⟩, hsmall, (h.keep (m.keeps_withBuffer data)).inherit hx
    (Object.reads_of_isTable rfl rfl Object.not_lazy_of_none) rfl⟩

theorem carries_withRow {xs : List t.Carrier} (h : m.TellsBytes far (Intrinsic.elementPrototype (.plain t)))
    (hsmall : xs.length * t.width < 2 ^ 53) : (m.withRow t xs).Carries (far + 1) (m.objects.size + 1) m.objects.size
      (t.encode xs).toArray (.typed t) (.typed t xs) := by
  have hx := m.getElem?_withRow t xs
  have hbytes : (m.withRow t xs).objects[m.objects.size]? = some (.ofBytes (t.encode xs)) :=
    Keeps.push (p := fun _ => True) _ _ _ trivial (m.getElem?_withBuffer (t.encode xs))
  have htells := (h.keep (m.keeps_withRow t xs)).inherit hx
    (fun k hk => Object.reads_of_typedArray rfl (by revert k; decide +kernel) rfl Object.not_lazy_of_none) rfl
  have hsize : (t.encode xs).toArray.size < 2 ^ 53 := by rwa [List.size_toArray, t.length_encode]
  have hcarries := Carries.row (Window.whole t xs) ⟨⟨_, hx, rfl⟩, ⟨_, false, hbytes, rfl⟩, hsize, htells⟩
  rwa [Window.items_whole] at hcarries

theorem reaches_ofNative_bytes {e : Engine} {data : List UInt8} (hroom : m.HasRoom data.length) :
    (Bridge.ofNative (.bytes data)).Reaches e m log r m' ↔
      log = [] ∧ r = .ok (.object m.objects.size) ∧ m' = m.withBuffer data := by
  have hnew := Bridge.run_newBytes (e := e) hroom
  apply Bridge.reaches_of_run_ok
  rw [Bridge.ofNative, Bridge.run_after hnew]
  rfl

theorem HasConstructor.reaches_ofNative_typed (h : m.HasConstructor (.typed t) (.typedArray (.construct (.plain t))))
    (hdepth : m.depth < m.depthLimit) {xs : List t.Carrier} (hroom : m.HasRoom (xs.length * t.width)) :
    (Bridge.ofNative (.typed t xs)).Reaches (Engine.ofLevel (n + 2)) m log r m' ↔
      log = [.asked .isReleased false] ∧ r = .ok (.object (m.objects.size + 1)) ∧ m' = m.withRow t xs ∨
        log = [.asked .isReleased true] ∧ r = .error (.error (.freed .context)) ∧
          m' = m.withBuffer (t.encode xs) := by
  have hnew : (Bridge.newBytes (t.encode xs)).Reaches (Engine.ofLevel (n + 2)) m [] (.ok m.objects.size)
      (m.withBuffer (t.encode xs)) :=
    (Bridge.reaches_of_run_ok (Bridge.run_newBytes (by rwa [t.length_encode]))).mpr ⟨rfl, rfl, rfl⟩
  have hsize : (m.withBuffer (t.encode xs)).objects.size = m.objects.size + 1 := Array.size_push _
  have hconstruct := (h.keep (m.keeps_withBuffer _)).construct_row (n := n) hdepth (m.getElem?_withBuffer (t.encode xs))
  rw [hsize] at hconstruct
  have hrow : ∀ r₀, (Bridge.typedOfNative t xs).Reaches (Engine.ofLevel (n + 2)) m log r₀ m' ↔
      log = [.asked .isReleased false] ∧ r₀ = .ok (m.objects.size + 1) ∧ m' = m.withRow t xs ∨
        log = [.asked .isReleased true] ∧ r₀ = .error (.error (.freed .context)) ∧
          m' = m.withBuffer (t.encode xs) := by
    intro r₀
    rw [Bridge.typedOfNative, ← List.nil_append log, hnew.bind_iff, List.nil_append]
    exact Bridge.reaches_constructKind rfl hconstruct
  rw [Bridge.ofNative, Bridge.reaches_map]
  simp only [hrow]
  constructor
  · rintro ⟨_, ⟨rfl, rfl, rfl⟩ | ⟨rfl, rfl, rfl⟩, rfl⟩
    · exact .inl ⟨rfl, rfl, rfl⟩
    · exact .inr ⟨rfl, rfl, rfl⟩
  · rintro (⟨rfl, rfl, rfl⟩ | ⟨rfl, rfl, rfl⟩)
    · exact ⟨_, .inl ⟨rfl, rfl, rfl⟩, rfl⟩
    · exact ⟨_, .inr ⟨rfl, rfl, rfl⟩, rfl⟩

end Machine

/-- When an object has been taken for one of a kind, it becomes this value. Nothing is asked for it, and nothing changes. -/
def Bridge.Converts (e : Engine) (m : Machine) (o : ObjectId) (k : Kind) (v : Native) : Prop :=
  ∀ (convert : Value → Bridge Native) (start : Machine) (l : List Exchange), (kindOf o).Reaches e start l (.ok k) m →
    ∀ log r m', (nativeOfObject convert o).Reaches e start (l ++ log) r m' ↔ log = [] ∧ r = .ok v ∧ m' = m

theorem Machine.Carries.converts {m : Machine} {far n : Nat} {o b : ObjectId} {bytes : Array UInt8} {k : Kind} {v : Native}
    (h : m.Carries far o b bytes k v) (hdepth : m.depth < m.depthLimit) :
    Bridge.Converts (Engine.ofLevel (far + n + 2)) m o k v := by
  intro convert start l hkind log r m'
  rw [Bridge.nativeOfObject_eq, hkind.bind_iff]
  exact Bridge.reaches_of_run_ok (h.run_takenFor hdepth convert)

/-- How rows of elements and buffers go across. -/
structure RowsCross (e : Engine) (far : Nat) (m : Machine) : Prop where
  /-- An object that stands for bytes comes out as what it stands for. -/
  converts : ∀ {o b bytes k v}, m.Carries far o b bytes k v → Bridge.Converts e m o k v
  /-- Where nothing has been altered, it is also taken for what it is. -/
  taken : m.Unaltered → ∀ {o b bytes k v x}, m.Carries far o b bytes k v → m.objects[o]? = some x → x.IsOf k →
    (Bridge.toNative (.object o)).Ends e m fun v' m' => v' = v ∧ m' = m
  /-- Out of a row come as many elements as it has. Each is made of the bytes in its place, the least significant first,
  and has the bits of what the guest reads there. -/
  elements : ∀ {t bytes o b} (w : Window t bytes), m.HasRow far o b w →
    w.items.length = w.length ∧ ∀ i < w.length, ∃ y, w.items[i]? = some y ∧
      t.bitsOf y = ofLittleEndian ((bytes.toList.drop (w.offset + i * t.width)).take t.width) ∧
      Act.readElement (.plain t) b w.offset i e m = .done (valueOfBits t (t.bitsOf y)) m
  /-- Rows on one buffer agree about each byte that both of them cover. -/
  overlap : ∀ {t t' bytes} (w : Window t bytes) (w' : Window t' bytes) (p : Nat), w.Covers p → w'.Covers p →
    (t.encode w.items)[p - w.offset]? = (t'.encode w'.items)[p - w'.offset]?
  /-- While the context is live, a vector becomes a row, if there is room for its bytes. -/
  makes : ∀ (t : ElementType) (xs : List t.Carrier),
    m.HasConstructor (.typed t) (.typedArray (.construct (.plain t))) → m.HasRoom (xs.length * t.width) →
    ∀ log r m', (Bridge.ofNative (.typed t xs)).Reaches e m log r m' ↔
      log = [.asked .isReleased false] ∧ r = .ok (.object (m.objects.size + 1)) ∧ m' = m.withRow t xs ∨
        log = [.asked .isReleased true] ∧ r = .error (.error (.freed .context)) ∧ m' = m.withBuffer (t.encode xs)
  makesBuffer : ∀ data : List UInt8, m.HasRoom data.length → ∀ log r m',
    (Bridge.ofNative (.bytes data)).Reaches e m log r m' ↔
      log = [] ∧ r = .ok (.object m.objects.size) ∧ m' = m.withBuffer data
  /-- The row is one of the type of the vector. It lies at the beginning of the buffer, which holds its bytes and no more. -/
  row : ∀ (t : ElementType) (xs : List t.Carrier), ∃ x, (m.withRow t xs).objects[m.objects.size + 1]? = some x ∧
    x.IsOf (.typed t) ∧ x.payload = .typedArray (.plain t) m.objects.size 0 xs.length ∧
    (m.withRow t xs).HasBytes m.objects.size (t.encode xs).toArray
  /-- None of these objects was there before, and all others stay as they were. -/
  fresh : m.objects[m.objects.size]? = none ∧ m.objects[m.objects.size + 1]? = none ∧
    (∀ data, Keeps (fun _ => True) m.objects (m.withBuffer data).objects) ∧
    ∀ (t : ElementType) (xs : List t.Carrier), Keeps (fun _ => True) m.objects (m.withRow t xs).objects
  /-- A row that has been made of a vector comes back as that vector. -/
  returns : ∀ (t : ElementType) (xs : List t.Carrier), m.TellsBytes far (Intrinsic.elementPrototype (.plain t)) →
    xs.length * t.width < 2 ^ 53 →
    Bridge.Converts e (m.withRow t xs) (m.objects.size + 1) (.typed t) (.typed t xs)
  returnsBuffer : ∀ data : List UInt8,
    m.HasBuiltin far Intrinsic.bufferPrototype "byteLength" Property.IsGetter (.buffer (.byteLength false)) →
    data.length < 2 ^ 53 → Bridge.Converts e (m.withBuffer data) m.objects.size .buffer (.bytes data)
  /-- Where nothing has been altered, they are also taken for what they are. -/
  home : m.Unaltered →
    (∀ (t : ElementType) (xs : List t.Carrier), xs.length * t.width < 2 ^ 53 →
      (Bridge.toNative (.object (m.objects.size + 1))).Ends e (m.withRow t xs) fun v m' =>
        v = .typed t xs ∧ m' = m.withRow t xs) ∧
    ∀ data : List UInt8, data.length < 2 ^ 53 →
      (Bridge.toNative (.object m.objects.size)).Ends e (m.withBuffer data) fun v m' =>
        v = .bytes data ∧ m' = m.withBuffer data
  /-- When guest code writes to a buffer, the buffer gets other bytes. -/
  writes : ∀ (b : ObjectId) (new : Array UInt8), Act.setBufferBytes b new e m = .done () (m.overwritten b new)
  seen : ∀ {t bytes o b} (w : Window t bytes), m.HasRow far o b w → ∀ (new : Array UInt8) (hsize : new.size = bytes.size),
    (m.overwritten b new).HasRow far o b (w.onto hsize)
  /-- But what is written to a buffer that has been made since is not seen by the objects of before. -/
  apart : ∀ {m₁ : Machine} {i : ObjectId} (new : Array UInt8), Keeps (fun _ => True) m.objects m₁.objects →
    m.objects[i]? = none → ∀ {o b bytes k v}, m.Carries far o b bytes k v →
      (m₁.overwritten i new).Carries far o b bytes k v

/-- Rows and buffers go across byte for byte. -/
theorem Machine.rowsCross {m : Machine} (hdepth : m.depth < m.depthLimit) (far n : Nat) :
    RowsCross (Engine.ofLevel (far + n + 5)) far m where
  converts h := h.converts (n := n + 3) hdepth
  taken hm _ _ _ _ _ _ h hx hk := h.toNative_ends (n := n + 2) hm hdepth hx hk
  elements w h := by
    refine ⟨w.length_items, fun i hi => ?_⟩
    obtain ⟨y, hy, hbits⟩ := w.exists_item hi
    exact ⟨y, hy, hbits.trans (readBytes_eq ..), h.run_readElement _ hy⟩
  overlap w w' _ h h' := w.encode_items_overlap w' h h'
  makes _ _ h hroom _ _ _ := h.reaches_ofNative_typed (n := far + n + 3) hdepth hroom
  makesBuffer _ hroom _ _ _ := reaches_ofNative_bytes hroom
  row t xs := by
    have hbytes : (m.withRow t xs).objects[m.objects.size]? = some (.ofBytes (t.encode xs)) :=
      Keeps.push (p := fun _ => True) _ _ _ trivial (m.getElem?_withBuffer (t.encode xs))
    exact ⟨_, m.getElem?_withRow t xs, Object.isOf_ofRow .., rfl, _, false, hbytes, rfl⟩
  fresh := ⟨Array.getElem?_eq_none (Nat.le_refl _), Array.getElem?_eq_none (Nat.le_succ _), m.keeps_withBuffer,
    m.keeps_withRow⟩
  returns t xs h hsmall := by
    have hconverts := (carries_withRow h hsmall).converts (n := n + 2) hdepth
    rwa [show far + 1 + (n + 2) + 2 = far + n + 5 by omega] at hconverts
  returnsBuffer data h hsmall := by
    have hconverts := (carries_withBuffer h hsmall).converts (n := n + 2) hdepth
    rwa [show far + 1 + (n + 2) + 2 = far + n + 5 by omega] at hconverts
  home hm := by
    constructor
    · intro t xs hsmall
      have hends := (carries_withRow (hm.tellsBytes t) hsmall).toNative_ends (n := far + n)
        (hm.keep (m.keeps_withRow t xs)) hdepth (m.getElem?_withRow t xs) (Object.isOf_ofRow ..)
      rwa [show 1 + 1 + (far + n) + 3 = far + n + 5 by omega] at hends
    · intro data hsmall
      have hends := (carries_withBuffer hm.hasBuiltin_byteLength hsmall).toNative_ends (n := far + n + 1)
        (hm.keep (m.keeps_withBuffer data)) hdepth (m.getElem?_withBuffer data) (Object.isOf_ofBytes data)
      rwa [show 0 + 1 + (far + n + 1) + 3 = far + n + 5 by omega] at hends
  writes := Act.run_setBufferBytes _ m
  seen _ h _ hsize := h.overwritten hsize
  apart new hkeeps hnone _ _ _ _ _ h := by
    obtain ⟨x, shared, hx, -⟩ := h.hasBytes
    refine (h.keep hkeeps).overwritten_of_ne ?_
    rintro rfl
    rw [hnone] at hx
    cases hx

/-- Two rows of different types that overlap. -/
theorem Machine.rowsCross_overlapping : ∃ (m : Machine) (o o' b : ObjectId) (w : Window .uint8 #[1, 2, 3, 4])
    (w' : Window .uint16 #[1, 2, 3, 4]), m.depth < m.depthLimit ∧ m.HasRow 2 o b w ∧ m.HasRow 2 o' b w' ∧
      w.Covers 1 ∧ w'.Covers 1 ∧ RowsCross (Engine.ofLevel 7) 2 m := by
  let w : Window .uint8 #[1, 2, 3, 4] := ⟨1, 3, by decide⟩
  let w' : Window .uint16 #[1, 2, 3, 4] := ⟨0, 2, by decide⟩
  let m := Realm.initial.unlimited.withBuffer [1, 2, 3, 4]
  let x : Object :=
    { proto := some (Intrinsic.elementPrototype (.plain .uint8))
      payload := .typedArray (.plain .uint8) Realm.initial.unlimited.objects.size 1 3 }
  let y : Object :=
    { proto := some (Intrinsic.elementPrototype (.plain .uint16))
      payload := .typedArray (.plain .uint16) Realm.initial.unlimited.objects.size 0 2 }
  have hbytes : m.objects[Realm.initial.unlimited.objects.size]? = some (.ofBytes [1, 2, 3, 4]) :=
    Realm.initial.unlimited.getElem?_withBuffer _
  have hm : ((m.made x).made y).Unaltered :=
    Machine.unaltered_initial.unlimited.keep ((keeps_withBuffer _ _).trans ((Keeps.push x).trans (.push y)))
  have hdepth : ((m.made x).made y).depth < ((m.made x).made y).depthLimit :=
    Realm.depth_unlimited (show 1 ≤ callDepthLimit by decide)
  have hfilled : ((m.made x).made y).HasBytes Realm.initial.unlimited.objects.size #[1, 2, 3, 4] :=
    ⟨_, false, ((Keeps.push (p := fun _ => True) x).trans (.push y)) _ _ trivial hbytes, rfl⟩
  have hx : ((m.made x).made y).objects[m.objects.size]? = some x :=
    Keeps.push (p := fun _ => True) y _ _ trivial (getElem?_made x 0)
  have hy : ((m.made x).made y).objects[(m.made x).objects.size]? = some y := getElem?_made y 0
  refine ⟨(m.made x).made y, _, _, _, w, w', hdepth, hm.hasRow hx rfl rfl rfl hfilled (by decide),
    hm.hasRow hy rfl rfl rfl hfilled (by decide), ⟨by decide, by decide⟩, ⟨by decide, by decide⟩, rowsCross hdepth 2 0⟩

end Guest

end Embedding
