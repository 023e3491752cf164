import Embedding.Proofs.Items

namespace Embedding.Guest

namespace Bridge

variable {e : Engine} {m m₁ m' : Machine} {o b : ObjectId} {bytes : Array UInt8} {log l : List Exchange}

theorem reaches_bytesOf (h : m.HasBytes b bytes) {r : Except Failure (Array UInt8)} :
    (bytesOf (.object b)).Reaches e m log r m' ↔ log = [] ∧ r = .ok bytes ∧ m' = m :=
  reaches_of_run_ok (run_bytesOf h)

/-- What an object reports of its bytes: the buffer that they are in, the place where they begin, and how many they are.
Guest code may run each time. What counts is how the buffer is filled at the end. -/
def Reports (e : Engine) (o : ObjectId) (m : Machine) (log : List Exchange) (bytes : Array UInt8) (first count : Double)
    (m' : Machine) : Prop :=
  ∃ l₁ l₂ l₃ b before m₁ m₂, log = l₁ ++ (l₂ ++ l₃) ∧
    (getProperty o "buffer").Reaches e m l₁ (.ok (.object b)) m₁ ∧ m₁.HasBytes b before ∧
    (getProperty o "byteOffset").Reaches e m₁ l₂ (.ok (.number first)) m₂ ∧
    (getProperty o "byteLength").Reaches e m₂ l₃ (.ok (.number count)) m' ∧ m'.HasBytes b bytes

namespace Reports

variable {t : ElementType} {first count : Double} (h : Reports e o m log bytes first count m₁)
include h

/-- Once an object has reported its bytes, the two numbers are added and the bytes in the range are decoded. -/
theorem reaches_typedItems {r : Except Failure (List t.Carrier)} : (typedItems t o).Reaches e m (log ++ l) r m' ↔
    (addWords first.word count.word >>= decodeBetween t bytes first.word).Reaches e m₁ l r m' := by
  obtain ⟨l₁, l₂, l₃, b, before, m₂, m₃, rfl, hbuffer, hbefore, hfirst, hcount, hbytes⟩ := h
  have hoffset := reaches_countOf_ok.mpr ⟨first, hfirst, rfl⟩
  have hlength := reaches_countOf_ok.mpr ⟨count, hcount, rfl⟩
  unfold typedItems
  rw [List.append_assoc, List.append_assoc, hbuffer.bind_iff,
    ← List.nil_append (l₂ ++ _), ((reaches_bytesOf hbefore).mpr ⟨rfl, rfl, rfl⟩).bind_iff, hoffset.bind_iff, hlength.bind_iff]
  simp only [Value.isObject, if_true]
  exact ((reaches_bytesOf hbytes).mpr ⟨rfl, rfl, rfl⟩).bind_iff

end Reports

/-- What becomes of the bytes that an object has reported, when the numbers are cut to words. -/
structure RangeTaken (t : ElementType) (e : Engine) (o : ObjectId) (m : Machine) (log : List Exchange)
    (bytes : Array UInt8) (first count : Nat) (m₁ : Machine) : Prop where
  /-- Where the sum of the two is a word, the elements come out when the buffer goes far enough, and else there is an
  error. Where it is none, the host panics. Nothing more is asked. -/
  answers : ∀ l r m', (typedItems t o).Reaches e m (log ++ l) r m' ↔ l = [] ∧
    if first + count < 2 ^ 64 then
      m' = m₁ ∧ r = if first + count ≤ bytes.size then .ok (t.decode ((bytes.toList.drop first).take count))
        else .error (.error (.conversion ("detached " ++ t.name) "elements"))
    else m' = m₁.afterPanic ∧ r = .error (.cut (.stopped .exhausted))
  number : first + count ≤ bytes.size → (t.decode ((bytes.toList.drop first).take count)).length = count / t.width
  element : first + count ≤ bytes.size → ∀ i < count / t.width, first + (i + 1) * t.width ≤ first + count ∧
    (t.decode ((bytes.toList.drop first).take count))[i]? =
      some (t.ofBits (ofLittleEndian ((bytes.toList.drop (first + i * t.width)).take t.width)))
  whole : ∀ (convert : Value → Bridge Native) (start : Machine) (l₀ : List Exchange),
    (kindOf o).Reaches e start l₀ (.ok (.typed t)) m → ∀ l r m', (nativeOfObject convert o).Reaches e start (l₀ ++ l) r m' ↔
      ∃ r₀, (typedItems t o).Reaches e m l r₀ m' ∧ r = r₀.map (Native.typed t)
  view : ∀ l r m', (View.contents (.typed t) o).Reaches e m l r m' ↔
    ∃ r₀, (typedItems t o).Reaches e m l r₀ m' ∧ r = r₀.map (Native.typed t)

/-- Whatever numbers an object reports, its range of bytes is taken exactly, or the host panics. -/
theorem Reports.rangeTaken {first count : Double} (h : Reports e o m log bytes first count m₁) (t : ElementType) :
    RangeTaken t e o m log bytes first.word count.word m₁ where
  answers l r m' := by
    rw [h.reaches_typedItems]
    by_cases hword : first.word + count.word < 2 ^ 64
    · have hsum : (addWords first.word count.word).Reaches e m₁ [] (.ok (first.word + count.word)) m₁ :=
        (reaches_of_run_ok (run_addWords hword)).mpr ⟨rfl, rfl, rfl⟩
      rw [← List.nil_append l, hsum.bind_iff, decodeBetween, bytesBetween?_add, if_pos hword]
      by_cases hfits : first.word + count.word ≤ bytes.size
      · rw [if_pos hfits, if_pos hfits, reaches_pure, List.nil_append]
        exact and_congr_right fun _ => and_comm
      · rw [if_neg hfits, if_neg hfits, reaches_of_run_error (run_throw _), List.nil_append]
        exact and_congr_right fun _ => and_comm
    · rw [if_neg hword, Reaches, run_bind, run_addWords_of_le (Nat.le_of_not_lt hword), Run.andThen, Run.reaches_stopped]
      refine and_congr_right fun _ => and_comm.trans (and_congr_right fun _ => ?_)
      exact ⟨fun hr => seen_injective hr, fun hr => hr ▸ rfl⟩
  number hfits := t.length_decode_slice (by simpa using hfits)
  element hfits i hi := by
    have hroom : (i + 1) * t.width ≤ count.word := Nat.le_trans (Nat.mul_le_mul_right t.width hi) (Nat.div_mul_le_self ..)
    exact ⟨Nat.add_le_add_left hroom _, t.getElem?_decode_slice (by simpa using hfits) hi⟩
  whole convert start l₀ hkind l r m' := by
    rw [nativeOfObject_eq, hkind.bind_iff]
    exact reaches_map
  view _ _ _ := reaches_map

/-- An array that says it begins behind all words. The sum of its place and its one byte is no word. -/
theorem Reports.rangeTaken_behindAllWords : ∃ (m : Machine) (o : ObjectId),
    Reports (Engine.ofLevel 4) o m [] #[0, 0] Double.infinity (Double.ofInt 1) m ∧
    RangeTaken .uint8 (Engine.ofLevel 4) o m [] #[0, 0] Double.infinity.word (Double.ofInt 1).word m ∧
    Double.infinity.word + (Double.ofInt 1).word = 2 ^ 64 := by
  let x : Object :=
    { proto := some (Intrinsic.elementPrototype (.plain .uint8))
      properties := #[("byteOffset", .constant (.number .infinity)), ("byteLength", .constant (.number (.ofInt 1)))]
      payload := .typedArray (.plain .uint8) Realm.initial.objects.size 0 2 }
  let objects := Realm.initial.objects.push (.ofBytes [0, 0])
  let m : Machine := { Realm.initial with objects := objects.push x, depth := 0, depthLimit := 1 }
  have hm : m.Unaltered := Machine.unaltered_initial.keep ((Keeps.push _).trans (.push x))
  have hx : m.objects[objects.size]? = some x := Array.getElem?_push_size
  have hbytes : m.HasBytes Realm.initial.objects.size #[0, 0] :=
    ⟨.ofBytes [0, 0], false, Keeps.push (p := fun _ => True) x _ _ trivial Array.getElem?_push_size, rfl⟩
  have hbuffer : (Engine.ofLevel 4).get objects.size "buffer" (.object objects.size) m =
      .done (.object Realm.initial.objects.size) m :=
    ((hm.tellsBytes .uint8).buffer.inherit hx (Object.reads_of_typedArray rfl (by decide +kernel) rfl
      Object.not_lazy_of_none) rfl).get_eq (n := 0) Nat.one_pos rfl fun _ g =>
        Act.run_rowBuffer (m := m.framed g _ _) hx rfl
  have hown : ∀ {k : Key} {d : Double}, k.index? = none → x.property? k = some (.constant (.number d)) →
      (Engine.ofLevel 4).get objects.size k (.object objects.size) m = .done (.number d) m := fun hindex hk =>
    Act.get_own hx (Object.reads_of_typedArray rfl hindex hk (by rintro _ ⟨⟩ ⟨⟩))
  have hreports : Reports (Engine.ofLevel 4) objects.size m [] #[0, 0] Double.infinity (Double.ofInt 1) m :=
    ⟨[], [], [], _, _, m, m, rfl,
      (reaches_getProperty_of_get hbuffer).mpr ⟨rfl, rfl, rfl⟩, hbytes,
      (reaches_getProperty_of_get (hown (by decide +kernel) rfl)).mpr ⟨rfl, rfl, rfl⟩,
      (reaches_getProperty_of_get (hown (by decide +kernel) rfl)).mpr ⟨rfl, rfl, rfl⟩, hbytes⟩
  exact ⟨m, _, hreports, hreports.rangeTaken .uint8, by decide +kernel⟩

end Bridge

end Embedding.Guest
