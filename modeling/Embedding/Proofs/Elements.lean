import Embedding.Native.Element

namespace Embedding

theorem length_littleEndian (count n : Nat) : (littleEndian count n).length = count := by
  induction count generalizing n with
  | zero => rfl
  | succ count ih => rw [littleEndian, List.length_cons, ih]

theorem ofLittleEndian_littleEndian (count n : Nat) :
    ofLittleEndian (littleEndian count n) = n % 256 ^ count := by
  induction count generalizing n with
  | zero => rw [Nat.pow_zero, Nat.mod_one]; rfl
  | succ count ih =>
    have hbyte : (UInt8.ofNat n).toNat = n % 256 := UInt8.toNat_ofNat'
    rw [littleEndian, ofLittleEndian, ih, hbyte, Nat.pow_succ', Nat.mod_mul]

theorem ofLittleEndian_lt (bytes : List UInt8) : ofLittleEndian bytes < 256 ^ bytes.length := by
  induction bytes with
  | nil => exact Nat.one_pos
  | cons b rest ih =>
    have hbyte := b.toNat_lt
    rw [ofLittleEndian, List.length_cons, Nat.pow_succ]
    omega

theorem littleEndian_ofLittleEndian (bytes : List UInt8) : littleEndian bytes.length (ofLittleEndian bytes) = bytes := by
  induction bytes with
  | nil => rfl
  | cons b rest ih =>
    have hbyte := b.toNat_lt
    have hlow : UInt8.ofNat (b.toNat + 256 * ofLittleEndian rest) = b := by
      rw [← UInt8.toNat_inj, UInt8.toNat_ofNat']
      omega
    have hhigh : (b.toNat + 256 * ofLittleEndian rest) / 256 = ofLittleEndian rest := by omega
    rw [ofLittleEndian, List.length_cons, littleEndian, hlow, hhigh, ih]

namespace ElementType

variable (t : ElementType)

theorem width_pos : 0 < t.width := by
  cases t <;> decide

theorem bitsOf_lt (x : t.Carrier) : t.bitsOf x < 256 ^ t.width := by
  cases t with
  | int8 => exact x.toUInt8.toNat_lt
  | int16 => exact x.toUInt16.toNat_lt
  | int32 => exact x.toUInt32.toNat_lt
  | uint8 => exact x.toNat_lt
  | uint16 => exact x.toNat_lt
  | uint32 => exact x.toNat_lt
  | float32 => exact x.bits.toNat_lt
  | float64 => exact x.bits.toNat_lt
  | bigInt64 => exact x.toUInt64.toNat_lt
  | bigUint64 => exact x.toNat_lt

theorem ofBits_bitsOf (x : t.Carrier) : t.ofBits (t.bitsOf x) = x := by
  cases t <;> simp [ofBits, bitsOf]

/-- A bit pattern of the right width is that of the element that it stands for, a float that is no number among them. -/
theorem bitsOf_ofBits {n : Nat} (h : n < 256 ^ t.width) : t.bitsOf (t.ofBits n) = n := by
  cases t <;> simp [ofBits, bitsOf] <;> exact h

theorem encode_cons (x : t.Carrier) (xs : List t.Carrier) :
    t.encode (x :: xs) = littleEndian t.width (t.bitsOf x) ++ t.encode xs := List.flatMap_cons

theorem length_encode (xs : List t.Carrier) : (t.encode xs).length = xs.length * t.width := by
  induction xs with
  | nil => simp [encode]
  | cons x xs ih =>
    rw [encode_cons, List.length_append, length_littleEndian, ih, List.length_cons, Nat.succ_mul, Nat.add_comm]

theorem decodeUpTo_encode {xs : List t.Carrier} {n : Nat} (hn : xs.length ≤ n) :
    t.decodeUpTo n (t.encode xs) = xs := by
  induction xs generalizing n with
  | nil =>
    cases n with
    | zero => rfl
    | succ n => exact if_pos t.width_pos
  | cons x xs ih =>
    obtain ⟨n, rfl⟩ : ∃ k, n = k + 1 := ⟨n - 1, by simp at hn; omega⟩
    have hwidth := length_littleEndian t.width (t.bitsOf x)
    have hlong : ¬ (t.encode (x :: xs)).length < t.width := by
      rw [encode_cons, List.length_append, hwidth]
      omega
    rw [decodeUpTo, if_neg hlong, encode_cons, List.take_left' hwidth, List.drop_left' hwidth,
      ofLittleEndian_littleEndian, Nat.mod_eq_of_lt (t.bitsOf_lt x), ofBits_bitsOf,
      ih (Nat.le_of_succ_le_succ hn)]

theorem length_decodeUpTo {n : Nat} {bytes : List UInt8} (hn : bytes.length ≤ n) :
    (t.decodeUpTo n bytes).length = bytes.length / t.width := by
  induction n generalizing bytes with
  | zero =>
    rw [Nat.le_zero.mp hn, Nat.zero_div]
    rfl
  | succ n ih =>
    have hwidth := t.width_pos
    rw [decodeUpTo]
    split
    · next hshort => exact (Nat.div_eq_of_lt hshort).symm
    · next hlong =>
      have hstep : bytes.length / t.width = (bytes.length - t.width) / t.width + 1 :=
        Nat.div_eq_sub_div hwidth (Nat.le_of_not_lt hlong)
      rw [List.length_cons, ih (by rw [List.length_drop]; omega), List.length_drop, hstep]

theorem length_decode (bytes : List UInt8) : (t.decode bytes).length = bytes.length / t.width :=
  t.length_decodeUpTo (Nat.le_refl _)

theorem getElem?_decodeUpTo {n i : Nat} {bytes : List UInt8} (hn : bytes.length ≤ n) (hi : i < bytes.length / t.width) :
    (t.decodeUpTo n bytes)[i]? = some (t.ofBits (ofLittleEndian ((bytes.drop (i * t.width)).take t.width))) := by
  induction n generalizing i bytes with
  | zero =>
    rw [Nat.le_zero.mp hn, Nat.zero_div] at hi
    exact absurd hi (Nat.not_lt_zero i)
  | succ n ih =>
    obtain ⟨hwidth, hlong⟩ := Nat.div_pos_iff.mp (Nat.zero_lt_of_lt hi)
    rw [decodeUpTo, if_neg (Nat.not_lt.mpr hlong)]
    cases i with
    | zero => rw [List.getElem?_cons_zero, Nat.zero_mul, List.drop_zero]
    | succ i =>
      have hstep : bytes.length / t.width = (bytes.length - t.width) / t.width + 1 := Nat.div_eq_sub_div hwidth hlong
      have hrest : i < (bytes.drop t.width).length / t.width := by
        rw [List.length_drop]
        omega
      rw [List.getElem?_cons_succ, ih (by rw [List.length_drop]; omega) hrest, List.drop_drop, Nat.succ_mul,
        Nat.add_comm t.width]

theorem getElem?_decode {i : Nat} {bytes : List UInt8} (hi : i < bytes.length / t.width) :
    (t.decode bytes)[i]? = some (t.ofBits (ofLittleEndian ((bytes.drop (i * t.width)).take t.width))) :=
  t.getElem?_decodeUpTo (Nat.le_refl _) hi

section Slice

variable {bytes : List UInt8} {first count : Nat} (hfits : first + count ≤ bytes.length)
include hfits

theorem length_decode_slice : (t.decode ((bytes.drop first).take count)).length = count / t.width := by
  rw [length_decode, List.length_take_of_le (by rw [List.length_drop]; omega)]

theorem getElem?_decode_slice {i : Nat} (hi : i < count / t.width) : (t.decode ((bytes.drop first).take count))[i]? =
    some (t.ofBits (ofLittleEndian ((bytes.drop (first + i * t.width)).take t.width))) := by
  have hlength : ((bytes.drop first).take count).length = count :=
    List.length_take_of_le (by rw [List.length_drop]; omega)
  have hroom : (i + 1) * t.width ≤ count := Nat.le_trans (Nat.mul_le_mul_right t.width hi) (Nat.div_mul_le_self ..)
  rw [t.getElem?_decode (by rwa [hlength]), List.drop_take, List.take_take, List.drop_drop,
    Nat.min_eq_left (by rw [Nat.succ_mul] at hroom; omega)]

end Slice

theorem decode_encode (xs : List t.Carrier) : t.decode (t.encode xs) = xs := by
  apply decodeUpTo_encode
  rw [length_encode]
  exact Nat.le_mul_of_pos_right _ t.width_pos

theorem encode_decodeUpTo {n : Nat} {bytes : List UInt8} (hn : bytes.length ≤ n) (hwhole : t.width ∣ bytes.length) :
    t.encode (t.decodeUpTo n bytes) = bytes := by
  induction n generalizing bytes with
  | zero =>
    rw [List.length_eq_zero_iff.mp (Nat.le_zero.mp hn)]
    rfl
  | succ n ih =>
    have hwidth := t.width_pos
    rw [decodeUpTo]
    split
    · next hshort =>
      rw [List.length_eq_zero_iff.mp (Nat.eq_zero_of_dvd_of_lt hwhole hshort)]
      rfl
    · next hlong =>
      have htake : (bytes.take t.width).length = t.width := List.length_take_of_le (Nat.le_of_not_lt hlong)
      have hlt : ofLittleEndian (bytes.take t.width) < 256 ^ t.width := by
        have hbound := ofLittleEndian_lt (bytes.take t.width)
        rwa [htake] at hbound
      have hfirst : littleEndian t.width (ofLittleEndian (bytes.take t.width)) = bytes.take t.width := by
        have hsame := littleEndian_ofLittleEndian (bytes.take t.width)
        rwa [htake] at hsame
      have hrest : t.width ∣ (bytes.drop t.width).length := by
        rw [List.length_drop]
        exact Nat.dvd_sub hwhole (Nat.dvd_refl _)
      rw [encode_cons, t.bitsOf_ofBits hlt, hfirst, ih (by rw [List.length_drop]; omega) hrest, List.take_append_drop]

theorem encode_decode {bytes : List UInt8} (hwhole : t.width ∣ bytes.length) : t.encode (t.decode bytes) = bytes :=
  t.encode_decodeUpTo (Nat.le_refl _) hwhole

end ElementType

end Embedding
