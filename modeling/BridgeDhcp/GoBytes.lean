/-
Byte buffers of Go: slices, `copy` into a part of a buffer and big-endian words.

A buffer is the list of its bytes.  Writing never changes a buffer's length, so
a buffer made of zeros and filled field by field is the concatenation of its
fields; the lemmas below put a written field in its place.
-/

import Mathlib.Tactic.Common

set_option autoImplicit false

namespace BridgeDhcp.GoBytes

/-! ### Reading -/

/-- `bytes[index]`; callers have checked the length. -/
def byteAt (bytes : List UInt8) (index : Nat) : UInt8 := bytes.getD index 0

def slice (low high : Nat) (bytes : List UInt8) : List UInt8 := (bytes.take high).drop low

/-- `binary.BigEndian.Uint16` -/
def uint16 (high low : UInt8) : UInt16 := high.toUInt16 <<< 8 ||| low.toUInt16

/-- `binary.BigEndian.Uint16(bytes[index : index+2])` -/
def uint16At (bytes : List UInt8) (index : Nat) : UInt16 :=
  uint16 (byteAt bytes index) (byteAt bytes (index + 1))

def uint32At (bytes : List UInt8) (index : Nat) : UInt32 :=
  UInt32.ofNat ((uint16At bytes index).toNat * 65536 + (uint16At bytes (index + 2)).toNat)

theorem toNat_uint16 (high low : UInt8) :
    (uint16 high low).toNat = high.toNat * 256 + low.toNat := by
  have highBound := high.toNat_lt
  have lowBound := low.toNat_lt
  have shifted : (high.toUInt16 <<< 8).toNat = high.toNat <<< 8 := by
    simp only [UInt16.toNat_shiftLeft, UInt8.toNat_toUInt16, UInt16.toNat_ofNat, Nat.shiftLeft_eq,
      Nat.reducePow, Nat.reduceMod]
    omega
  unfold uint16
  rw [UInt16.toNat_or, shifted, UInt8.toNat_toUInt16, ← Nat.shiftLeft_add_eq_or_of_lt lowBound,
    Nat.shiftLeft_eq]

theorem length_slice (low high : Nat) (bytes : List UInt8) (within : high ≤ bytes.length) :
    (slice low high bytes).length = high - low := by
  simp [slice, Nat.min_eq_left within]

theorem slice_length_eq_drop (start : Nat) (bytes : List UInt8) :
    slice start bytes.length bytes = bytes.drop start := by
  rw [slice, List.take_length]

theorem slice_drop (start low high : Nat) (bytes : List UInt8) :
    slice low high (bytes.drop start) = slice (start + low) (start + high) bytes := by
  unfold slice
  rw [List.take_drop, List.drop_drop]

theorem drop_slice (count low high : Nat) (bytes : List UInt8) :
    (slice low high bytes).drop count = slice (low + count) high bytes := by
  unfold slice
  rw [List.drop_drop]

theorem slice_append {left field right : List UInt8} {low high : Nat}
    (begins : left.length = low) (ends : left.length + field.length = high) :
    slice low high (left ++ (field ++ right)) = field := by
  unfold slice
  rw [← List.append_assoc, List.take_left' (by simp [ends]), List.drop_left' begins]

theorem byteAt_drop (start index : Nat) (bytes : List UInt8) :
    byteAt (bytes.drop start) index = byteAt bytes (start + index) := by
  simp [byteAt, List.getD_eq_getElem?_getD, List.getElem?_drop]

theorem uint16At_drop (start index : Nat) (bytes : List UInt8) :
    uint16At (bytes.drop start) index = uint16At bytes (start + index) := by
  rw [uint16At, uint16At, byteAt_drop, byteAt_drop, Nat.add_assoc]

theorem byteAt_slice {low high index : Nat} (bytes : List UInt8) (within : low + index < high) :
    byteAt (slice low high bytes) index = byteAt bytes (low + index) := by
  rw [slice, byteAt_drop]
  simp [byteAt, List.getD_eq_getElem?_getD, List.getElem?_take_of_lt within]

theorem uint16At_slice {low high index : Nat} (bytes : List UInt8)
    (within : low + index + 1 < high) :
    uint16At (slice low high bytes) index = uint16At bytes (low + index) := by
  have first : low + index < high := Nat.lt_of_succ_lt within
  have second : low + (index + 1) < high := within
  rw [uint16At, uint16At, byteAt_slice bytes first, byteAt_slice bytes second, Nat.add_assoc]

theorem uint16At_take {count index : Nat} (bytes : List UInt8) (within : index + 1 < count) :
    uint16At (bytes.take count) index = uint16At bytes index := by
  have whole := @uint16At_slice 0 count index bytes (by omega)
  rwa [Nat.zero_add] at whole

theorem uint32At_take {count index : Nat} (bytes : List UInt8) (within : index + 3 < count) :
    uint32At (bytes.take count) index = uint32At bytes index := by
  rw [uint32At, uint32At, uint16At_take bytes (by omega), uint16At_take bytes (by omega)]

theorem uint32At_drop (start index : Nat) (bytes : List UInt8) :
    uint32At (bytes.drop start) index = uint32At bytes (start + index) := by
  rw [uint32At, uint32At, uint16At_drop, uint16At_drop, Nat.add_assoc]

/-! ### Reading with bounds checks -/

/-- `bytes[index]`; none is the panic of an index out of range. -/
def checkedIndex (bytes : List UInt8) (index : Nat) : Option UInt8 := bytes[index]?

/-- `bytes[low:high]`; none is the panic of bounds out of range of the length. -/
def checkedSlice (low high : Nat) (bytes : List UInt8) : Option (List UInt8) :=
  if low ≤ high ∧ high ≤ bytes.length then some (slice low high bytes) else none

/-- `binary.BigEndian.Uint16(bytes[low:high])`, which reads two bytes of the slice. -/
def checkedUint16 (low high : Nat) (bytes : List UInt8) : Option UInt16 := do
  let word ← checkedSlice low high bytes
  let second ← checkedIndex word 1
  let first ← checkedIndex word 0
  return uint16 first second

theorem checkedIndex_eq_some {bytes : List UInt8} {index : Nat} (within : index < bytes.length) :
    checkedIndex bytes index = some (byteAt bytes index) := by
  simp [checkedIndex, byteAt, List.getD_eq_getElem?_getD, within]

theorem checkedSlice_eq_some {low high : Nat} {bytes : List UInt8} (ordered : low ≤ high)
    (within : high ≤ bytes.length) : checkedSlice low high bytes = some (slice low high bytes) :=
  if_pos ⟨ordered, within⟩

theorem checkedUint16_eq_some {low high : Nat} {bytes : List UInt8} (two : low + 2 = high)
    (within : high ≤ bytes.length) : checkedUint16 low high bytes = some (uint16At bytes low) := by
  subst two
  have length : (slice low (low + 2) bytes).length = 2 := by
    rw [length_slice _ _ _ within]
    omega
  unfold checkedUint16
  rw [checkedSlice_eq_some (Nat.le_add_right _ _) within, Option.bind_eq_bind, Option.bind_some,
    checkedIndex_eq_some (by omega), checkedIndex_eq_some (by omega),
    byteAt_slice bytes (by omega), byteAt_slice bytes (by omega)]
  rfl

/-! ### What lies beyond a length -/

theorem byteAt_take_append {bytes : List UInt8} {count index : Nat} (padding : List UInt8)
    (inside : index < count) (within : count ≤ bytes.length) :
    byteAt (bytes.take count ++ padding) index = byteAt bytes index := by
  have length : (bytes.take count).length = count := by simp [within]
  simp [byteAt, List.getD_eq_getElem?_getD, List.getElem?_append_left (length ▸ inside), inside]

theorem uint16At_take_append {bytes : List UInt8} {count index : Nat} (padding : List UInt8)
    (inside : index + 1 < count) (within : count ≤ bytes.length) :
    uint16At (bytes.take count ++ padding) index = uint16At bytes index := by
  rw [uint16At, uint16At, byteAt_take_append padding (Nat.lt_of_succ_lt inside) within,
    byteAt_take_append padding inside within]

theorem slice_take_append {bytes : List UInt8} {count low high : Nat} (padding : List UInt8)
    (inside : high ≤ count) (within : count ≤ bytes.length) :
    slice low high (bytes.take count ++ padding) = slice low high bytes := by
  have length : (bytes.take count).length = count := by simp [within]
  unfold slice
  rw [List.take_append_of_le_length (length.symm ▸ inside), List.take_take, Nat.min_eq_left inside]

/-! ### Writing -/

/-- The two bytes `binary.BigEndian.PutUint16` writes. -/
def bytesOfUint16 (value : UInt16) : List UInt8 := [(value >>> 8).toUInt8, value.toUInt8]

/-- The four bytes `binary.BigEndian.PutUint32` writes. -/
def bytesOfUint32 (value : UInt32) : List UInt8 :=
  [(value >>> 24).toUInt8, (value >>> 16).toUInt8, (value >>> 8).toUInt8, value.toUInt8]

def setByte (index : Nat) (byte : UInt8) (buffer : List UInt8) : List UInt8 := buffer.set index byte

def copyInto (low high : Nat) (data buffer : List UInt8) : List UInt8 :=
  let copied := data.take (high - low)
  buffer.take low ++ copied ++ buffer.drop (low + copied.length)

def putUint16 (index : Nat) (value : UInt16) (buffer : List UInt8) : List UInt8 :=
  copyInto index (index + 2) (bytesOfUint16 value) buffer

def putUint32 (index : Nat) (value : UInt32) (buffer : List UInt8) : List UInt8 :=
  copyInto index (index + 4) (bytesOfUint32 value) buffer

/-- What `copy` leaves in a zeroed field: the data, cut or followed by zeros. -/
def field (width : Nat) (data : List UInt8) : List UInt8 :=
  data.take width ++ List.replicate (width - data.length) 0

@[simp] theorem length_bytesOfUint16 (value : UInt16) : (bytesOfUint16 value).length = 2 := rfl

@[simp] theorem length_bytesOfUint32 (value : UInt32) : (bytesOfUint32 value).length = 4 := rfl

@[simp] theorem length_field (width : Nat) (data : List UInt8) :
    (field width data).length = width := by
  simp only [field, List.length_append, List.length_take, List.length_replicate]
  omega

theorem field_of_length {width : Nat} {data : List UInt8} (exactly : data.length = width) :
    field width data = data := by
  simp [field, ← exactly]

theorem field_nil (width : Nat) : field width [] = List.replicate width 0 := by
  simp [field]

theorem copyInto_zeros {left right : List UInt8} {low high width : Nat} (data : List UInt8)
    (begins : left.length = low) (ends : low + width = high) :
    copyInto low high data (left ++ (List.replicate width 0 ++ right)) =
      left ++ (field width data ++ right) := by
  subst begins ends
  simp only [copyInto, field, Nat.add_sub_cancel_left, List.length_take, List.take_left,
    List.append_assoc, List.append_cancel_left_eq]
  rw [← List.drop_drop, List.drop_left, List.drop_append, List.drop_replicate,
    List.length_replicate]
  have rest : min width data.length - width = 0 := by omega
  have zeros : width - min width data.length = width - data.length := by omega
  rw [rest, zeros, List.drop_zero]

theorem copyInto_field {left old right data : List UInt8} {low high : Nat}
    (begins : left.length = low) (ends : low + old.length = high)
    (fits : data.length = old.length) :
    copyInto low high data (left ++ (old ++ right)) = left ++ (data ++ right) := by
  subst begins ends
  have taken : data.take old.length = data := by simp [← fits]
  simp only [copyInto, Nat.add_sub_cancel_left, taken, List.take_left, List.append_assoc,
    List.append_cancel_left_eq]
  rw [← List.drop_drop, List.drop_left, fits, List.drop_left]

theorem putUint16_field {left old right : List UInt8} {index : Nat} (value : UInt16)
    (begins : left.length = index) (two : old.length = 2) :
    putUint16 index value (left ++ (old ++ right)) = left ++ (bytesOfUint16 value ++ right) :=
  copyInto_field begins (by rw [two]) (by rw [two, length_bytesOfUint16])

theorem toNat_bytesOfUint16 (value : UInt16) :
    (value >>> 8).toUInt8.toNat * 256 + value.toUInt8.toNat = value.toNat := by
  have bound := value.toNat_lt
  simp only [UInt16.toNat_toUInt8, UInt16.toNat_shiftRight, UInt16.toNat_ofNat,
    Nat.shiftRight_eq_div_pow, Nat.reducePow, Nat.reduceMod]
  omega

@[simp] theorem uint16_bytesOfUint16 (value : UInt16) :
    uint16 (value >>> 8).toUInt8 value.toUInt8 = value := by
  apply UInt16.toNat_inj.mp
  rw [toNat_uint16, toNat_bytesOfUint16]

theorem byteAt_append (left right : List UInt8) (index : Nat) :
    byteAt (left ++ right) (left.length + index) = byteAt right index := by
  simp [byteAt, List.getD_eq_getElem?_getD, List.getElem?_append_right]

theorem uint16At_append {left right : List UInt8} {index : Nat} (value : UInt16)
    (begins : left.length = index) :
    uint16At (left ++ (bytesOfUint16 value ++ right)) index = value := by
  have first := byteAt_append left (bytesOfUint16 value ++ right) 0
  have second := byteAt_append left (bytesOfUint16 value ++ right) 1
  rw [Nat.add_zero] at first
  rw [uint16At, ← begins, first, second]
  exact uint16_bytesOfUint16 value

theorem bytesOfUint32_eq (value : UInt32) :
    bytesOfUint32 value =
      bytesOfUint16 (value >>> 16).toUInt16 ++ bytesOfUint16 value.toUInt16 := by
  have bytes : ∀ word : UInt32, bytesOfUint16 word.toUInt16 =
      [(word >>> 8).toUInt8, word.toUInt8] := by
    intro word
    have high : (word.toUInt16 >>> 8).toUInt8 = (word >>> 8).toUInt8 := by
      apply UInt8.toNat_inj.mp
      simp only [UInt16.toNat_toUInt8, UInt16.toNat_shiftRight, UInt32.toNat_toUInt16,
        UInt16.toNat_ofNat, UInt32.toNat_toUInt8, UInt32.toNat_shiftRight, UInt32.toNat_ofNat,
        Nat.shiftRight_eq_div_pow, Nat.reducePow, Nat.reduceMod]
      omega
    have low : word.toUInt16.toUInt8 = word.toUInt8 := by
      apply UInt8.toNat_inj.mp
      simp only [UInt16.toNat_toUInt8, UInt32.toNat_toUInt16, UInt32.toNat_toUInt8, Nat.reducePow]
      omega
    rw [bytesOfUint16, high, low]
  have top : value >>> 16 >>> 8 = value >>> 24 := by
    apply UInt32.toNat_inj.mp
    simp only [UInt32.toNat_shiftRight, UInt32.toNat_ofNat, Nat.shiftRight_eq_div_pow,
      Nat.reducePow, Nat.reduceMod]
    omega
  rw [bytes, bytes, top]
  rfl

theorem uint32At_append {left right : List UInt8} {index : Nat} (value : UInt32)
    (begins : left.length = index) :
    uint32At (left ++ (bytesOfUint32 value ++ right)) index = value := by
  have bound := value.toNat_lt
  have second := @uint16At_append (left ++ bytesOfUint16 (value >>> 16).toUInt16) right
    (index + 2) value.toUInt16 (by simp [begins])
  rw [bytesOfUint32_eq, List.append_assoc]
  rw [List.append_assoc] at second
  unfold uint32At
  rw [uint16At_append _ begins, second]
  apply UInt32.toNat_inj.mp
  simp only [UInt32.toNat_toUInt16, UInt32.toNat_shiftRight, UInt32.toNat_ofNat,
    UInt32.toNat_ofNat', Nat.shiftRight_eq_div_pow, Nat.reducePow, Nat.reduceMod]
  omega

end BridgeDhcp.GoBytes
