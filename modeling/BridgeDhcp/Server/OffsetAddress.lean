/-
The address at an offset, from the bytes of a big integer to exact arithmetic.

The source adds the offset to the bytes of the network address, realigns the bytes of
the sum and tests whether the address is still inside.
-/

import BridgeDhcp.GoBigInt
import BridgeDhcp.Server.LeaseTable

set_option autoImplicit false

namespace BridgeDhcp.Server

open GoBytes GoBigInt Netip

/-! ### The computation on bytes -/

/-- `addrAtOffset` as the source computes it.  The sum may need one byte more than
the address has, or fewer. -/
def addrAtOffsetBytes (served : Prefix) (offset : UInt64) : Addr :=
  let base := served.masked.addr
  let raw := base.asSlice
  let sum := natOfBytes raw + offset.toNat
  let out := bigBytes sum
  if raw.length < out.length then .invalid
  else
    let buf := copyInto (raw.length - out.length) raw.length out (List.replicate raw.length 0)
    match addrFromSlice buf with
    | none => .invalid
    | some addr => if served.masked.contains addr then addr else .invalid

theorem length_asSlice (addr : Addr) : addr.asSlice.length * 8 = addr.bitLen := by
  cases addr with
  | invalid => rfl
  | v4 value => exact congrArg (· * 8) (length_bytesOfNat 4 value.toNat)
  | v6 value => exact congrArg (· * 8) (length_bytesOfNat 16 value.toNat)

theorem natOfBytes_asSlice (addr : Addr) : natOfBytes addr.asSlice = addr.toNat := by
  cases addr with
  | invalid => rfl
  | v4 value =>
      change natOfBytes (bytesOfNat 4 value.toNat) = value.toNat
      rw [natOfBytes_bytesOfNat]
      exact Nat.mod_eq_of_lt value.isLt
  | v6 value =>
      change natOfBytes (bytesOfNat 16 value.toNat) = value.toNat
      rw [natOfBytes_bytesOfNat]
      exact Nat.mod_eq_of_lt value.isLt

theorem addrFromSlice_bytesOfNat {addr : Addr} (valid : addr.isValid = true) {number : Nat}
    (fits : number < 256 ^ addr.asSlice.length) :
    addrFromSlice (bytesOfNat addr.asSlice.length number) = some (addr.withNat number) := by
  cases addr with
  | invalid => cases valid
  | v4 value =>
      have four : (Addr.v4 value).asSlice.length = 4 := length_bytesOfNat 4 value.toNat
      rw [four] at fits ⊢
      unfold addrFromSlice
      rw [if_pos (length_bytesOfNat 4 number), natOfBytes_bytesOfNat, Nat.mod_eq_of_lt fits]
      rfl
  | v6 value =>
      have sixteen : (Addr.v6 value).asSlice.length = 16 := length_bytesOfNat 16 value.toNat
      rw [sixteen] at fits ⊢
      unfold addrFromSlice
      rw [if_neg (by rw [length_bytesOfNat]; decide), if_pos (length_bytesOfNat 16 number),
        natOfBytes_bytesOfNat, Nat.mod_eq_of_lt fits]
      rfl

theorem pow_length_asSlice (addr : Addr) : 256 ^ addr.asSlice.length = 2 ^ addr.bitLen := by
  rw [← length_asSlice, Nat.mul_comm, Nat.pow_mul]

theorem addrAtOffsetBytes_eq (served : Prefix) (offset : UInt64) :
    addrAtOffsetBytes served offset = addrAtOffset served offset := by
  unfold addrAtOffsetBytes addrAtOffset
  dsimp only
  rw [natOfBytes_asSlice]
  by_cases fits : served.masked.addr.toNat + offset.toNat < 256 ^ served.masked.addr.asSlice.length
  · have short := (length_bigBytes_le_iff _ _).mpr fits
    rw [if_neg (Nat.not_lt.mpr short), copyInto_end short, zeros_append_bigBytes fits,
      addrFromSlice_bytesOfNat served.masked.addrValid fits]
    rw [pow_length_asSlice] at fits
    rw [if_neg (Nat.not_le.mpr fits)]
  · have long := mt (length_bigBytes_le_iff _ _).mp fits
    rw [pow_length_asSlice] at fits
    rw [if_pos (Nat.not_le.mp long), if_pos (Nat.not_lt.mp fits)]

/-! ### Exactness -/

section Exact

variable (served : Prefix) {offset : UInt64}

theorem base_add_lt {host : Nat} (inside : host < 2 ^ served.hostBits) :
    served.masked.addr.toNat + host < 2 ^ served.addr.bitLen := by
  have split : 2 ^ served.addr.bitLen = 2 ^ served.bits * 2 ^ served.hostBits := by
    rw [← Nat.pow_add]
    congr 1
    have := served.bitsFit
    unfold Prefix.hostBits
    omega
  have network : served.network < 2 ^ served.bits := by
    unfold Prefix.network
    apply Nat.div_lt_of_lt_mul
    rw [Nat.mul_comm, ← split]
    exact served.addr.toNat_lt
  rw [served.toNat_masked_addr, split]
  calc served.network * 2 ^ served.hostBits + host
      < served.network * 2 ^ served.hostBits + 2 ^ served.hostBits := by omega
    _ = (served.network + 1) * 2 ^ served.hostBits := by rw [Nat.succ_mul]
    _ ≤ 2 ^ served.bits * 2 ^ served.hostBits := Nat.mul_le_mul_right _ network

theorem contains_base_add_iff {host : Nat}
    (fits : served.masked.addr.toNat + host < 2 ^ served.masked.addr.bitLen) :
    served.masked.contains (served.masked.addr.withNat (served.masked.addr.toNat + host)) = true ↔
      host < 2 ^ served.hostBits := by
  rw [Prefix.contains_masked, Prefix.contains_iff, Addr.toNat_withNat _ _ fits,
    Addr.bitLen_withNat, served.toNat_masked_addr, Nat.mul_comm,
    Nat.mul_add_div (Nat.two_pow_pos _)]
  change (served.addr.withNat _).bitLen = served.addr.bitLen ∧ _ ↔ _
  rw [Addr.bitLen_withNat, and_iff_right rfl, Nat.add_eq_left, Nat.div_eq_zero_iff]
  have positive := Nat.two_pow_pos served.hostBits
  omega

theorem addrAtOffset_of_lt (inside : offset.toNat < 2 ^ served.hostBits) :
    addrAtOffset served offset =
      served.masked.addr.withNat (served.masked.addr.toNat + offset.toNat) := by
  have fits : served.masked.addr.toNat + offset.toNat < 2 ^ served.masked.addr.bitLen := by
    change _ < 2 ^ (served.addr.withNat _).bitLen
    rw [Addr.bitLen_withNat]
    exact base_add_lt served inside
  unfold addrAtOffset
  dsimp only
  rw [if_neg (Nat.not_le.mpr fits), if_pos ((contains_base_add_iff served fits).mpr inside)]

theorem addrAtOffset_of_le (outside : 2 ^ served.hostBits ≤ offset.toNat) :
    addrAtOffset served offset = .invalid := by
  unfold addrAtOffset
  dsimp only
  split
  · rfl
  · next fits =>
      rw [if_neg]
      intro contained
      have inside := (contains_base_add_iff served (Nat.not_le.mp fits)).mp contained
      omega

theorem addrAtOffset_isValid_iff :
    (addrAtOffset served offset).isValid = true ↔ offset.toNat < 2 ^ served.hostBits := by
  constructor
  · intro valid
    by_contra outside
    rw [addrAtOffset_of_le served (Nat.not_lt.mp outside)] at valid
    cases valid
  · intro inside
    rw [addrAtOffset_of_lt served inside, Addr.isValid_withNat]
    exact served.masked.addrValid

end Exact

/-- For every prefix and every offset the result is the address whose number is that
of the network plus the offset if the offset fits into the host bits, and invalid
otherwise.  So different offsets give different addresses, in their order, and the
host part is the offset under every prefix. -/
theorem addrAtOffset_exact (served : Prefix) :
    (∀ offset : UInt64, offset.toNat < 2 ^ served.hostBits →
      (addrAtOffsetBytes served offset).bitLen = served.addr.bitLen ∧
      (addrAtOffsetBytes served offset).toNat = served.masked.addr.toNat + offset.toNat) ∧
    (∀ offset : UInt64, 2 ^ served.hostBits ≤ offset.toNat →
      addrAtOffsetBytes served offset = .invalid) ∧
    (∀ first second : UInt64, (addrAtOffsetBytes served first).isValid = true →
      addrAtOffsetBytes served first = addrAtOffsetBytes served second → first = second) ∧
    (∀ first second : UInt64, (addrAtOffsetBytes served first).isValid = true →
      (addrAtOffsetBytes served second).isValid = true → first < second →
      (addrAtOffsetBytes served first).less (addrAtOffsetBytes served second) = true) ∧
    ∀ offset : UInt64, (addrAtOffsetBytes served offset).isValid = true →
      (addrAtOffsetBytes served offset).toNat % 2 ^ served.hostBits = offset.toNat ∧
      (addrAtOffsetBytes served offset).toNat / 2 ^ served.hostBits = served.network := by
  simp only [addrAtOffsetBytes_eq]
  have family {offset : UInt64} (valid : (addrAtOffset served offset).isValid = true) :
      (addrAtOffset served offset).bitLen = served.addr.bitLen :=
    ((served.contains_iff _).mp (addrAtOffset_contains valid)).1
  refine ⟨?_, ?_, ?_, ?_, ?_⟩
  · intro offset inside
    have valid := (addrAtOffset_isValid_iff served).mpr inside
    exact ⟨family valid, addrAtOffset_toNat valid⟩
  · intro offset outside
    exact addrAtOffset_of_le served outside
  · intro first second valid same
    have alsoValid := valid
    rw [same] at alsoValid
    have numbers := congrArg Addr.toNat same
    rw [addrAtOffset_toNat valid, addrAtOffset_toNat alsoValid] at numbers
    exact UInt64.toNat_inj.mp (by omega)
  · intro first second valid alsoValid less
    rw [UInt64.lt_iff_toNat_lt] at less
    rw [Addr.less_iff, family valid, family alsoValid, addrAtOffset_toNat valid,
      addrAtOffset_toNat alsoValid]
    omega
  · intro offset valid
    have inside := (addrAtOffset_isValid_iff served).mp valid
    rw [addrAtOffset_toNat valid, served.toNat_masked_addr, Nat.mul_comm, Nat.mul_add_mod,
      Nat.mod_eq_of_lt inside, Nat.mul_add_div (Nat.two_pow_pos _), Nat.div_eq_of_lt inside]
    exact ⟨rfl, rfl⟩

end BridgeDhcp.Server
