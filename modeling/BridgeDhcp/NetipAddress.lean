/-
Addresses and prefixes of Go's net/netip.

An address is the invalid zero value, an IPv4 address or an IPv6 address.  Zones
do not occur: every address here comes from bytes or from arithmetic.  A valid
prefix carries its validity; the invalid prefix is the absent one.
-/

import Mathlib.Algebra.Group.Nat.Defs
import Mathlib.Data.Nat.Basic
import Mathlib.Tactic.Common

set_option autoImplicit false

namespace BridgeDhcp.Netip

/-! ### Addresses -/

inductive Addr where
  | invalid
  | v4 (value : BitVec 32)
  | v6 (value : BitVec 128)
  deriving DecidableEq, Repr

namespace Addr

def isValid : Addr → Bool
  | invalid => false
  | v4 _ => true
  | v6 _ => true

def is4 : Addr → Bool
  | v4 _ => true
  | _ => false

def is6 : Addr → Bool
  | v6 _ => true
  | _ => false

def bitLen : Addr → Nat
  | invalid => 0
  | v4 _ => 32
  | v6 _ => 128

def toNat : Addr → Nat
  | invalid => 0
  | v4 value => value.toNat
  | v6 value => value.toNat

def withNat : Addr → Nat → Addr
  | invalid, _ => invalid
  | v4 _, number => v4 (BitVec.ofNat 32 number)
  | v6 _, number => v6 (BitVec.ofNat 128 number)

def isUnspecified : Addr → Bool
  | invalid => false
  | v4 value => value == 0
  | v6 value => value == 0

/-- Order by family first (`Compare` looks at `BitLen`), then by value. -/
def less (left right : Addr) : Bool :=
  left.bitLen < right.bitLen ||
    (left.bitLen == right.bitLen && left.toNat < right.toNat)

/-- The following address, invalid after the last one of the family. -/
def next : Addr → Addr
  | invalid => invalid
  | v4 value => if value = BitVec.allOnes 32 then invalid else v4 (value + 1)
  | v6 value => if value = BitVec.allOnes 128 then invalid else v6 (value + 1)

theorem toNat_lt (addr : Addr) : addr.toNat < 2 ^ addr.bitLen := by
  cases addr with
  | invalid => exact Nat.one_pos
  | v4 value => exact value.isLt
  | v6 value => exact value.isLt

theorem eq_of_toNat {left right : Addr} (family : left.bitLen = right.bitLen)
    (number : left.toNat = right.toNat) : left = right := by
  cases left <;> cases right <;> simp only [bitLen] at family
  case invalid.invalid => rfl
  case v4.v4 first second =>
    exact congrArg v4 (BitVec.eq_of_toNat_eq number)
  case v6.v6 first second =>
    exact congrArg v6 (BitVec.eq_of_toNat_eq number)
  all_goals omega

theorem isValid_iff_bitLen (addr : Addr) : addr.isValid = true ↔ addr.bitLen ≠ 0 := by
  cases addr <;> simp [isValid, bitLen]

theorem isValid_iff_ne (addr : Addr) : addr.isValid = true ↔ addr ≠ invalid := by
  cases addr <;> simp [isValid]

@[simp] theorem bitLen_withNat (addr : Addr) (number : Nat) :
    (addr.withNat number).bitLen = addr.bitLen := by
  cases addr <;> rfl

@[simp] theorem isValid_withNat (addr : Addr) (number : Nat) :
    (addr.withNat number).isValid = addr.isValid := by
  cases addr <;> rfl

theorem toNat_withNat (addr : Addr) (number : Nat) (fits : number < 2 ^ addr.bitLen) :
    (addr.withNat number).toNat = number := by
  cases addr with
  | invalid =>
      change 0 = number
      simp only [bitLen, Nat.pow_zero] at fits
      omega
  | v4 value =>
      change (BitVec.ofNat 32 number).toNat = number
      rw [BitVec.toNat_ofNat]
      exact Nat.mod_eq_of_lt fits
  | v6 value =>
      change (BitVec.ofNat 128 number).toNat = number
      rw [BitVec.toNat_ofNat]
      exact Nat.mod_eq_of_lt fits

theorem less_iff (left right : Addr) :
    left.less right = true ↔
      left.bitLen < right.bitLen ∨
        (left.bitLen = right.bitLen ∧ left.toNat < right.toNat) := by
  simp only [less, Bool.or_eq_true, Bool.and_eq_true, decide_eq_true_eq, beq_iff_eq]

theorem isUnspecified_eq_false {addr : Addr} (positive : 0 < addr.toNat) :
    addr.isUnspecified = false := by
  cases addr with
  | invalid => rfl
  | v4 value =>
      apply beq_eq_false_iff_ne.mpr
      intro zero
      rw [zero] at positive
      exact absurd positive (by decide)
  | v6 value =>
      apply beq_eq_false_iff_ne.mpr
      intro zero
      rw [zero] at positive
      exact absurd positive (by decide)

theorem is4_of_bitLen {addr other : Addr} (family : addr.bitLen = other.bitLen)
    (v4 : other.is4 = true) : addr.is4 = true := by
  cases other with
  | invalid => cases v4
  | v6 value => cases v4
  | v4 value =>
      cases addr with
      | invalid => cases family
      | v4 value => rfl
      | v6 value => cases family

theorem next_of_lt (addr : Addr) (valid : addr.isValid = true)
    (below : addr.toNat + 1 < 2 ^ addr.bitLen) :
    addr.next = addr.withNat (addr.toNat + 1) := by
  cases addr with
  | invalid => cases valid
  | v4 value =>
      have notLast : value ≠ BitVec.allOnes 32 := by
        rintro rfl
        exact absurd below (by decide)
      change (if value = BitVec.allOnes 32 then invalid else v4 (value + 1)) = _
      rw [if_neg notLast]
      apply congrArg v4
      apply BitVec.eq_of_toNat_eq
      rw [BitVec.toNat_add, BitVec.toNat_ofNat]
      rfl
  | v6 value =>
      have notLast : value ≠ BitVec.allOnes 128 := by
        rintro rfl
        exact absurd below (by decide)
      change (if value = BitVec.allOnes 128 then invalid else v6 (value + 1)) = _
      rw [if_neg notLast]
      apply congrArg v6
      apply BitVec.eq_of_toNat_eq
      rw [BitVec.toNat_add, BitVec.toNat_ofNat]
      rfl

theorem next_of_last (addr : Addr) (last : addr.toNat + 1 = 2 ^ addr.bitLen) :
    addr.next = invalid := by
  cases addr with
  | invalid => rfl
  | v4 value =>
      have isLast : value = BitVec.allOnes 32 := by
        apply BitVec.eq_of_toNat_eq
        rw [BitVec.toNat_allOnes]
        exact Nat.eq_sub_of_add_eq last
      change (if value = BitVec.allOnes 32 then invalid else v4 (value + 1)) = _
      rw [if_pos isLast]
  | v6 value =>
      have isLast : value = BitVec.allOnes 128 := by
        apply BitVec.eq_of_toNat_eq
        rw [BitVec.toNat_allOnes]
        exact Nat.eq_sub_of_add_eq last
      change (if value = BitVec.allOnes 128 then invalid else v6 (value + 1)) = _
      rw [if_pos isLast]

theorem next_of_isValid (addr : Addr) (valid : addr.next.isValid = true) :
    addr.next.bitLen = addr.bitLen ∧ addr.next.toNat = addr.toNat + 1 := by
  have bound := addr.toNat_lt
  rcases Nat.lt_or_ge (addr.toNat + 1) (2 ^ addr.bitLen) with below | last
  · have addrValid : addr.isValid = true := by
      cases addr with
      | invalid => cases valid
      | v4 value => rfl
      | v6 value => rfl
    rw [next_of_lt addr addrValid below]
    exact ⟨bitLen_withNat addr _, toNat_withNat addr _ below⟩
  · rw [next_of_last addr (by omega)] at valid
    cases valid

theorem between_iff {low high addr : Addr} (family : low.bitLen = high.bitLen) :
    (high.less addr = false ∧ addr.less low = false) ↔
      addr.bitLen = low.bitLen ∧ low.toNat ≤ addr.toNat ∧ addr.toNat ≤ high.toNat := by
  rw [← Bool.not_eq_true, ← Bool.not_eq_true, less_iff, less_iff]
  constructor
  · rintro ⟨notAbove, notBelow⟩
    omega
  · rintro ⟨same, above, below⟩
    omega

end Addr

/-! ### Addresses of sixteen bytes -/

/-- `Addr.As16`: an IPv4 address is mapped, the invalid address is all zero. -/
def Addr.as16 : Addr → BitVec 128
  | .invalid => 0
  | .v4 value => 0xffff00000000#128 ||| value.setWidth 128
  | .v6 value => value

/-- `Addr.Unmap`: a mapped IPv4 address becomes the IPv4 address. -/
def Addr.unmap : Addr → Addr
  | .v6 value => if value >>> 32 = 0xffff#128 then .v4 (value.setWidth 32) else .v6 value
  | ip => ip

/-- `Addr.IsLinkLocalUnicast`: 169.254.0.0/16 or fe80::/10. -/
def Addr.isLinkLocalUnicast (ip : Addr) : Bool :=
  match ip.unmap with
  | .invalid => false
  | .v4 value => value >>> 16 == 0xa9fe#32
  | .v6 value => value >>> 118 == 0x3fa#128

/-! ### Addresses as byte slices -/

def natOfBytes (bytes : List UInt8) : Nat :=
  bytes.foldl (fun number byte => number * 256 + byte.toNat) 0

/-- The last `count` big-endian bytes of a number. -/
def bytesOfNat : Nat → Nat → List UInt8
  | 0, _ => []
  | count + 1, number => bytesOfNat count (number / 256) ++ [UInt8.ofNat (number % 256)]

def Addr.asSlice : Addr → List UInt8
  | .invalid => []
  | .v4 value => bytesOfNat 4 value.toNat
  | .v6 value => bytesOfNat 16 value.toNat

/-- `netip.AddrFromSlice`: four bytes or sixteen, nothing else. -/
def addrFromSlice (bytes : List UInt8) : Option Addr :=
  if bytes.length = 4 then some (.v4 (BitVec.ofNat 32 (natOfBytes bytes)))
  else if bytes.length = 16 then some (.v6 (BitVec.ofNat 128 (natOfBytes bytes)))
  else none

/-- `net.IP.To4`: a four-byte slice, or the tail of an IPv4-mapped one.  The nil
slice is the empty one. -/
def to4 (ip : List UInt8) : List UInt8 :=
  if ip.length = 4 then ip
  else if ip.length = 16 ∧ ip.take 12 = [0, 0, 0, 0, 0, 0, 0, 0, 0, 0, 255, 255] then ip.drop 12
  else []

/-- `net.IP.To16`: a sixteen-byte slice, or a four-byte one mapped. -/
def to16 (ip : List UInt8) : List UInt8 :=
  if ip.length = 4 then [0, 0, 0, 0, 0, 0, 0, 0, 0, 0, 255, 255] ++ ip
  else if ip.length = 16 then ip
  else []

/-- `net.IP.IsUnspecified`: all zero in either family, mapped or not. -/
def ipIsUnspecified (ip : List UInt8) : Bool :=
  ip == [0, 0, 0, 0] || ip == [0, 0, 0, 0, 0, 0, 0, 0, 0, 0, 255, 255, 0, 0, 0, 0] ||
    ip == List.replicate 16 0

def cidrMask4 (ones : Nat) : List UInt8 :=
  if ones ≤ 32 then bytesOfNat 4 (2 ^ 32 - 2 ^ (32 - ones)) else []

@[simp] theorem length_bytesOfNat (count number : Nat) :
    (bytesOfNat count number).length = count := by
  induction count generalizing number with
  | zero => rfl
  | succ count ih => rw [bytesOfNat, List.length_append, ih, List.length_singleton]

theorem natOfBytes_bytesOfNat (count number : Nat) :
    natOfBytes (bytesOfNat count number) = number % 256 ^ count := by
  induction count generalizing number with
  | zero => rw [Nat.pow_zero, Nat.mod_one]; rfl
  | succ count ih =>
      have front := ih (number / 256)
      unfold natOfBytes at front ⊢
      rw [bytesOfNat, List.foldl_append, front, List.foldl_cons, List.foldl_nil, Nat.pow_succ',
        Nat.mod_mul, UInt8.toNat_ofNat', Nat.mod_mod]
      omega

theorem addrFromSlice_asSlice {addr : Addr} (v4 : addr.is4 = true) :
    addrFromSlice (to4 addr.asSlice) = some addr := by
  cases addr with
  | invalid => cases v4
  | v6 value => cases v4
  | v4 value =>
      have four : (bytesOfNat 4 value.toNat).length = 4 := length_bytesOfNat 4 value.toNat
      change addrFromSlice (to4 (bytesOfNat 4 value.toNat)) = some (.v4 value)
      unfold to4
      rw [if_pos four]
      unfold addrFromSlice
      rw [if_pos four, natOfBytes_bytesOfNat]
      have small : value.toNat % 256 ^ 4 = value.toNat := Nat.mod_eq_of_lt value.isLt
      rw [small, BitVec.ofNat_toNat, BitVec.setWidth_eq]

theorem asSlice_injective_is4 {left right : Addr} (leftIs4 : left.is4 = true)
    (rightIs4 : right.is4 = true) (same : left.asSlice = right.asSlice) : left = right := by
  have read := addrFromSlice_asSlice leftIs4
  rw [same, addrFromSlice_asSlice rightIs4] at read
  exact (Option.some.inj read).symm

/-! ### Prefixes -/

/-- A valid `netip.Prefix`: the address keeps its host bits. -/
structure Prefix where
  addr : Addr
  bits : Nat
  addrValid : addr.isValid = true
  bitsFit : bits ≤ addr.bitLen
  deriving DecidableEq, Repr

namespace Prefix

def hostBits (net : Prefix) : Nat := net.addr.bitLen - net.bits

/-- The number of the network: the bits shared by all its addresses. -/
def network (net : Prefix) : Nat := net.addr.toNat / 2 ^ net.hostBits

def masked (net : Prefix) : Prefix where
  addr := net.addr.withNat (net.network * 2 ^ net.hostBits)
  bits := net.bits
  addrValid := by rw [Addr.isValid_withNat]; exact net.addrValid
  bitsFit := by rw [Addr.bitLen_withNat]; exact net.bitsFit

def contains (net : Prefix) (addr : Addr) : Bool :=
  addr.bitLen == net.addr.bitLen && addr.toNat / 2 ^ net.hostBits == net.network

theorem contains_iff (net : Prefix) (addr : Addr) :
    net.contains addr = true ↔
      addr.bitLen = net.addr.bitLen ∧ addr.toNat / 2 ^ net.hostBits = net.network := by
  simp only [contains, Bool.and_eq_true, beq_iff_eq]

theorem bitLen_ne_zero (net : Prefix) : net.addr.bitLen ≠ 0 :=
  (Addr.isValid_iff_bitLen net.addr).mp net.addrValid

theorem isValid_of_contains {net : Prefix} {addr : Addr} (inside : net.contains addr = true) :
    addr.isValid = true := by
  rw [Addr.isValid_iff_bitLen, ((net.contains_iff addr).mp inside).1]
  exact net.bitLen_ne_zero

@[simp] theorem hostBits_masked (net : Prefix) : net.masked.hostBits = net.hostBits := by
  unfold hostBits masked
  rw [Addr.bitLen_withNat]

theorem base_le (net : Prefix) : net.network * 2 ^ net.hostBits ≤ net.addr.toNat :=
  Nat.div_mul_le_self _ _

theorem toNat_masked_addr (net : Prefix) :
    net.masked.addr.toNat = net.network * 2 ^ net.hostBits :=
  Addr.toNat_withNat net.addr _ (Nat.lt_of_le_of_lt net.base_le net.addr.toNat_lt)

@[simp] theorem network_masked (net : Prefix) : net.masked.network = net.network := by
  unfold network
  rw [toNat_masked_addr, hostBits_masked]
  exact Nat.mul_div_cancel _ (Nat.two_pow_pos _)

@[simp] theorem contains_masked (net : Prefix) (addr : Addr) :
    net.masked.contains addr = net.contains addr := by
  unfold contains
  rw [network_masked, hostBits_masked]
  change (addr.bitLen == (net.addr.withNat _).bitLen && _) = _
  rw [Addr.bitLen_withNat]

theorem contains_of_between (net : Prefix) {low high addr : Addr}
    (lowInside : net.contains low = true) (highInside : net.contains high = true)
    (notAbove : high.less addr = false) (notBelow : addr.less low = false) :
    net.contains addr = true := by
  rw [contains_iff] at lowInside highInside ⊢
  have family : low.bitLen = high.bitLen := lowInside.1.trans highInside.1.symm
  obtain ⟨same, above, below⟩ := (Addr.between_iff family).mp ⟨notAbove, notBelow⟩
  refine ⟨same.trans lowInside.1, Nat.le_antisymm ?_ ?_⟩
  · rw [← highInside.2]
    exact Nat.div_le_div_right below
  · rw [← lowInside.2]
    exact Nat.div_le_div_right above

theorem contains_v6_iff {net : Prefix} {base : BitVec 128} (v6 : net.addr = .v6 base)
    (value : BitVec 128) :
    net.contains (.v6 value) = true ↔
      ∀ index, net.hostBits ≤ index → value.getLsbD index = base.getLsbD index := by
  have number : net.network = base.toNat / 2 ^ net.hostBits := by
    unfold network
    rw [v6]
    rfl
  rw [contains_iff, v6, number]
  constructor
  · rintro ⟨_, same⟩ index above
    have bits : (value.toNat / 2 ^ net.hostBits).testBit (index - net.hostBits) =
        (base.toNat / 2 ^ net.hostBits).testBit (index - net.hostBits) :=
      congrArg (fun number => number.testBit (index - net.hostBits)) same
    rw [Nat.testBit_div_two_pow, Nat.testBit_div_two_pow, Nat.sub_add_cancel above] at bits
    exact bits
  · intro same
    refine ⟨rfl, Nat.eq_of_testBit_eq ?_⟩
    intro index
    rw [Nat.testBit_div_two_pow, Nat.testBit_div_two_pow]
    exact same (index + net.hostBits) (Nat.le_add_left _ _)

end Prefix

/-- `netip.PrefixFrom`; a length that does not fit gives the invalid prefix. -/
def prefixFrom (addr : Addr) (bits : Int) : Option Prefix :=
  if fits : addr.isValid = true ∧ 0 ≤ bits ∧ bits ≤ addr.bitLen then
    some
      { addr := addr
        bits := bits.toNat
        addrValid := fits.1
        bitsFit := by omega }
  else none

end BridgeDhcp.Netip
