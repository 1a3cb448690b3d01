/-
The bytes of Go's `big.Int` and their way into a buffer of fixed size.

`SetBytes` reads big-endian bytes and `Bytes` writes them without leading zeros, so a
number may come back with fewer bytes than it was read from, or with more after an
addition.
-/

import BridgeDhcp.GoBytes
import BridgeDhcp.NetipAddress
import BridgeDhcp.PositionalText

set_option autoImplicit false

namespace BridgeDhcp.GoBigInt

open GoBytes Netip PositionalText

/-- `big.Int.Bytes` of a number that is not negative. -/
def bigBytes (number : Nat) : List UInt8 := positional UInt8.ofNat 256 number

@[simp] theorem bigBytes_zero : bigBytes 0 = [] := positional_zero UInt8.ofNat

theorem bigBytes_of_pos {number : Nat} (positive : 0 < number) :
    bigBytes number = bigBytes (number / 256) ++ [UInt8.ofNat (number % 256)] :=
  positional_of_pos UInt8.ofNat (by decide) positive

theorem length_bigBytes_le_iff (width number : Nat) :
    (bigBytes number).length ≤ width ↔ number < 256 ^ width :=
  length_positional_le_iff UInt8.ofNat (by decide) width number

theorem bytesOfNat_zero (width : Nat) : bytesOfNat width 0 = List.replicate width 0 := by
  induction width with
  | zero => rfl
  | succ width ih =>
      rw [bytesOfNat, Nat.zero_div, ih, List.replicate_succ']
      rfl

theorem zeros_append_bigBytes {width number : Nat} (fits : number < 256 ^ width) :
    List.replicate (width - (bigBytes number).length) 0 ++ bigBytes number =
      bytesOfNat width number := by
  induction width generalizing number with
  | zero =>
      have zero : number = 0 := by
        rw [Nat.pow_zero] at fits
        omega
      rw [zero]
      rfl
  | succ width ih =>
      rcases Nat.eq_zero_or_pos number with zero | positive
      · rw [zero, bigBytes_zero, List.append_nil, bytesOfNat_zero]
        rfl
      · have front : number / 256 < 256 ^ width := by
          rw [Nat.pow_succ] at fits
          exact Nat.div_lt_of_lt_mul (by rwa [Nat.mul_comm])
        rw [bigBytes_of_pos positive, List.length_append, List.length_singleton,
          Nat.add_sub_add_right, ← List.append_assoc, ih front]
        rfl

theorem copyInto_end {width : Nat} {out : List UInt8} (fits : out.length ≤ width) :
    copyInto (width - out.length) width out (List.replicate width 0) =
      List.replicate (width - out.length) 0 ++ out := by
  have all : width - (width - out.length) = out.length := by omega
  have full : width - out.length + out.length = width := by omega
  unfold copyInto
  simp only [all, List.take_length, full, List.take_replicate, List.drop_replicate, Nat.sub_self,
    List.replicate_zero, List.append_nil]
  rw [Nat.min_eq_left (Nat.sub_le _ _)]

end BridgeDhcp.GoBigInt
