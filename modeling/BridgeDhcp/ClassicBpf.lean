/-
Classic BPF socket filters.

A program is a list of instructions over an accumulator and an index register.
Jumps only go forward, so a jump is executed by counting the instructions still
to be skipped and the interpreter recurses on the rest of the program.  A load
beyond the frame ends the program with zero, which rejects the frame.
-/

import BridgeDhcp.GoBytes
import Mathlib.Tactic.Common

set_option autoImplicit false

namespace BridgeDhcp.ClassicBpf

open GoBytes

inductive Size where
  | byte
  | half
  deriving DecidableEq, Repr

inductive Cond where
  | equal
  | notEqual
  | bitsSet
  deriving DecidableEq, Repr

/-- The instructions, with the field names of the assembler.  The only ancillary load is the
one of the VLAN flag. -/
inductive Instruction where
  | loadVLANTagPresent
  | loadAbsolute (off : Nat) (size : Size)
  | loadIndirect (off : Nat) (size : Size)
  | loadMemShift (off : Nat)
  | jumpIf (cond : Cond) (val : UInt32) (skipTrue skipFalse : Nat)
  | retConstant (val : UInt32)
  deriving DecidableEq, Repr

structure Machine where
  accumulator : UInt32
  index : UInt32
  deriving DecidableEq, Repr

def Machine.reset : Machine := { accumulator := 0, index := 0 }

/-- What the filter sees: the bytes and the kernel's note whether a tag was stripped. -/
structure Skb where
  frame : List UInt8
  vlanTagPresent : Bool
  deriving DecidableEq, Repr

def Cond.test (left right : UInt32) : Cond → Bool
  | equal => left == right
  | notEqual => left != right
  | bitsSet => left &&& right != 0

def load (frame : List UInt8) (off : Nat) : Size → Option UInt32
  | .byte => if off + 1 ≤ frame.length then some (byteAt frame off).toUInt32 else none
  | .half => if off + 2 ≤ frame.length then some (uint16At frame off).toUInt32 else none

def withLoaded (loaded : Option UInt32) (next : UInt32 → UInt32) : UInt32 :=
  match loaded with
  | none => 0
  | some value => next value

/-- Runs the rest of a program after skipping some instructions of it. -/
def exec (skb : Skb) : Nat → Machine → List Instruction → UInt32
  | _, _, [] => 0
  | skip + 1, machine, _ :: rest => exec skb skip machine rest
  | 0, machine, .loadVLANTagPresent :: rest =>
      exec skb 0 { machine with accumulator := if skb.vlanTagPresent then 1 else 0 } rest
  | 0, machine, .loadAbsolute off size :: rest =>
      withLoaded (load skb.frame off size) fun value =>
        exec skb 0 { machine with accumulator := value } rest
  | 0, machine, .loadIndirect off size :: rest =>
      withLoaded (load skb.frame (machine.index.toNat + off) size) fun value =>
        exec skb 0 { machine with accumulator := value } rest
  | 0, machine, .loadMemShift off :: rest =>
      withLoaded (load skb.frame off .byte) fun value =>
        exec skb 0 { machine with index := 4 * (value &&& (0xF : UInt32)) } rest
  | 0, machine, .jumpIf cond val skipTrue skipFalse :: rest =>
      exec skb (if cond.test machine.accumulator val then skipTrue else skipFalse) machine rest
  | 0, _, .retConstant val :: _ => val

def admits (program : List Instruction) (skb : Skb) : Bool :=
  exec skb 0 Machine.reset program != 0

/-! ### One rule for each instruction -/

section Rules

variable (skb : Skb) (machine : Machine) (rest : List Instruction)

theorem exec_skip (skip : Nat) (instruction : Instruction) :
    exec skb (skip + 1) machine (instruction :: rest) = exec skb skip machine rest := rfl

theorem exec_loadVLANTagPresent :
    exec skb 0 machine (.loadVLANTagPresent :: rest) =
      exec skb 0 { machine with accumulator := if skb.vlanTagPresent then 1 else 0 } rest := rfl

theorem exec_retConstant (val : UInt32) :
    exec skb 0 machine (.retConstant val :: rest) = val := rfl

theorem withLoaded_byte (frame : List UInt8) (off : Nat) (next : UInt32 → UInt32) :
    withLoaded (load frame off .byte) next ≠ 0 ↔
      off + 1 ≤ frame.length ∧ next (byteAt frame off).toUInt32 ≠ 0 := by
  by_cases within : off + 1 ≤ frame.length
  · simp [load, withLoaded, within]
  · simp [load, withLoaded, within]

theorem withLoaded_half (frame : List UInt8) (off : Nat) (next : UInt32 → UInt32) :
    withLoaded (load frame off .half) next ≠ 0 ↔
      off + 2 ≤ frame.length ∧ next (uint16At frame off).toUInt32 ≠ 0 := by
  by_cases within : off + 2 ≤ frame.length
  · simp [load, withLoaded, within]
  · simp [load, withLoaded, within]

theorem exec_loadAbsolute_byte (off : Nat) :
    exec skb 0 machine (.loadAbsolute off .byte :: rest) ≠ 0 ↔
      off + 1 ≤ skb.frame.length ∧
        exec skb 0 { machine with accumulator := (byteAt skb.frame off).toUInt32 } rest ≠ 0 := by
  exact withLoaded_byte _ _ _

theorem exec_loadAbsolute_half (off : Nat) :
    exec skb 0 machine (.loadAbsolute off .half :: rest) ≠ 0 ↔
      off + 2 ≤ skb.frame.length ∧
        exec skb 0 { machine with accumulator := (uint16At skb.frame off).toUInt32 } rest ≠ 0 := by
  exact withLoaded_half _ _ _

theorem exec_loadIndirect_half (off : Nat) :
    exec skb 0 machine (.loadIndirect off .half :: rest) ≠ 0 ↔
      machine.index.toNat + off + 2 ≤ skb.frame.length ∧
        exec skb 0 { machine with
          accumulator := (uint16At skb.frame (machine.index.toNat + off)).toUInt32 } rest ≠ 0 := by
  exact withLoaded_half _ _ _

theorem exec_loadMemShift (off : Nat) :
    exec skb 0 machine (.loadMemShift off :: rest) ≠ 0 ↔
      off + 1 ≤ skb.frame.length ∧
        exec skb 0 { machine with
          index := 4 * ((byteAt skb.frame off).toUInt32 &&& (0xF : UInt32)) } rest ≠ 0 := by
  exact withLoaded_byte _ _ _

theorem exec_jumpIf (cond : Cond) (val : UInt32) (skipTrue skipFalse : Nat) :
    exec skb 0 machine (.jumpIf cond val skipTrue skipFalse :: rest) ≠ 0 ↔
      cond.test machine.accumulator val = true ∧ exec skb skipTrue machine rest ≠ 0 ∨
        cond.test machine.accumulator val = false ∧ exec skb skipFalse machine rest ≠ 0 := by
  change exec skb (if cond.test machine.accumulator val then skipTrue else skipFalse) machine rest ≠
    0 ↔ _
  cases cond.test machine.accumulator val <;> simp

end Rules

/-! ### Registers hold zero-extended loads -/

theorem byte_toUInt32_eq_iff (left right : UInt8) :
    left.toUInt32 = right.toUInt32 ↔ left = right := by
  rw [← UInt32.toNat_inj, ← UInt8.toNat_inj, UInt8.toNat_toUInt32, UInt8.toNat_toUInt32]

theorem half_toUInt32_eq_iff (left right : UInt16) :
    left.toUInt32 = right.toUInt32 ↔ left = right := by
  rw [← UInt32.toNat_inj, ← UInt16.toNat_inj, UInt16.toNat_toUInt32, UInt16.toNat_toUInt32]

theorem half_and_eq_zero_iff (left right : UInt16) :
    left.toUInt32 &&& right.toUInt32 = 0 ↔ left &&& right = 0 := by
  rw [← UInt32.toNat_inj, ← UInt16.toNat_inj, UInt32.toNat_and, UInt16.toNat_and,
    UInt16.toNat_toUInt32, UInt16.toNat_toUInt32]
  rfl

theorem toNat_memShift (byte : UInt8) :
    (4 * (byte.toUInt32 &&& (0xF : UInt32))).toNat = 4 * (byte.toNat % 16) := by
  have low : (byte.toUInt32 &&& (0xF : UInt32)).toNat = byte.toNat % 16 := by
    rw [UInt32.toNat_and, UInt8.toNat_toUInt32]
    exact Nat.and_two_pow_sub_one_eq_mod byte.toNat 4
  rw [UInt32.toNat_mul, low]
  change 4 * (byte.toNat % 16) % 2 ^ 32 = 4 * (byte.toNat % 16)
  omega

end BridgeDhcp.ClassicBpf
