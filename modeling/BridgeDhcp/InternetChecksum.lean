/-
One's-complement sums of byte strings.

A byte string is read as big-endian 16-bit words, an odd last byte being padded with a
zero byte.  Words are added with end-around carry.
-/

import Mathlib.Algebra.BigOperators.Group.List.Basic
import Mathlib.Algebra.GroupWithZero.Nat
import Mathlib.Tactic.Common

set_option autoImplicit false

namespace BridgeDhcp.InternetChecksum

/-! ### Words of a byte string -/

def word (high low : UInt8) : Nat := high.toNat * 256 + low.toNat

def words : List UInt8 → List Nat
  | high :: low :: rest => word high low :: words rest
  | [high] => [word high 0]
  | [] => []

def wordSum (bytes : List UInt8) : Nat := (words bytes).sum

theorem word_lt (high low : UInt8) : word high low < 65536 := by
  have highBound := high.toNat_lt
  have lowBound := low.toNat_lt
  unfold word
  omega

@[simp] theorem wordSum_nil : wordSum [] = 0 := rfl

@[simp] theorem wordSum_singleton (high : UInt8) : wordSum [high] = word high 0 := by
  simp [wordSum, words]

@[simp] theorem wordSum_cons_cons (high low : UInt8) (rest : List UInt8) :
    wordSum (high :: low :: rest) = word high low + wordSum rest := by
  simp [wordSum, words]

theorem wordSum_append (left right : List UInt8) (even : left.length % 2 = 0) :
    wordSum (left ++ right) = wordSum left + wordSum right := by
  induction left using words.induct with
  | case1 high low rest ih =>
      have restEven : rest.length % 2 = 0 := by
        simp only [List.length_cons] at even
        omega
      simp [ih restEven, Nat.add_assoc]
  | case2 high =>
      simp at even
  | case3 =>
      simp

theorem wordSum_zeros (bytes : List UInt8) (zeros : ∀ byte ∈ bytes, byte = 0) :
    wordSum bytes = 0 := by
  induction bytes using words.induct with
  | case1 high low rest ih =>
      have restZeros : ∀ byte ∈ rest, byte = 0 := by
        intro byte listed
        exact zeros byte (by simp [listed])
      simp [ih restZeros, zeros high (by simp), zeros low (by simp), word]
  | case2 high =>
      simp [zeros high (by simp), word]
  | case3 =>
      rfl

theorem mem_words_lt {bytes : List UInt8} {value : Nat} (listed : value ∈ words bytes) :
    value < 65536 := by
  induction bytes using words.induct with
  | case1 high low rest ih =>
      simp only [words, List.mem_cons] at listed
      rcases listed with rfl | listed
      · exact word_lt high low
      · exact ih listed
  | case2 high =>
      simp only [words, List.mem_singleton] at listed
      rw [listed]
      exact word_lt high 0
  | case3 =>
      simp [words] at listed

theorem wordSum_le (bytes : List UInt8) :
    wordSum bytes ≤ (bytes.length + 1) / 2 * 65535 := by
  induction bytes using words.induct with
  | case1 high low rest ih =>
      have bound := word_lt high low
      simp only [wordSum_cons_cons, List.length_cons]
      omega
  | case2 high =>
      have bound := word_lt high 0
      simp only [wordSum_singleton, List.length_singleton]
      omega
  | case3 =>
      simp

/-! ### End-around carry -/

/-- Adds two words; a carry out of the sixteenth bit is added back. -/
def addCarry (left right : Nat) : Nat :=
  (left + right) % 65536 + (left + right) / 65536

def onesSum (bytes : List UInt8) : Nat := (words bytes).foldl addCarry 0

/-- The word that represents a number modulo 65535, zero standing only for zero. -/
def endAround (number : Nat) : Nat :=
  if number = 0 then 0 else (number - 1) % 65535 + 1

theorem endAround_le (number : Nat) : endAround number ≤ 65535 := by
  unfold endAround
  split <;> omega

theorem endAround_of_le {number : Nat} (small : number ≤ 65535) : endAround number = number := by
  unfold endAround
  split <;> omega

theorem endAround_fold (number : Nat) :
    endAround (number % 65536 + number / 65536) = endAround number := by
  unfold endAround
  split <;> split <;> omega

theorem addCarry_endAround (number value : Nat) (isWord : value < 65536) :
    addCarry (endAround number) value = endAround (number + value) := by
  unfold addCarry endAround
  split <;> split <;> omega

theorem foldl_addCarry (values : List Nat) (number : Nat)
    (areWords : ∀ value ∈ values, value < 65536) :
    values.foldl addCarry (endAround number) = endAround (number + values.sum) := by
  induction values generalizing number with
  | nil =>
      simp
  | cons value rest ih =>
      have isWord : value < 65536 := areWords value (by simp)
      have restWords : ∀ other ∈ rest, other < 65536 := by
        intro other listed
        exact areWords other (by simp [listed])
      rw [List.foldl_cons, addCarry_endAround number value isWord, ih _ restWords,
        List.sum_cons, Nat.add_assoc]

theorem onesSum_eq (bytes : List UInt8) : onesSum bytes = endAround (wordSum bytes) := by
  have folded := foldl_addCarry (words bytes) 0 (fun _ listed => mem_words_lt listed)
  rw [endAround_of_le (Nat.zero_le _), Nat.zero_add] at folded
  exact folded

theorem endAround_add_complement (number : Nat) :
    endAround (number + (65535 - endAround number)) = 65535 := by
  unfold endAround
  split <;> split <;> omega

theorem endAround_add_ones {number : Nat} (full : endAround number = 65535) :
    endAround (number + 65535) = 65535 := by
  unfold endAround at full ⊢
  split at full <;> split <;> omega

end BridgeDhcp.InternetChecksum
