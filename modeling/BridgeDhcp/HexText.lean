/-
Bytes written as pairs of hexadecimal digits.

A scanner for such a text passes over white space, reads pairs up to the first
character that is no digit, and says nothing of what follows.  A digit without a
second one is an error.
-/

import BridgeDhcp.GoText
import Mathlib.Data.String.Basic
import Mathlib.Tactic.Common

set_option autoImplicit false

namespace BridgeDhcp.HexText

open GoText

/-! ### Digits -/

def digitTable : List (Char × Nat) :=
  [('0', 0), ('1', 1), ('2', 2), ('3', 3), ('4', 4), ('5', 5), ('6', 6), ('7', 7), ('8', 8),
    ('9', 9), ('a', 10), ('b', 11), ('c', 12), ('d', 13), ('e', 14), ('f', 15), ('A', 10),
    ('B', 11), ('C', 12), ('D', 13), ('E', 14), ('F', 15)]

def hexValue (digit : Char) : Option Nat :=
  (digitTable.find? (fun entry => entry.1 == digit)).map Prod.snd

def isHex (digit : Char) : Bool := (hexValue digit).isSome

structure IsDigit (digit : Char) (value : Nat) : Prop where
  small : value < 16
  written : Nat.digitChar value = digit.toLower
  ascii : digit.utf8Size = 1

theorem digitTable_digits : ∀ entry ∈ digitTable,
    entry.2 < 16 ∧ Nat.digitChar entry.2 = entry.1.toLower ∧ entry.1.utf8Size = 1 := by
  decide

theorem isDigit_of_hexValue {digit : Char} {value : Nat} (found : hexValue digit = some value) :
    IsDigit digit value := by
  obtain ⟨entry, listed, rfl⟩ := Option.map_eq_some_iff.mp found
  have same : (entry.1 == digit) = true :=
    @List.find?_some _ (fun other : Char × Nat => other.1 == digit) _ _ listed
  obtain ⟨small, written, ascii⟩ := digitTable_digits entry (List.mem_of_find?_eq_some listed)
  rw [beq_iff_eq.mp same] at written ascii
  exact ⟨small, written, ascii⟩

theorem utf8Len_of_hex {text : List Char} (digits : ∀ digit ∈ text, isHex digit = true) :
    String.utf8Len text = text.length := by
  induction text with
  | nil => rfl
  | cons digit rest ih =>
      obtain ⟨value, found⟩ := Option.isSome_iff_exists.mp (digits digit List.mem_cons_self)
      rw [String.utf8Len_cons, (isDigit_of_hexValue found).ascii, List.length_cons,
        ih (fun later member => digits later (List.mem_cons_of_mem digit member))]

/-! ### Pairs -/

def pairOf (byte : UInt8) : List Char :=
  [Nat.digitChar (byte.toNat / 16), Nat.digitChar (byte.toNat % 16)]

theorem pairOf_ofNat {high low : Char} {upper lower : Nat} (first : IsDigit high upper)
    (second : IsDigit low lower) :
    pairOf (UInt8.ofNat (upper * 16 + lower)) = [high.toLower, low.toLower] := by
  have smallFirst := first.small
  have smallSecond := second.small
  have byte : (UInt8.ofNat (upper * 16 + lower)).toNat = upper * 16 + lower := by
    rw [UInt8.toNat_ofNat']
    omega
  have high : (upper * 16 + lower) / 16 = upper := by omega
  have low : (upper * 16 + lower) % 16 = lower := by omega
  unfold pairOf
  rw [byte, high, low, first.written, second.written]

/-- `hexByte` until it finds no digit; none is the error of a digit without a second. -/
def hexBytes : List Char → Option (List UInt8)
  | [] => some []
  | [high] => if isHex high then none else some []
  | high :: low :: rest =>
      match hexValue high, hexValue low with
      | none, _ => some []
      | some _, none => none
      | some upper, some lower =>
          (hexBytes rest).map (UInt8.ofNat (upper * 16 + lower) :: ·)

/-- The digits that a text begins with are read if their number is even. -/
theorem hexBytes_spec (text : List Char) :
    ((text.takeWhile isHex).length % 2 = 1 ∧ hexBytes text = none) ∨
      ∃ bytes, hexBytes text = some bytes ∧ bytes.length * 2 = (text.takeWhile isHex).length ∧
        bytes.flatMap pairOf = (text.takeWhile isHex).map Char.toLower := by
  induction text using hexBytes.induct with
  | case1 => exact Or.inr ⟨[], rfl, rfl, rfl⟩
  | case2 high digit =>
      left
      rw [List.takeWhile_cons_of_pos digit, hexBytes, if_pos digit]
      exact ⟨rfl, rfl⟩
  | case3 high other =>
      right
      rw [List.takeWhile_cons_of_neg other, hexBytes, if_neg other]
      exact ⟨[], rfl, rfl, rfl⟩
  | case4 high low rest missing =>
      right
      have other : ¬ isHex high = true := by
        unfold isHex
        rw [missing]
        exact Bool.false_ne_true
      rw [List.takeWhile_cons_of_neg other, hexBytes, missing]
      exact ⟨[], rfl, rfl, rfl⟩
  | case5 high low rest upper foundLow foundHigh =>
      left
      have digit : isHex high = true := Option.isSome_of_eq_some foundHigh
      have other : ¬ isHex low = true := by
        unfold isHex
        rw [foundLow]
        exact Bool.false_ne_true
      rw [List.takeWhile_cons_of_pos digit, List.takeWhile_cons_of_neg other, hexBytes, foundHigh,
        foundLow]
      exact ⟨rfl, rfl⟩
  | case6 high low rest upper lower foundLow foundHigh ih =>
      have first : isHex high = true := Option.isSome_of_eq_some foundHigh
      have second : isHex low = true := Option.isSome_of_eq_some foundLow
      have pair := pairOf_ofNat (isDigit_of_hexValue foundHigh) (isDigit_of_hexValue foundLow)
      rw [List.takeWhile_cons_of_pos first, List.takeWhile_cons_of_pos second, hexBytes, foundHigh,
        foundLow]
      simp only [List.length_cons, List.map_cons]
      rcases ih with ⟨odd, failed⟩ | ⟨bytes, read, length, written⟩
      · left
        rw [failed]
        exact ⟨by omega, rfl⟩
      · right
        refine ⟨_, by rw [read]; rfl, ?_, ?_⟩
        · rw [List.length_cons]
          omega
        · rw [List.flatMap_cons, pair, written]
          rfl

/-! ### The scanner -/

/-- `fmt.Sscanf` with `%x` into a slice of bytes. -/
def scanHex (text : String) : Option (List UInt8) :=
  match skipSpace text.toList with
  | none => none
  | some rest =>
      match hexBytes rest with
      | none => none
      | some [] => none
      | some bytes => some bytes

def hexRun (text : String) : List Char := (text.toList.dropWhile isSpace).takeWhile isHex

/-- A line ends in the white space before the digits, or their number is odd or zero. -/
def ScanFails (text : String) : Prop :=
  '\n' ∈ text.toList.takeWhile isSpace ∨ (hexRun text).length % 2 = 1 ∨ hexRun text = []

theorem scanHex_cases (text : String) :
    (ScanFails text ∧ scanHex text = none) ∨
      (¬ ScanFails text ∧ ∃ bytes, scanHex text = some bytes ∧
        bytes.length * 2 = (hexRun text).length ∧
        bytes.flatMap pairOf = (hexRun text).map Char.toLower) := by
  unfold scanHex ScanFails
  rw [skipSpace_eq]
  by_cases newline : '\n' ∈ text.toList.takeWhile isSpace
  · rw [if_pos newline]
    exact Or.inl ⟨Or.inl newline, rfl⟩
  · rw [if_neg newline]
    dsimp only
    rcases hexBytes_spec (text.toList.dropWhile isSpace) with ⟨odd, failed⟩ | ⟨bytes, read, length,
      written⟩
    · rw [failed]
      exact Or.inl ⟨Or.inr (Or.inl odd), rfl⟩
    · rw [read]
      cases bytes with
      | nil =>
          have empty : hexRun text = [] := List.eq_nil_of_length_eq_zero length.symm
          exact Or.inl ⟨Or.inr (Or.inr empty), rfl⟩
      | cons first others =>
          refine Or.inr ⟨?_, _, rfl, length, written⟩
          rw [List.length_cons] at length
          rintro (bad | odd | empty)
          · exact newline bad
          · change (List.takeWhile isHex _).length % 2 = 1 at odd
            omega
          · have zero := congrArg List.length empty
            change (List.takeWhile isHex _).length = 0 at zero
            omega

end BridgeDhcp.HexText
