/-
Numbers written by their digits, the most significant first.

The text of a number is that of its quotient by the base, followed by the remainder.
In decimal, of the texts without a leading zero there is exactly one for each positive
number.
-/

import Mathlib.Data.Nat.Digits.Lemmas

set_option autoImplicit false

namespace BridgeDhcp.PositionalText

/-! ### Positional notation -/

section Positional

variable {Glyph : Type} {base : Nat} (glyph : Nat → Glyph)

/-- The digits of a number in a base, each as its glyph; none for zero. -/
def positional (base : Nat) (number : Nat) : List Glyph :=
  ((Nat.digits base number).map glyph).reverse

theorem positional_zero : positional glyph base 0 = [] := by
  rw [positional, Nat.digits_zero]
  rfl

theorem positional_of_pos (large : 1 < base) {number : Nat} (positive : 0 < number) :
    positional glyph base number =
      positional glyph base (number / base) ++ [glyph (number % base)] := by
  unfold positional
  rw [Nat.digits_def' large positive, List.map_cons, List.reverse_cons]

theorem length_positional_le_iff (large : 1 < base) (width number : Nat) :
    (positional glyph base number).length ≤ width ↔ number < base ^ width := by
  rw [positional, List.length_reverse, List.length_map]
  exact Nat.digits_length_le_iff large number

end Positional

/-! ### Decimal digits and their values -/

def decimalDigits : List Char := ['0', '1', '2', '3', '4', '5', '6', '7', '8', '9']

def digitValue (digit : Char) : Nat := digit.toNat - 48

def decimalValue (text : List Char) : Nat :=
  text.foldl (fun value digit => value * 10 + digitValue digit) 0

def decimal (number : Nat) : List Char := positional Nat.digitChar 10 number

theorem digitValue_of_mem : ∀ digit ∈ decimalDigits,
    digitValue digit < 10 ∧ Nat.digitChar (digitValue digit) = digit := by
  have table : decimalDigits.all (fun digit =>
      decide (digitValue digit < 10 ∧ Nat.digitChar (digitValue digit) = digit)) = true := by
    decide
  intro digit listed
  exact of_decide_eq_true (List.all_eq_true.mp table digit listed)

theorem digitChar_of_lt : ∀ value < 10,
    Nat.digitChar value ∈ decimalDigits ∧ digitValue (Nat.digitChar value) = value ∧
      (Nat.digitChar value = '0' → value = 0) := by
  decide

theorem decimalValue_append (front : List Char) (digit : Char) :
    decimalValue (front ++ [digit]) = decimalValue front * 10 + digitValue digit := by
  unfold decimalValue
  rw [List.foldl_append]
  rfl

@[simp] theorem decimal_zero : decimal 0 = [] := positional_zero Nat.digitChar

theorem decimal_of_pos {number : Nat} (positive : 0 < number) :
    decimal number = decimal (number / 10) ++ [Nat.digitChar (number % 10)] :=
  positional_of_pos Nat.digitChar (by decide) positive

theorem decimal_ne_nil {number : Nat} (positive : 0 < number) : decimal number ≠ [] := by
  rw [decimal_of_pos positive]
  exact List.append_ne_nil_of_right_ne_nil _ (List.cons_ne_nil _ _)

/-! ### The decimal text of a number -/

/-- The text consists of digits, has no leading zero and stands for the number. -/
structure IsDecimal (text : List Char) (number : Nat) : Prop where
  digits : ∀ digit ∈ text, digit ∈ decimalDigits
  nonempty : text ≠ []
  leading : text.head? = some '0' → text = ['0']
  value : decimalValue text = number

theorem decimalValue_decimal (number : Nat) : decimalValue (decimal number) = number := by
  induction number using Nat.strong_induction_on with
  | _ number ih =>
      rcases Nat.eq_zero_or_pos number with zero | positive
      · rw [zero, decimal_zero]
        rfl
      · rw [decimal_of_pos positive, decimalValue_append, ih (number / 10) (by omega),
          (digitChar_of_lt (number % 10) (by omega)).2.1]
        omega

theorem decimal_digits (number : Nat) : ∀ digit ∈ decimal number, digit ∈ decimalDigits := by
  intro digit member
  obtain ⟨value, listed, written⟩ := List.mem_map.mp (List.mem_reverse.mp member)
  rw [← written]
  exact (digitChar_of_lt value (Nat.digits_lt_base (by decide) listed)).1

theorem head_decimal_ne_zero {number : Nat} (positive : 0 < number) :
    (decimal number).head? ≠ some '0' := by
  induction number using Nat.strong_induction_on with
  | _ number ih =>
      rw [decimal_of_pos positive]
      rcases Nat.eq_zero_or_pos (number / 10) with single | more
      · rw [single, decimal_zero, List.nil_append, List.head?_cons]
        intro zero
        have remainder := (digitChar_of_lt (number % 10) (by omega)).2.2 (Option.some.inj zero)
        omega
      · rw [List.head?_append_of_ne_nil _ (decimal_ne_nil more)]
        exact ih (number / 10) (by omega) more

theorem isDecimal_decimal {number : Nat} (positive : 0 < number) :
    IsDecimal (decimal number) number where
  digits := decimal_digits number
  nonempty := decimal_ne_nil positive
  leading := fun zero => absurd zero (head_decimal_ne_zero positive)
  value := decimalValue_decimal number

theorem decimal_decimalValue (text : List Char) (digits : ∀ digit ∈ text, digit ∈ decimalDigits)
    (leading : text.head? ≠ some '0') : decimal (decimalValue text) = text := by
  induction text using List.reverseRecOn with
  | nil => exact decimal_zero
  | append_singleton front last ih =>
      obtain ⟨small, written⟩ :=
        digitValue_of_mem last (digits last (List.mem_append_right front List.mem_cons_self))
      have front_eq : decimal (decimalValue front) = front := by
        apply ih
        · intro digit member
          exact digits digit (List.mem_append_left [last] member)
        · intro zero
          apply leading
          rw [List.head?_append, zero]
          rfl
      have positive : 0 < decimalValue front * 10 + digitValue last := by
        by_contra zero
        have frontZero : decimalValue front = 0 := by omega
        have lastZero : digitValue last = 0 := by omega
        rw [frontZero, decimal_zero] at front_eq
        rw [lastZero] at written
        rw [← front_eq, ← written] at leading
        exact leading rfl
      have tenth : (decimalValue front * 10 + digitValue last) / 10 = decimalValue front := by
        omega
      have remainder : (decimalValue front * 10 + digitValue last) % 10 = digitValue last := by
        omega
      rw [decimalValue_append, decimal_of_pos positive, tenth, remainder, front_eq, written]

theorem IsDecimal.eq_decimal {text : List Char} {number : Nat} (positive : 0 < number)
    (isDecimal : IsDecimal text number) : text = decimal number := by
  rw [← isDecimal.value, decimal_decimalValue text isDecimal.digits]
  intro zero
  have value := isDecimal.value
  rw [isDecimal.leading zero] at value
  change 0 = number at value
  omega

end BridgeDhcp.PositionalText
