/-
Results of Go functions that may return an error.

An error is its text.  A caller that returns early hands the error on, often with a
text of its own in front; a result that is not an error then shows that every
earlier step succeeded.
-/

import Mathlib.Tactic.Common

set_option autoImplicit false

namespace BridgeDhcp.GoError

variable {Value Result : Type}

/-- `fmt.Errorf("%s: %w", context, err)` for a failed step. -/
def within (context : String) : Except String Value → Except String Value
  | .ok value => .ok value
  | .error cause => .error s!"{context}: {cause}"

theorem bind_eq_ok {first : Except String Value} {next : Value → Except String Result}
    {result : Result} (succeeded : (first >>= next) = .ok result) :
    ∃ value, first = .ok value ∧ next value = .ok result := by
  cases first with
  | ok value => exact ⟨value, rfl, succeeded⟩
  | error cause => cases succeeded

theorem bind_eq_ok_iff (first : Except String Value) (next : Value → Except String Result)
    (result : Result) :
    (first >>= next) = .ok result ↔ ∃ value, first = .ok value ∧ next value = .ok result := by
  refine ⟨bind_eq_ok, ?_⟩
  rintro ⟨value, done, rest⟩
  rw [done]
  exact rest

theorem bind_isOk_iff (first : Except String Value) (next : Value → Except String Result) :
    (∃ result, (first >>= next) = .ok result) ↔
      ∃ value, first = .ok value ∧ ∃ result, next value = .ok result := by
  constructor
  · rintro ⟨result, succeeded⟩
    obtain ⟨value, done, rest⟩ := bind_eq_ok succeeded
    exact ⟨value, done, result, rest⟩
  · rintro ⟨value, done, rest⟩
    rw [done]
    exact rest

theorem within_eq_ok {context : String} {step : Except String Value} {value : Value}
    (succeeded : within context step = .ok value) : step = .ok value := by
  cases step with
  | ok result => exact succeeded
  | error cause => cases succeeded

theorem within_bind_eq_ok_iff (context : String) (step : Except String Value)
    (next : Value → Except String Result) (result : Result) :
    (within context step >>= next) = .ok result ↔ (step >>= next) = .ok result := by
  cases step with
  | ok value => exact Iff.rfl
  | error cause => exact iff_of_false nofun nofun

theorem ite_error_eq_ok_iff (refused : Prop) [Decidable refused] (cause : String)
    (next : Except String Result) (result : Result) :
    (if refused then .error cause else next) = .ok result ↔ ¬ refused ∧ next = .ok result := by
  by_cases fails : refused
  · rw [if_pos fails]
    exact iff_of_false nofun (fun both => both.1 fails)
  · rw [if_neg fails, and_iff_right fails]

end BridgeDhcp.GoError
