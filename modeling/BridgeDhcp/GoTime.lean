/-
Instants and durations of Go's time package.

An instant is a number of nanoseconds on a line without bounds.  A duration is
a signed 64-bit number of nanoseconds: its arithmetic wraps, its division
truncates, and the difference of two instants saturates.
-/

import Mathlib.Algebra.Group.Nat.Defs
import Mathlib.Data.Int.Order.Basic
import Mathlib.Tactic.Common

set_option autoImplicit false

namespace BridgeDhcp.GoTime

abbrev Instant := Int
abbrev Duration := Int

def second : Duration := 1000000000
def minute : Duration := 60 * second

def maxDuration : Int := 9223372036854775807
def minDuration : Int := -9223372036854775808

def wrap64 (value : Int) : Duration := Int.bmod value (2 ^ 64)

/-- `time.Time.Sub`: the closest representable duration. -/
def sub (later earlier : Instant) : Duration :=
  max minDuration (min maxDuration (later - earlier))

/-! ### Wrapping -/

theorem wrap64_turns (value : Int) :
    ∃ turns rest : Int, wrap64 value = rest ∧ value = rest + turns * 18446744073709551616 ∧
      minDuration ≤ rest ∧ rest ≤ maxDuration := by
  have low := @Int.le_bmod value (2 ^ 64) (by decide)
  have high := @Int.bmod_lt value (2 ^ 64) (by decide)
  have whole := Int.bmod_add_bdiv value (2 ^ 64)
  unfold minDuration maxDuration
  refine ⟨value.bdiv (2 ^ 64), value.bmod (2 ^ 64), rfl, ?_, ?_, ?_⟩
  · omega
  · omega
  · omega

theorem wrap64_of_fits {value : Int} (low : minDuration ≤ value) (high : value ≤ maxDuration) :
    wrap64 value = value := by
  obtain ⟨turns, rest, wrapped, exactly, atLeast, atMost⟩ := wrap64_turns value
  unfold minDuration at low atLeast
  unfold maxDuration at high atMost
  have same : rest = value := by omega
  exact wrapped.trans same

theorem tdiv_of_nonpos {value : Int} (divisor : Int) (nonpos : value ≤ 0) :
    Int.tdiv value divisor = -(-value / divisor) := by
  have divided : Int.tdiv (-value) divisor = -value / divisor :=
    Int.tdiv_eq_ediv_of_nonneg (by omega)
  rw [← divided, Int.neg_tdiv, Int.neg_neg]

end BridgeDhcp.GoTime
