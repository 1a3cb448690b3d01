/-
What `currentPrefixes` reports over a sequence of calls.

The server remembers the prefixes of the previous call and a count for each withdrawn
one.  Both are determined by the call at which the prefix was last live: three calls
after it nothing is left.
-/

import BridgeDhcp.Server.RouterAdvert

set_option autoImplicit false

namespace BridgeDhcp.Server

open Netip GoMap

/-- What `v6all` returned to one call, and the orders of the call's loops. -/
structure PrefixCall where
  served : List Prefix
  orders : PrefixOrders

def serverAfter (cfg : RAConfig) (calls : Nat → PrefixCall) : Nat → RAServer
  | 0 => newRAServer cfg
  | count + 1 =>
      (currentPrefixes (calls count).orders (calls count).served (serverAfter cfg calls count)).1

def reportedAt (cfg : RAConfig) (calls : Nat → PrefixCall) (call : Nat) : Map Prefix Bool :=
  (currentPrefixes (calls call).orders (calls call).served (serverAfter cfg calls call)).2

/-- The last of the calls before `call` at which the prefix was live. -/
structure LastLive (calls : Nat → PrefixCall) (net : Prefix) (last call : Nat) : Prop where
  before : last < call
  live : Live (calls last).served net
  gone : ∀ later, last < later → later < call → ¬ Live (calls later).served net

section Calls

variable {cfg : RAConfig} {calls : Nat → PrefixCall} {net : Prefix}

theorem LastLive.unique {first second call : Nat} (one : LastLive calls net first call)
    (other : LastLive calls net second call) : first = second := by
  by_contra different
  rcases Nat.lt_or_gt_of_ne different with less | greater
  · exact one.gone second less other.before other.live
  · exact other.gone first greater one.before one.live

theorem LastLive.next {last call : Nat} (before : LastLive calls net last call)
    (now : ¬ Live (calls call).served net) : LastLive calls net last (call + 1) := by
  refine ⟨Nat.lt_succ_of_lt before.before, before.live, ?_⟩
  intro later after until_
  rcases Nat.lt_succ_iff_lt_or_eq.mp until_ with earlier | same
  · exact before.gone later after earlier
  · rw [same]
    exact now

theorem LastLive.previous {last call : Nat} (next : LastLive calls net last (call + 1))
    (now : ¬ Live (calls call).served net) : LastLive calls net last call := by
  have different : last ≠ call := by
    intro same
    rw [same] at next
    exact now next.live
  have before := next.before
  exact ⟨by omega, next.live, fun later after until_ => next.gone later after (by omega)⟩

theorem mem_serverAfter_last (call : Nat) :
    net ∈ (serverAfter cfg calls call).last ↔
      ∃ previous, previous + 1 = call ∧ Live (calls previous).served net := by
  cases call with
  | zero => simp [serverAfter, newRAServer]
  | succ previous =>
      rw [serverAfter, mem_currentPrefixes_last]
      constructor
      · intro live
        exact ⟨previous, rfl, live⟩
      · rintro ⟨other, same, live⟩
        cases same
        exact live

theorem awaiting_serverAfter {call : Nat}
    (counts : ∀ left, (serverAfter cfg calls call).deprecating.lookup net = some left ↔
      ∃ last, LastLive calls net last call ∧ last + 2 ≤ call ∧ left + call = last + 4 ∧ 1 ≤ left)
    (left : Nat) :
    awaiting (serverAfter cfg calls call) net = some left ↔
      ∃ last, LastLive calls net last call ∧ left + call = last + 4 ∧ 1 ≤ left := by
  unfold awaiting
  by_cases remembered : net ∈ (serverAfter cfg calls call).last
  · obtain ⟨previous, next, live⟩ := (mem_serverAfter_last call).mp remembered
    have isLast : LastLive calls net previous call :=
      ⟨by omega, live, fun later after until_ => by omega⟩
    have uncounted : (serverAfter cfg calls call).deprecating.lookup net = none := by
      cases found : (serverAfter cfg calls call).deprecating.lookup net with
      | none => rfl
      | some count =>
          obtain ⟨last, other, long, _⟩ := (counts count).mp found
          have same := isLast.unique other
          omega
    rw [if_pos remembered, uncounted]
    constructor
    · intro full
      have three : 3 = left := Option.some.inj full
      exact ⟨previous, isLast, by omega, by omega⟩
    · rintro ⟨last, other, sum, _⟩
      have same := isLast.unique other
      have three : left = 3 := by omega
      rw [three]
      rfl
  · rw [if_neg remembered, counts]
    constructor
    · rintro ⟨last, isLast, _, sum, positive⟩
      exact ⟨last, isLast, sum, positive⟩
    · rintro ⟨last, isLast, sum, positive⟩
      have notPrevious : last + 1 ≠ call := by
        intro same
        exact remembered ((mem_serverAfter_last call).mpr ⟨last, same, isLast.live⟩)
      have before := isLast.before
      exact ⟨last, isLast, by omega, sum, positive⟩

theorem serverAfter_deprecating (call left : Nat) :
    (serverAfter cfg calls call).deprecating.lookup net = some left ↔
      ∃ last, LastLive calls net last call ∧ last + 2 ≤ call ∧ left + call = last + 4 ∧
        1 ≤ left := by
  induction call generalizing left with
  | zero =>
      simp only [serverAfter, newRAServer, AList.lookup_empty]
      constructor
      · intro impossible
        cases impossible
      · rintro ⟨last, isLast, _⟩
        exact absurd isLast.before (Nat.not_lt_zero last)
  | succ call ih =>
      have queued := awaiting_serverAfter ih
      rw [serverAfter, currentPrefixes_deprecate]
      by_cases live : Live (calls call).served net
      · rw [if_pos live]
        constructor
        · intro impossible
          cases impossible
        · rintro ⟨last, isLast, long, _⟩
          exact absurd live (isLast.gone call (by omega) (by omega))
      · rw [if_neg live, Option.bind_eq_some_iff]
        constructor
        · rintro ⟨count, counted, rest⟩
          obtain ⟨last, isLast, sum, _⟩ := (queued count).mp counted
          have before := isLast.before
          by_cases done : count ≤ 1
          · rw [if_pos done] at rest
            cases rest
          · rw [if_neg done] at rest
            have less : count - 1 = left := Option.some.inj rest
            exact ⟨last, isLast.next live, by omega, by omega, by omega⟩
        · rintro ⟨last, isLast, long, sum, positive⟩
          refine ⟨left + 1, (queued (left + 1)).mpr ⟨last, isLast.previous live, by omega, by omega⟩, ?_⟩
          rw [if_neg (by omega), Nat.add_sub_cancel]

theorem reportedAt_alive_iff (call : Nat) :
    (reportedAt cfg calls call).lookup net = some true ↔ Live (calls call).served net := by
  unfold reportedAt
  rw [currentPrefixes_reports]
  by_cases live : Live (calls call).served net
  · simp [live]
  · simp [live]

theorem reportedAt_deprecated_iff (call : Nat) :
    (reportedAt cfg calls call).lookup net = some false ↔
      ¬ Live (calls call).served net ∧ ∃ last, LastLive calls net last call ∧ call ≤ last + 3 := by
  unfold reportedAt
  rw [currentPrefixes_reports]
  by_cases live : Live (calls call).served net
  · simp [live]
  · rw [if_neg live, Option.map_eq_some_iff]
    have queued : ∀ left, awaiting (serverAfter cfg calls call) net = some left ↔
        ∃ last, LastLive calls net last call ∧ left + call = last + 4 ∧ 1 ≤ left :=
      awaiting_serverAfter (serverAfter_deprecating call)
    constructor
    · rintro ⟨count, counted, _⟩
      obtain ⟨last, isLast, sum, _⟩ := (queued count).mp counted
      exact ⟨live, last, isLast, by omega⟩
    · rintro ⟨_, last, isLast, near⟩
      exact ⟨last + 4 - call, (queued _).mpr ⟨last, isLast, by omega, by omega⟩, rfl⟩

theorem reportedAt_of_withdrawn {last call : Nat} (isLast : LastLive calls net last call)
    (now : ¬ Live (calls call).served net) :
    (reportedAt cfg calls call).lookup net = if call ≤ last + 3 then some false else none := by
  by_cases near : call ≤ last + 3
  · rw [if_pos near]
    exact (reportedAt_deprecated_iff call).mpr ⟨now, last, isLast, near⟩
  · rw [if_neg near]
    cases found : (reportedAt cfg calls call).lookup net with
    | none => rfl
    | some alive =>
        cases alive with
        | true => exact absurd ((reportedAt_alive_iff call).mp found) now
        | false =>
            obtain ⟨_, other, otherLast, close⟩ := (reportedAt_deprecated_iff call).mp found
            have same := isLast.unique otherLast
            omega

end Calls

/-! ### Every sequence of calls -/

/-- Live prefixes are reported alive; a withdrawn one is reported deprecated in the
next three calls, with the full count after each return; nothing else is. -/
theorem deprecation_countdown (cfg : RAConfig) (calls : Nat → PrefixCall) (net : Prefix) :
    (∀ call, (reportedAt cfg calls call).lookup net = some true ↔ Live (calls call).served net) ∧
    (∀ k m, Live (calls k).served net →
      (∀ call, k < call → call ≤ k + m → ¬ Live (calls call).served net) →
      ∀ call, k < call → call ≤ k + m →
        (reportedAt cfg calls call).lookup net =
          if call ≤ k + min m deprecateResends then some false else none) ∧
    (∀ back, Live (calls back).served net →
      (reportedAt cfg calls back).lookup net = some true ∧
      ∀ call, back < call → call ≤ back + deprecateResends →
        (∀ later, back < later → later ≤ call → ¬ Live (calls later).served net) →
        (reportedAt cfg calls call).lookup net = some false) ∧
    (∀ call, (reportedAt cfg calls call).lookup net = some false →
      ∃ earlier < call, Live (calls earlier).served net) := by
  refine ⟨reportedAt_alive_iff, ?_, ?_, ?_⟩
  · intro k m live gone call after until_
    have isLast : LastLive calls net k call :=
      ⟨after, live, fun later begun ended => gone later begun (by omega)⟩
    rw [reportedAt_of_withdrawn isLast (gone call after until_)]
    have bounds : call ≤ k + 3 ↔ call ≤ k + min m deprecateResends := by
      unfold deprecateResends
      omega
    simp only [bounds]
  · intro back live
    refine ⟨(reportedAt_alive_iff back).mpr live, ?_⟩
    intro call after until_ gone
    have isLast : LastLive calls net back call :=
      ⟨after, live, fun later begun ended => gone later begun (by omega)⟩
    exact (reportedAt_deprecated_iff call).mpr ⟨gone call after (by omega), back, isLast, until_⟩
  · intro call reported
    obtain ⟨_, last, isLast, _⟩ := (reportedAt_deprecated_iff call).mp reported
    exact ⟨last, isLast.before, isLast.live⟩

end BridgeDhcp.Server
