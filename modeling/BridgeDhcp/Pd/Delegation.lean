/-
What the prefix-delegation client takes from a REPLY: the chosen prefix, how long
it is valid, and the renewal times that follow from it.
-/

import BridgeDhcp.Packet.Dhcp6Message
import Mathlib.Tactic.Linarith

set_option autoImplicit false

namespace BridgeDhcp.Pd

open Netip GoTime Packet

/-! ### Bindings and their times -/

structure Binding where
  net : Prefix
  boundAt : Instant
  expiresAt : Instant
  deriving DecidableEq, Repr

namespace Binding

def window (binding : Binding) : Duration := sub binding.expiresAt binding.boundAt

def t1At (binding : Binding) : Instant := binding.boundAt + Int.tdiv binding.window 2

def t2At (binding : Binding) : Instant :=
  binding.boundAt + Int.tdiv (wrap64 (binding.window * 4)) 5

/-- The instant lies before the middle of the binding's lifetime, in exact
arithmetic and without the limits of a duration. -/
def FirstHalf (binding : Binding) (instant : Instant) : Prop :=
  2 * (instant - binding.boundAt) < binding.expiresAt - binding.boundAt

instance (binding : Binding) (instant : Instant) : Decidable (binding.FirstHalf instant) :=
  inferInstanceAs (Decidable (2 * (instant - binding.boundAt) < _))

def FromWire (binding : Binding) : Prop :=
  ∃ seconds : UInt32, binding.expiresAt = binding.boundAt + seconds.toNat * second

theorem FirstHalf.earlier {binding : Binding} {instant before : Instant}
    (half : binding.FirstHalf instant) (ordered : before ≤ instant) :
    binding.FirstHalf before := by
  unfold FirstHalf at half ⊢
  linarith

section Seconds

variable {binding : Binding} {seconds : UInt32}

theorem window_of_seconds (expires : binding.expiresAt = binding.boundAt + seconds.toNat * second) :
    binding.window = (seconds.toNat : Int) * 1000000000 := by
  have bound : seconds.toNat < 4294967296 := seconds.toNat_lt
  have high : (seconds.toNat : Int) * 1000000000 ≤ 9223372036854775807 := by omega
  have low : (-9223372036854775808 : Int) ≤ (seconds.toNat : Int) * 1000000000 := by omega
  have lifetime : binding.expiresAt - binding.boundAt = (seconds.toNat : Int) * 1000000000 := by
    rw [expires, add_sub_cancel_left]
    rfl
  unfold Binding.window sub maxDuration minDuration
  rw [lifetime, min_eq_right high, max_eq_right low]

theorem t1At_of_seconds (expires : binding.expiresAt = binding.boundAt + seconds.toNat * second) :
    binding.t1At = binding.boundAt + (seconds.toNat : Int) * 500000000 := by
  have middle : Int.tdiv ((seconds.toNat : Int) * 1000000000) 2 = seconds.toNat * 500000000 := by
    rw [Int.tdiv_eq_ediv_of_nonneg (by omega)]
    omega
  unfold t1At
  rw [window_of_seconds expires, middle]

end Seconds

theorem FromWire.firstHalf_iff {binding : Binding} (wire : binding.FromWire) (instant : Instant) :
    binding.FirstHalf instant ↔ instant < binding.t1At := by
  obtain ⟨seconds, expires⟩ := wire
  have lifetime : binding.expiresAt - binding.boundAt = (seconds.toNat : Int) * 1000000000 := by
    rw [expires, add_sub_cancel_left]
    rfl
  unfold FirstHalf
  rw [lifetime, t1At_of_seconds expires]
  constructor
  · intro half
    linarith
  · intro before
    linarith

end Binding

/-! ### The prefix of a REPLY -/

def prefixLen (delegated : IAPrefix) : Nat :=
  match delegated.net with
  | none => 129
  | some net => maskOnes net.mask

def considerPrefix (best : Option IAPrefix) (delegated : IAPrefix) : Option IAPrefix :=
  if delegated.validLifetime ≤ 0 ∨ delegated.net = none then best
  else
    match best with
    | none => some delegated
    | some held => if prefixLen delegated < prefixLen held then some delegated else some held

def bestPrefix (delegated : List IAPrefix) : Option IAPrefix :=
  delegated.foldl considerPrefix none

/-- The prefix that `applyReply` records and its lifetime; none if the reply is
not usable. -/
def usablePrefix (reply : Answer6) : Option (Prefix × Duration) := do
  let iapd ← reply.iapd
  if iapd.status = none ∨ iapd.status = some 0 then
    let best ← bestPrefix iapd.prefixes
    let net ← best.net
    let chosen ← net.toPrefix
    return (chosen, best.validLifetime)
  else none

theorem usablePrefix_lifetime {reply : Answer6} {chosen : Prefix} {lifetime : Duration}
    (usable : usablePrefix reply = some (chosen, lifetime)) :
    ∃ seconds : UInt32, lifetime = seconds.toNat * second := by
  unfold usablePrefix at usable
  obtain ⟨iapd, _, rest⟩ := Option.bind_eq_some_iff.mp usable
  split at rest
  · obtain ⟨best, _, afterBest⟩ := Option.bind_eq_some_iff.mp rest
    obtain ⟨net, _, afterNet⟩ := Option.bind_eq_some_iff.mp afterBest
    obtain ⟨_, _, result⟩ := Option.bind_eq_some_iff.mp afterNet
    have same := (Prod.mk.inj (Option.some.inj result)).2
    exact ⟨best.validSeconds, same.symm⟩
  · cases rest

end BridgeDhcp.Pd
