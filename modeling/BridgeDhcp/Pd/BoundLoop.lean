/-
How `boundLoop` renews a delegation and how it ends.

From T1 on each turn asks for more time, by RENEW until T2 and by REBIND after it.
Both times are computed from the lifetime with 64-bit nanoseconds, and four times a
long lifetime does not fit.  A turn learns nothing of why an exchange brought no
answer, and every way out of the loop returns true.
-/

import BridgeDhcp.InteractionRefinement
import BridgeDhcp.Pd.TurnRules

set_option autoImplicit false

namespace BridgeDhcp.Pd

open Netip GoTime Packet Interaction

/-! ### The turn from T1 on -/

def renewal (cfg : Config) (fuel : Nat) (binding : Binding) (state : ClientState)
    (messageType : MessageType6) (server : Option Duid) : Routine (Option Bool) := do
  perform (.setState state)
  perform .markStart
  if ← exchangeAndApply cfg fuel messageType server then pure none
  else if binding.expiresAt < (← perform (.now .bound)) then
    dropPrefix
    pure (some true)
  else pure none

section Turn

variable (cfg : Config) (fuel : Nat) {binding : Binding} {now : Instant}

theorem afterT1_renews {server : Duid} (unexpired : ¬ binding.expiresAt < now)
    (early : ¬ binding.t2At < now) :
    afterT1 cfg fuel binding (some server) now =
      renewal cfg fuel binding .renewing .renew (some server) := by
  have renews : ¬ (binding.t2At < now ∨ some server = none) := by
    rintro (late | missing)
    · exact early late
    · cases missing
  unfold afterT1
  rw [if_neg unexpired]
  dsimp only
  rw [if_neg renews, if_neg renews, if_neg renews]
  rfl

theorem afterT1_rebinds {server : Option Duid} (unexpired : ¬ binding.expiresAt < now)
    (rebinds : binding.t2At < now ∨ server = none) :
    afterT1 cfg fuel binding server now = renewal cfg fuel binding .rebinding .rebind none := by
  unfold afterT1
  rw [if_neg unexpired]
  dsimp only
  rw [if_pos rebinds, if_pos rebinds, if_pos rebinds]
  rfl

end Turn

/-! ### The order of the renewal times -/

/-- The renewal times lie in their order within the lifetime, and a turn with a known
server sends RENEW between them and REBIND after the second one. -/
structure Binding.RenewsInOrder (binding : Binding) : Prop where
  begins : binding.boundAt ≤ binding.t1At
  ordered : binding.t1At ≤ binding.t2At
  ends : binding.t2At ≤ binding.expiresAt
  renews : ∀ cfg fuel server now, binding.t1At ≤ now → now < binding.t2At →
    afterT1 cfg fuel binding (some server) now =
      renewal cfg fuel binding .renewing .renew (some server)
  rebinds : ∀ cfg fuel server now, binding.t2At < now → now ≤ binding.expiresAt →
    afterT1 cfg fuel binding server now = renewal cfg fuel binding .rebinding .rebind none

theorem Binding.renewsInOrder_iff (binding : Binding) :
    binding.RenewsInOrder ↔
      binding.boundAt ≤ binding.t1At ∧ binding.t1At ≤ binding.t2At ∧
        binding.t2At ≤ binding.expiresAt := by
  constructor
  · intro order
    exact ⟨order.begins, order.ordered, order.ends⟩
  · intro times
    obtain ⟨begins, ordered, ends⟩ := times
    refine ⟨begins, ordered, ends, ?_, ?_⟩
    · intro cfg fuel server now _ early
      apply afterT1_renews cfg fuel
      · linarith
      · linarith
    · intro cfg fuel server now late unexpired
      exact afterT1_rebinds cfg fuel (not_lt.mpr unexpired) (Or.inl late)

/-- The delegation that `applyReply` records at an instant for a lifetime of whole
seconds. -/
def Binding.granted (net : Prefix) (boundAt : Instant) (seconds : UInt32) : Binding where
  net := net
  boundAt := boundAt
  expiresAt := boundAt + seconds.toNat * second

section Granted

variable (net : Prefix) (boundAt : Instant) {seconds : UInt32}

theorem Binding.t2At_granted (fits : seconds.toNat ≤ 2305843009) :
    (Binding.granted net boundAt seconds).t2At =
      boundAt + (seconds.toNat : Int) * 800000000 := by
  have whole : wrap64 ((seconds.toNat : Int) * 1000000000 * 4) =
      (seconds.toNat : Int) * 1000000000 * 4 := by
    apply wrap64_of_fits
    · unfold minDuration
      omega
    · unfold maxDuration
      omega
  have fourFifths : Int.tdiv ((seconds.toNat : Int) * 1000000000 * 4) 5 =
      seconds.toNat * 800000000 := by
    rw [Int.tdiv_eq_ediv_of_nonneg (by omega)]
    omega
  unfold Binding.t2At
  rw [@Binding.window_of_seconds (granted net boundAt seconds) seconds rfl, whole, fourFifths]
  rfl

theorem Binding.t2At_granted_lt (long : 2305843009 < seconds.toNat) :
    (Binding.granted net boundAt seconds).t2At < boundAt := by
  have bound : seconds.toNat < 4294967296 := seconds.toNat_lt
  obtain ⟨turns, rest, wrapped, exactly, low, high⟩ :=
    wrap64_turns ((seconds.toNat : Int) * 1000000000 * 4)
  unfold minDuration at low
  unfold maxDuration at high
  have negative : Int.tdiv rest 5 < 0 := by
    have turned : 1 ≤ turns := by omega
    have below : rest ≤ -5 := by omega
    rw [tdiv_of_nonpos 5 (by omega)]
    omega
  unfold Binding.t2At
  rw [@Binding.window_of_seconds (granted net boundAt seconds) seconds rfl, wrapped]
  change boundAt + Int.tdiv rest 5 < boundAt
  linarith

/-- For every lifetime from one second to infinity and whenever it begins, the
renewal times are in order exactly if four times the lifetime fits into 63 bits of
nanoseconds. -/
theorem renewal_times_ordered_iff (positive : 0 < seconds.toNat) :
    (Binding.granted net boundAt seconds).RenewsInOrder ↔ seconds.toNat ≤ 2305843009 := by
  have t1At := @Binding.t1At_of_seconds (.granted net boundAt seconds) seconds rfl
  rw [Binding.renewsInOrder_iff, t1At]
  change (boundAt ≤ boundAt + (seconds.toNat : Int) * 500000000 ∧ _ ∧
    _ ≤ boundAt + (seconds.toNat : Int) * 1000000000) ↔ _
  constructor
  · intro times
    obtain ⟨begins, ordered, _⟩ := times
    by_contra long
    have early := Binding.t2At_granted_lt net boundAt (Nat.not_le.mp long)
    exact absurd (begins.trans ordered) (not_le.mpr early)
  · intro fits
    rw [Binding.t2At_granted net boundAt fits]
    change _ ∧ boundAt + (seconds.toNat : Int) * 500000000 ≤ _ ∧ _
    have lasts : (0 : Int) < seconds.toNat := Int.natCast_pos.mpr positive
    refine ⟨?_, ?_, ?_⟩
    · linarith
    · linarith
    · linarith

end Granted

theorem renewal_times_ordered_hour :
    0 < (3600 : UInt32).toNat ∧ (Binding.granted sampleBinding.net 0 3600).RenewsInOrder := by
  refine ⟨by decide, ?_⟩
  exact (renewal_times_ordered_iff sampleBinding.net 0 (by decide)).mpr (by decide)

def sampleForever : Answer6 :=
  { sampleAnswer .reply with
    iapd := some
      { status := none
        prefixes :=
          [{ validSeconds := 0xffffffff
             net := some (IPNet.ofPrefix sampleBinding.net) }] } }

/-- The REPLY is usable.  Its T2 lies before the moment it was received, and from T1
on REBIND is sent although the server is known. -/
theorem infinite_lifetime_never_renews :
    usablePrefix sampleForever = some (sampleBinding.net, 4294967295 * second) ∧
    (Binding.granted sampleBinding.net 0 0xffffffff).t2At = -253374978741910323 ∧
    (Binding.granted sampleBinding.net 0 0xffffffff).t1At = 2147483647500000000 ∧
    afterT1 sampleConfig 1 (.granted sampleBinding.net 0 0xffffffff) (some [0, 1])
        2147483647500000000 =
      renewal sampleConfig 1 (.granted sampleBinding.net 0 0xffffffff) .rebinding .rebind none ∧
    ¬ (Binding.granted sampleBinding.net 0 0xffffffff).RenewsInOrder := by
  have early : (Binding.granted sampleBinding.net 0 0xffffffff).t2At = -253374978741910323 := by
    decide +kernel
  refine ⟨by decide +kernel, early, by decide +kernel, ?_, ?_⟩
  · exact afterT1_rebinds sampleConfig 1 (by decide +kernel) (Or.inl (by decide +kernel))
  · intro order
    have after := order.begins.trans order.ordered
    rw [early] at after
    exact absurd after (by decide)

/-! ### The ways out of the loop -/

/-- The turn is over and the loop goes on, or the loop returns true. -/
def NotFalse (result : Option Bool) : Prop := result ≠ some false

theorem returns_on : Returns NotFalse (pure none : Routine (Option Bool)) :=
  Option.some_ne_none false |>.symm

theorem returns_true : Returns NotFalse (pure (some true) : Routine (Option Bool)) := by
  change some true ≠ some false
  decide

section Exits

variable (cfg : Config) (fuel : Nat)

theorem confirmEarly_returns (binding : Binding) :
    Returns NotFalse (confirmEarly cfg fuel binding) := by
  unfold confirmEarly
  apply Returns.after
  intro current
  split
  · exact returns_on
  · apply Returns.after
    intro now
    split
    · apply Returns.after
      intro ready
      split
      · apply Returns.after
        intro confirmed
        split
        · exact returns_on
        · apply Returns.after
          intro _
          exact returns_true
      · exact returns_on
    · exact returns_on

theorem beforeT1_returns (binding : Binding) :
    Returns NotFalse (beforeT1 cfg fuel binding) := by
  unfold beforeT1
  apply Returns.after
  intro begun
  apply Returns.after
  intro slept
  split
  · apply Returns.after
    intro released
    split
    · exact returns_true
    · exact confirmEarly_returns cfg fuel binding
  · exact returns_true

theorem afterT1_returns (binding : Binding) (server : Option Duid) (now : Instant) :
    Returns NotFalse (afterT1 cfg fuel binding server now) := by
  unfold afterT1
  split
  · apply Returns.after
    intro _
    exact returns_true
  · dsimp only
    apply Returns.after
    intro _
    apply Returns.after
    intro _
    apply Returns.after
    intro applied
    split
    · exact returns_on
    · apply Returns.after
      intro later
      split
      · apply Returns.after
        intro _
        exact returns_true
      · exact returns_on

theorem boundTurn_returns : Returns NotFalse (boundTurn cfg fuel) := by
  unfold boundTurn
  apply Returns.after
  intro stopped
  split
  · exact returns_true
  · apply Returns.after
    intro released
    split
    · exact returns_true
    · apply Returns.after
      intro held
      split
      · exact returns_true
      · rename_i binding _
        unfold heldTurn
        apply Returns.after
        intro _
        apply Returns.after
        intro now
        split
        · exact beforeT1_returns cfg fuel binding
        · exact afterT1_returns cfg fuel binding held.serverDUID now

theorem boundLoop_returns : Returns (fun result => result = true) (boundLoop cfg fuel) := by
  induction fuel with
  | zero => trivial
  | succ fuel ih =>
      unfold boundLoop
      apply (boundTurn_returns cfg fuel).bind
      intro result notFalse
      split
      · exact ih
      · rename_i returned
        cases returned with
        | true => rfl
        | false => exact absurd rfl notFalse

end Exits

/-! ### A socket that does not take a message -/

def Op.transmits : Op → Bool
  | .write _ => true
  | _ => false

def Op.asksForTime : Op → Bool
  | .write query => query.messageType = .renew || query.messageType = .rebind
  | _ => false

def Op.pauses : Op → Bool
  | .select _ => true
  | _ => false

def boundSteps (cfg : Config) (fuel : Nat) (world : World) (moments : Nat → Moment) (count : Nat) :
    Past :=
  history handle (boundLoop cfg fuel) world ((List.range count).map moments)

/-- After a RENEW or REBIND that the socket did not take, the loop hands it nothing
more and returns false. -/
def LeavesDeadSocket (cfg : Config) (world : World) (moments : Nat → Moment) : Prop :=
  ∀ fuel count newer step earlier,
    boundSteps cfg fuel world moments count = newer ++ step :: earlier →
    step.op.asksForTime = true → step.input.ok = false →
    ∃ enough last later,
      finish (recorded handle) (boundLoop cfg enough) (world, []) moments =
        some (false, last, later ++ step :: earlier) ∧
      ∀ next ∈ later, next.op.transmits = false

def SocketTakes (cfg : Config) (world : World) (moments : Nat → Moment) : Prop :=
  ∀ fuel count, ∀ step ∈ boundSteps cfg fuel world moments count,
    step.op.asksForTime = true → step.input.ok = true

theorem LeavesDeadSocket.takes {cfg : Config} {world : World} {moments : Nat → Moment}
    (leaves : LeavesDeadSocket cfg world moments) : SocketTakes cfg world moments := by
  intro fuel count step member asks
  by_contra failed
  obtain ⟨newer, earlier, split⟩ := List.append_of_mem member
  obtain ⟨enough, last, later, ended, _⟩ :=
    leaves fuel count newer step earlier split asks (Bool.eq_false_iff.mpr failed)
  cases finish_of_returns (boundLoop_returns cfg enough) ended

/-- In every run of `boundLoop`, the loop leaves a dead socket exactly if the socket
does not die while the loop asks for more time. -/
theorem boundLoop_leaves_dead_socket_iff (cfg : Config) (world : World)
    (moments : Nat → Moment) :
    LeavesDeadSocket cfg world moments ↔ SocketTakes cfg world moments := by
  constructor
  · intro leaves
    exact leaves.takes
  · intro takes fuel count newer step earlier split asks failed
    have member : step ∈ boundSteps cfg fuel world moments count := by
      rw [split]
      exact List.mem_append_right newer List.mem_cons_self
    rw [takes fuel count step member asks] at failed
    cases failed

def sampleHolding : World := World.start (Client.new.restore sampleBinding 0) 0

/-- The clock stands still, the socket takes nothing, and in the third turn the
client has been stopped. -/
def sampleDeadSocket (count : Nat) : Moment :=
  if count = 10 ∨ count = 22 then quiet 0 false
  else if count = 24 then { quiet 0 true with calls := [.stop] }
  else quiet 0 true

/-- Two writes fail at the same instant without a pause between them, and the loop
returns true. -/
theorem boundLoop_retries_dead_socket :
    (finish (recorded handle) (boundLoop sampleConfig.normalize 3) (sampleHolding, [])
        sampleDeadSocket).map
      (fun run => (run.1, run.2.2.any (fun step => step.op.pauses),
        (run.2.2.filter (fun step => step.op.asksForTime)).map
          (fun step => (step.input.now, step.input.ok)))) =
        some (true, false, [(0, false), (0, false)]) ∧
    ¬ LeavesDeadSocket sampleConfig.normalize sampleHolding sampleDeadSocket := by
  refine ⟨by decide +kernel, ?_⟩
  intro leaves
  have failed : (boundSteps sampleConfig.normalize 3 sampleHolding sampleDeadSocket 11).any
      (fun step => step.op.asksForTime && !step.input.ok) = true := by decide +kernel
  obtain ⟨step, member, both⟩ := List.any_eq_true.mp failed
  obtain ⟨asks, notOk⟩ := Bool.and_eq_true_iff.mp both
  rw [leaves.takes 3 11 step member asks] at notOk
  cases notOk

end BridgeDhcp.Pd
