/-
The delegation that a release request is meant for.

`Release` only sets a flag, and the flag says nothing about the delegation that was
held.  It is looked at when a loop begins its next turn, and whatever is held then
is released: also a delegation acquired after the call.  The request hits what it
was meant for, or nothing, as long as no delegation is acquired, dropped or replaced
before the request is served.
-/

import BridgeDhcp.Pd.EarlyConfirmation
import BridgeDhcp.Pd.WithdrawalEvidence

set_option autoImplicit false

namespace BridgeDhcp.Pd

open Netip GoTime Packet Interaction

/-! ### Requests and their targets -/

/-- A release request is being served: the last look for one found it, and there was
a delegation to release. -/
def serving : Past → Bool
  | [] => false
  | step :: earlier =>
      match step.op with
      | .takeReleaseReq =>
          (step.world.advance step.input).client.releaseReq && step.world.client.binding.isSome
      | _ => serving earlier

/-- `Release` was called while the prefix was held, and it has been held since. -/
def meantFor (net : Prefix) : Past → Bool
  | [] => false
  | step :: earlier =>
      decide (step.world.client.binding.map Binding.net = some net) &&
        (decide (.release ∈ step.input.calls) || meantFor net earlier)

def Op.releases : Op → Bool
  | .clear => true
  | .write query => query.messageType = .release
  | _ => false

/-- What was released or dropped for a request was what the request was meant for. -/
def Aimed : Past → Prop
  | [] => True
  | step :: earlier =>
      Aimed earlier ∧
        (step.op.releases = true → serving earlier = true →
          ∀ binding ∈ step.world.client.binding, meantFor binding.net earlier = true)

def LeavesHeld (world : World) : Op → Prop
  | .clear => False
  | .store binding _ => world.client.binding.map Binding.net = some binding.net
  | _ => True

instance (world : World) (op : Op) : Decidable (LeavesHeld world op) :=
  match op with
  | .clear => .isFalse id
  | .store binding _ =>
      inferInstanceAs (Decidable (world.client.binding.map Binding.net = some binding.net))
  | .stopped => .isTrue trivial
  | .now _ => .isTrue trivial
  | .select _ => .isTrue trivial
  | .openSocket => .isTrue trivial
  | .uplinkReady _ => .isTrue trivial
  | .random => .isTrue trivial
  | .write _ => .isTrue trivial
  | .read _ => .isTrue trivial
  | .setState _ => .isTrue trivial
  | .markStart => .isTrue trivial
  | .takeReleaseReq => .isTrue trivial
  | .load => .isTrue trivial
  | .hint => .isTrue trivial
  | .callback _ _ => .isTrue trivial
  | .enter _ => .isTrue trivial
  | .leave _ => .isTrue trivial

/-- A pending request finds the prefix in place that was held at the call, or none if
none was held, until it is looked at. -/
def Targeted (world : World) (op : Op) (moment : Moment) : Prop :=
  (world.advance moment).client.releaseReq = true → LeavesHeld world op

instance (world : World) (op : Op) (moment : Moment) : Decidable (Targeted world op moment) :=
  inferInstanceAs (Decidable ((world.advance moment).client.releaseReq = true →
    LeavesHeld world op))

/-! ### Pending requests -/

theorem World.advance_releaseReq {world : World} {moment : Moment}
    (requested : (world.advance moment).client.releaseReq = true) :
    world.client.releaseReq = true ∨ .release ∈ moment.calls := by
  have calls : ∀ (called : List ApiCall) (current : World),
      (called.foldl World.call current).client.releaseReq = true →
      current.client.releaseReq = true ∨ .release ∈ called := by
    intro called
    induction called with
    | nil =>
        intro current set
        exact Or.inl set
    | cons call rest ih =>
        intro current set
        rcases ih (current.call call) set with before | later
        · cases call with
          | release => exact Or.inr List.mem_cons_self
          | _ => exact Or.inl before
        · exact Or.inr (List.mem_cons_of_mem call later)
  exact calls moment.calls { world with clock := moment.now } requested

def Pending (state : Recorded) : Prop :=
  state.1.client.releaseReq = true →
    ∀ binding, state.1.client.binding = some binding → meantFor binding.net state.2 = true

section Steps

variable {op : Op} {state after : Recorded} {moment : Moment} {answer : op.Answer}

theorem meantFor_held {binding : Binding} (held : state.1.client.binding = some binding)
    (meant : meantFor binding.net state.2 = true) :
    meantFor binding.net (⟨state.1, moment, op⟩ :: state.2) = true := by
  unfold meantFor
  rw [held, meant, Bool.or_true, Bool.and_true]
  exact decide_eq_true rfl

theorem Pending.arrived (pending : Pending state)
    (requested : (state.1.advance moment).client.releaseReq = true) {binding : Binding}
    (held : state.1.client.binding = some binding) :
    meantFor binding.net (⟨state.1, moment, op⟩ :: state.2) = true := by
  rcases World.advance_releaseReq requested with before | called
  · exact meantFor_held held (pending before binding held)
  · unfold meantFor
    rw [held, decide_eq_true called, Bool.true_or, Bool.and_true]
    exact decide_eq_true rfl

theorem handle_releaseReq {world later : World}
    (handled : handle world moment op = some (answer, later))
    (requested : later.client.releaseReq = true) :
    (world.advance moment).client.releaseReq = true := by
  cases op with
  | clear =>
      cases handled
      unfold World.cleared at requested
      cases held : (world.advance moment).client.binding with
      | none =>
          rw [held] at requested
          exact requested
      | some binding =>
          rw [held] at requested
          exact requested
  | write query =>
      cases handled
      exact requested
  | store binding server =>
      cases handled
      exact requested
  | callback net ok =>
      cases handled
      exact requested
  | enter procedure =>
      cases handled
      exact requested
  | leave procedure =>
      cases handled
      exact requested
  | _ => exact (World.answer_idles rfl handled).releaseReq requested

theorem handle_leavesHeld {world later : World}
    (handled : handle world moment op = some (answer, later)) (leaves : LeavesHeld world op) :
    later.client.binding.map Binding.net = world.client.binding.map Binding.net := by
  have same := congrArg (Option.map Binding.net) (world.advance_passes moment).binding
  cases op with
  | clear => exact leaves.elim
  | store binding server =>
      cases handled
      exact leaves.symm
  | callback net ok =>
      cases handled
      exact same
  | enter procedure =>
      cases handled
      exact same
  | leave procedure =>
      cases handled
      exact same
  | write query =>
      cases handled
      exact same
  | _ => rw [(World.answer_idles rfl handled).binding, same]

theorem Pending.step (pending : Pending state) (targeted : Targeted state.1 op moment)
    (answered : recorded handle state moment op = some (answer, after)) : Pending after := by
  obtain ⟨handled, past⟩ := recorded_cases answered
  intro requested current holds
  have arrived := handle_releaseReq handled requested
  have same := handle_leavesHeld handled (targeted arrived)
  rw [holds, Option.map_some] at same
  obtain ⟨binding, held, net⟩ := Option.map_eq_some_iff.mp same.symm
  rw [past, ← net]
  exact pending.arrived arrived held

end Steps

/-! ### Invariants -/

abbrev AimedSoFar (state : Recorded) : Prop := Aimed state.2

abbrev Targeting (state : Recorded) : Op → Moment → Prop := Targeted state.1

structure Aiming (state : Recorded) : Prop where
  aimed : AimedSoFar state
  pending : Pending state

structure Unserved (state : Recorded) : Prop where
  aiming : Aiming state
  unserved : serving state.2 = false

/-- A request is being served, and it was meant for what is held. -/
structure Hitting (state : Recorded) : Prop where
  aiming : Aiming state
  meant : ∀ binding ∈ state.1.client.binding, meantFor binding.net state.2 = true

section Kept

variable {op : Op} {state after : Recorded} {moment : Moment} {answer : op.Answer}

theorem serving_quiet {step : Step World Moment Op} (quiet : step.op ≠ .takeReleaseReq)
    (earlier : Past) : serving (step :: earlier) = serving earlier := by
  obtain ⟨world, moment, op⟩ := step
  cases op with
  | takeReleaseReq => exact absurd rfl quiet
  | _ => rfl

theorem aiming_kept : KeptUnder (recorded handle) Op.idle Targeting Aiming := by
  intro op idle state moment answer after aiming targeted answered
  refine ⟨?_, aiming.pending.step targeted answered⟩
  unfold AimedSoFar
  rw [(recorded_cases answered).2]
  refine ⟨aiming.aimed, ?_⟩
  intro releases
  cases op with
  | clear => cases idle
  | write query => cases idle
  | _ => cases releases

theorem Unserved.step (unserved : Unserved state) (targeted : Targeting state op moment)
    (answered : recorded handle state moment op = some (answer, after))
    (quiet : op ≠ .takeReleaseReq) : Unserved after := by
  obtain ⟨_, past⟩ := recorded_cases answered
  refine ⟨⟨?_, unserved.aiming.pending.step targeted answered⟩, ?_⟩
  · unfold AimedSoFar
    rw [past]
    refine ⟨unserved.aiming.aimed, ?_⟩
    intro _ served
    rw [unserved.unserved] at served
    cases served
  · rw [past, serving_quiet quiet]
    exact unserved.unserved

theorem Hitting.step (hitting : Hitting state) (targeted : Targeting state op moment)
    (answered : recorded handle state moment op = some (answer, after))
    (keeps : after.1.client.binding = state.1.client.binding ∨ after.1.client.binding = none) :
    Hitting after := by
  obtain ⟨_, past⟩ := recorded_cases answered
  refine ⟨⟨?_, hitting.aiming.pending.step targeted answered⟩, ?_⟩
  · unfold AimedSoFar
    rw [past]
    refine ⟨hitting.aiming.aimed, ?_⟩
    intro _ _ binding held
    exact hitting.meant binding held
  · intro binding held
    rw [past]
    rcases keeps with same | gone
    · rw [same] at held
      exact meantFor_held held (hitting.meant binding held)
    · rw [gone] at held
      cases held

theorem hitting_kept : KeptUnder (recorded handle) Op.aside Targeting Hitting := by
  intro op aside state moment answer after hitting targeted answered
  have passed := handle_passes aside (recorded_cases answered).1
  exact hitting.step targeted answered (Or.inl passed.binding)

end Kept

/-! ### The places where a delegation is dropped -/

theorem dropPrefix_unserved :
    Keeps (recorded handle) AimedSoFar Targeting Unserved dropPrefix := by
  apply Keeps.of_uses dropPrefix_uses (fun _ unserved => unserved.aiming.aimed)
  intro op drops state moment answer after unserved targeted answered
  apply unserved.step targeted answered
  intro takes
  rw [takes] at drops
  exact drops

theorem dropPrefix_hitting :
    Keeps (recorded handle) AimedSoFar Targeting Hitting dropPrefix := by
  apply Keeps.of_uses dropPrefix_uses (fun _ hitting => hitting.aiming.aimed)
  intro op drops state moment answer after hitting targeted answered
  apply hitting.step targeted answered
  have handled := (recorded_cases answered).1
  have same := (state.1.advance_passes moment).binding
  cases op with
  | enter procedure =>
      rw [← (Prod.mk.inj (Option.some.inj handled)).2]
      exact Or.inl same
  | callback net ok =>
      rw [← (Prod.mk.inj (Option.some.inj handled)).2]
      exact Or.inl same
  | leave procedure =>
      rw [← (Prod.mk.inj (Option.some.inj handled)).2]
      exact Or.inl same
  | clear =>
      rw [← (Prod.mk.inj (Option.some.inj handled)).2]
      refine Or.inr ?_
      unfold World.cleared
      cases (state.1.advance moment).client.binding <;> rfl
  | _ => cases drops

theorem Aiming.taken_unserved {state taken : Recorded} {moment : Moment} (aiming : Aiming taken)
    (past : taken.2 = ⟨state.1, moment, .takeReleaseReq⟩ :: state.2)
    (nothing : (state.1.advance moment).client.releaseReq = false ∨
      state.1.client.binding = none) : Unserved taken := by
  refine ⟨aiming, ?_⟩
  rw [past]
  change ((state.1.advance moment).client.releaseReq && state.1.client.binding.isSome) = false
  rcases nothing with unset | bare
  · rw [unset, Bool.false_and]
  · rw [bare, Option.isSome_none, Bool.and_false]

theorem maybeRelease_aiming (cfg : Config) (fuel : Nat) {state : Recorded}
    (aiming : Aiming state) :
    Safe (recorded handle) AimedSoFar Targeting (maybeRelease cfg fuel)
      (fun released after => Aiming after ∧ (released = false → Unserved after)) state := by
  apply Safe.perform_bind
  intro moment targeted requested taken answered
  have takenAiming := aiming_kept _ rfl state moment requested taken aiming targeted answered
  obtain ⟨handled, past⟩ := recorded_cases answered
  have flag : (state.1.advance moment).client.releaseReq = requested :=
    (Prod.mk.inj (Option.some.inj handled)).1
  refine ⟨takenAiming.aimed, ?_⟩
  cases requested with
  | false => exact ⟨takenAiming, fun _ => takenAiming.taken_unserved past (Or.inl flag)⟩
  | true =>
      have kept : taken.1.client.binding = state.1.client.binding :=
        (handle_passes rfl handled).binding
      have hitting : Hitting taken := by
        refine ⟨takenAiming, ?_⟩
        intro current holds
        rw [past]
        exact aiming.pending.arrived flag (kept.symm.trans holds)
      apply Safe.perform_bind
      intro later targetedLoad found loaded answeredLoad
      have loadedHitting := hitting_kept _ rfl taken later found loaded hitting targetedLoad
        answeredLoad
      refine ⟨loadedHitting.aiming.aimed, ?_⟩
      have sees : found.binding = state.1.client.binding := by
        rw [← (Prod.mk.inj (Option.some.inj (recorded_cases answeredLoad).1)).1]
        exact (taken.1.advance_passes later).binding.trans kept
      cases held : state.1.client.binding with
      | none =>
          -- The request is consumed, and nothing is held that it could hit.
          have unserved := takenAiming.taken_unserved past (Or.inr held)
          have still := unserved.step targetedLoad answeredLoad Op.noConfusion
          rw [sees, held]
          exact ⟨still.aiming, fun _ => still⟩
      | some binding =>
          rw [sees, held]
          apply Safe.bind
          apply (keeps_sendRelease (fun _ hits => hits.aiming.aimed) hitting_kept cfg fuel
            found.serverDUID loaded loadedHitting).mono
          intro _ sent sentHitting
          apply Safe.bind
          apply (dropPrefix_hitting sent sentHitting).mono
          intro _ dropped droppedHitting
          exact ⟨droppedHitting.aiming, Bool.noConfusion⟩

theorem unserved_kept : KeptUnder (recorded handle) Op.converses Targeting Unserved := by
  intro op converses state moment answer after unserved targeted answered
  apply unserved.step targeted answered
  intro takes
  rw [takes] at converses
  cases converses

theorem target_rules (cfg : Config) :
    TurnRules cfg AimedSoFar Targeted Aiming Unserved (fun _ => True) (fun _ => True) where
  implies := fun _ aiming => aiming.aimed
  weaken := fun _ unserved => unserved.aiming
  idle := aiming_kept
  converses := unserved_kept
  looks := by
    intro site state unserved moment targeted ready after answered
    have still := unserved.step targeted answered Op.noConfusion
    exact ⟨still.aiming.aimed, still, fun _ => trivial⟩
  releases := fun fuel _ aiming => maybeRelease_aiming cfg fuel aiming
  confirms := by
    intro fuel state unserved _
    have kept := Keeps.of_uses (confirmExisting_converses cfg fuel)
      (fun _ current => current.aiming.aimed) unserved_kept state unserved
    apply kept.mono
    intro _ after still
    exact ⟨still, fun _ => trivial⟩
  drops := fun state unserved _ => dropPrefix_unserved state unserved
  expires := fun _ _ _ _ _ => trivial

/-! ### Every run -/

/-- In a run in which no delegation is acquired, dropped or replaced between a call of
`Release` and the turn that serves it, every request releases what it was meant for. -/
theorem release_hits_target (cfg : Config) (fuel : Nat) (client : Client) (clock : Instant)
    (moments : List Moment) (fresh : client.releaseReq = false)
    (targeted : Permitted handle Targeted (start cfg fuel) (World.start client clock) moments) :
    Aimed (history handle (start cfg fuel) (World.start client clock) moments) := by
  have initially : Aiming (World.start client clock, []) := by
    refine ⟨trivial, ?_⟩
    intro requested
    change client.releaseReq = true at requested
    rw [fresh] at requested
    cases requested
  have kept := (target_rules cfg.normalize).run_between fuel _ initially
  exact history_of_safe _ _ moments trivial kept targeted

def asksRelease : Moment := { quiet 0 true with calls := [.release] }

/-- `Release` is called for a restored delegation and served in the first turn.  A second
call finds nothing held and is served before anything is acquired. -/
def sampleReleasing : List Moment :=
  asksRelease :: (List.replicate 9 (quiet 0 true) ++ asksRelease :: List.replicate 4 (quiet 0 true))

theorem release_hits_target_restored :
    Permitted handle Targeted (start sampleConfig 3) sampleRestored sampleReleasing ∧
      (exec handle (start sampleConfig 3) sampleRestored sampleReleasing).client.binding = none ∧
      (exec handle (start sampleConfig 3) sampleRestored sampleReleasing).client.releaseReq = false ∧
      Aimed (history handle (start sampleConfig 3) sampleRestored sampleReleasing) := by
  have targeted : Permitted handle Targeted (start sampleConfig 3) sampleRestored
      sampleReleasing := by decide +kernel
  refine ⟨targeted, by decide +kernel, by decide +kernel, ?_⟩
  exact release_hits_target sampleConfig 3 _ 0 sampleReleasing rfl targeted

/-- `Release` is called while the client is still soliciting.  It acquires a
delegation, sends a RELEASE, and gives the delegation up. -/
def sampleTooEarly : List Moment :=
  List.replicate 9 (quiet 0 true) ++ asksRelease :: (List.replicate 5 (quiet 0 true) ++
    hears 0 (sampleAnswer .advertise) :: (List.replicate 7 (quiet 0 true) ++
      hears 0 (sampleAnswer .reply) :: (List.replicate 17 (quiet 0 true) ++
        [quiet 0 false, quiet 0 true, quiet 0 true])))

def sampleAcquired : Binding where
  net := sampleBinding.net
  boundAt := 0
  expiresAt := 14400 * second

/-- Nothing was held when `Release` was called, and the delegation acquired later is
dropped for it. -/
theorem release_hits_later_delegation :
    (exec handle (start sampleConfig 6) (World.start Client.new 0)
        (sampleTooEarly.take 10)).client.binding = none ∧
      (exec handle (start sampleConfig 6) (World.start Client.new 0)
        (sampleTooEarly.take 43)).client.binding = some sampleAcquired ∧
      (exec handle (start sampleConfig 6) (World.start Client.new 0)
        sampleTooEarly).client.binding = none ∧
      ¬ Aimed (history handle (start sampleConfig 6) (World.start Client.new 0)
        sampleTooEarly) := by
  refine ⟨by decide +kernel, by decide +kernel, by decide +kernel, ?_⟩
  intro aimed
  exact absurd (aimed.2 rfl rfl sampleAcquired rfl) (by decide +kernel)

end BridgeDhcp.Pd
