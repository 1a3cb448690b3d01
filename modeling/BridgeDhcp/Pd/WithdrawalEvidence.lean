/-
Why the client gives up a delegation that is still valid.

It should do so for a release request, or when a REBIND was sent on a ready link
and all attempts went by without a REPLY that could be applied.  An exchange also
ends without one when the client is being stopped, when the socket refuses to send and
when no transaction number can be drawn; the caller cannot tell.
-/

import BridgeDhcp.Pd.TurnRules
import BridgeDhcp.Pd.ExpiredDelegation

set_option autoImplicit false

namespace BridgeDhcp.Pd

open Netip GoTime Packet Interaction

/-! ### Evidence -/

def released : Past → Bool
  | [] => false
  | step :: earlier =>
      match step.op with
      | .takeReleaseReq => (step.world.advance step.input).client.releaseReq
      | _ => released earlier

/-- The link was ready at the last look at it, and the client has not waited since. -/
def foundReady : Past → Bool
  | [] => false
  | step :: earlier =>
      match step.op with
      | .uplinkReady _ => step.input.ok
      | .select _ => false
      | _ => foundReady earlier

/-- When REBINDs were handed to the socket and accepted, latest first. -/
def rebindsSent : Past → List Instant
  | [] => []
  | step :: earlier =>
      match step.op with
      | .write query =>
          if query.messageType = .rebind ∧ step.input.ok = true then
            step.input.now :: rebindsSent earlier
          else rebindsSent earlier
      | _ => rebindsSent earlier

def timeoutOf (cfg : Config) : Nat → Duration
  | 0 => cfg.initialTimeout
  | attempt + 1 => nextTimeout cfg (timeoutOf cfg attempt)

/-- Each attempt had its timeout before the next one, and the last one has had it
by now. -/
def Waited (cfg : Config) (now : Instant) : List Instant → Prop
  | [] => True
  | sentAt :: earlier =>
      sentAt + timeoutOf cfg earlier.length ≤ now ∧ Waited cfg sentAt earlier

/-- On a ready link REBIND was sent as often as configured, every attempt has
elapsed, and no REPLY was applied meanwhile. -/
def Exhausted (cfg : Config) (now : Instant) (past : Past) : Prop :=
  ∃ attempts before, past = attempts ++ before ∧ foundReady before = true ∧
    (∀ step ∈ attempts, ∀ binding server, step.op ≠ .store binding server) ∧
    rebindsSent attempts ≠ [] ∧ (rebindsSent attempts).length = cfg.attempts.toNat ∧
    Waited cfg now (rebindsSent attempts)

/-- A delegation that had not expired was dropped only on evidence. -/
def Evidenced (cfg : Config) : Past → Prop
  | [] => True
  | step :: earlier =>
      Evidenced cfg earlier ∧
        (step.op = .clear → ∀ binding ∈ step.world.client.binding,
          step.input.now ≤ binding.expiresAt →
          released earlier = true ∨ Exhausted cfg step.input.now earlier)

/-! ### Runs in which attempts are not cut short -/

/-- An attempt goes on as long as it is configured to: the client is not being
stopped, system calls succeed, a read ends at its deadline if no datagram comes,
and a REPLY that comes can be applied. -/
def Sustained (world : World) (op : Op) (moment : Moment) : Prop :=
  match op with
  | .stopped => (world.advance moment).client.done = false
  | .random => moment.ok = true
  | .write _ => moment.ok = true
  | .read deadline =>
      if moment.ok then
        ∀ reply ∈ moment.received, reply.messageType = .reply → usablePrefix reply ≠ none
      else deadline ≤ moment.now
  | _ => True

instance (world : World) (op : Op) (moment : Moment) : Decidable (Sustained world op moment) :=
  match op with
  | .stopped => inferInstanceAs (Decidable (_ = false))
  | .random => inferInstanceAs (Decidable (moment.ok = true))
  | .write _ => inferInstanceAs (Decidable (moment.ok = true))
  | .read deadline =>
      inferInstanceAs (Decidable (if moment.ok then
        ∀ reply ∈ moment.received, reply.messageType = .reply → usablePrefix reply ≠ none
      else deadline ≤ moment.now))
  | .now _ => .isTrue trivial
  | .select _ => .isTrue trivial
  | .openSocket => .isTrue trivial
  | .uplinkReady _ => .isTrue trivial
  | .setState _ => .isTrue trivial
  | .markStart => .isTrue trivial
  | .takeReleaseReq => .isTrue trivial
  | .load => .isTrue trivial
  | .hint => .isTrue trivial
  | .store _ _ => .isTrue trivial
  | .clear => .isTrue trivial
  | .callback _ _ => .isTrue trivial
  | .enter _ => .isTrue trivial
  | .leave _ => .isTrue trivial

/-- The clock does not go back, and in the state `rebinding` attempts go on. -/
def Undisturbed (world : World) (op : Op) (moment : Moment) : Prop :=
  world.clock ≤ moment.now ∧
    (world.client.state = .rebinding → Sustained world op moment)

instance (world : World) (op : Op) (moment : Moment) : Decidable (Undisturbed world op moment) :=
  inferInstanceAs (Decidable (world.clock ≤ moment.now ∧
    (world.client.state = .rebinding → Sustained world op moment)))

/-! ### What time and single steps do -/

theorem Waited.later {cfg : Config} {now later : Instant} {sent : List Instant}
    (waited : Waited cfg now sent) (ordered : now ≤ later) : Waited cfg later sent := by
  cases sent with
  | nil => trivial
  | cons sentAt earlier => exact ⟨le_trans waited.1 ordered, waited.2⟩

theorem rebindsSent_quiet {step : Step World Moment Op}
    (quiet : ∀ query, step.op ≠ .write query) (earlier : Past) :
    rebindsSent (step :: earlier) = rebindsSent earlier := by
  obtain ⟨world, moment, op⟩ := step
  cases op with
  | write query => exact absurd rfl (quiet query)
  | _ => rfl

theorem Exhausted.later {cfg : Config} {now later : Instant} {past : Past}
    (exhausted : Exhausted cfg now past) (ordered : now ≤ later) : Exhausted cfg later past := by
  obtain ⟨attempts, before, split, ready, unapplied, sent, all, waited⟩ := exhausted
  exact ⟨attempts, before, split, ready, unapplied, sent, all, waited.later ordered⟩

theorem Exhausted.cons {cfg : Config} {now : Instant} {past : Past}
    {step : Step World Moment Op} (exhausted : Exhausted cfg now past)
    (silent : ∀ query, step.op ≠ .write query)
    (keeping : ∀ binding server, step.op ≠ .store binding server) :
    Exhausted cfg now (step :: past) := by
  obtain ⟨attempts, before, split, ready, unapplied, sent, all, waited⟩ := exhausted
  refine ⟨step :: attempts, before, ?_, ready, ?_, ?_⟩
  · rw [split, List.cons_append]
  · intro other member
    rcases List.mem_cons.mp member with same | inside
    · rw [same]
      exact keeping
    · exact unapplied other inside
  · rw [rebindsSent_quiet silent]
    exact ⟨sent, all, waited⟩

theorem World.advance_state (world : World) (moment : Moment) :
    (world.advance moment).client.state = world.client.state := by
  apply World.advance_invariant (fun after => after.client.state = world.client.state)
  · rfl
  · intro current call same
    cases call <;> exact same

theorem exchange_step {op : Op} {messageType : MessageType6} {world after : World}
    {moment : Moment} {answer : op.Answer}
    (handled : handle world moment op = some (answer, after))
    (exchanges : op.exchanges messageType) :
    after.clock = moment.now ∧ after.client.state = world.client.state := by
  have passed : (world.advance moment).clock = moment.now ∧
      (world.advance moment).client.state = world.client.state :=
    ⟨world.advance_clock moment, world.advance_state moment⟩
  cases op with
  | random =>
      cases handled
      exact passed
  | stopped =>
      cases handled
      exact passed
  | hint =>
      cases handled
      exact passed
  | now site =>
      cases handled
      exact passed
  | read deadline =>
      cases handled
      exact passed
  | write query =>
      cases handled
      exact passed
  | _ => cases exchanges

/-! ### Attempts -/

section Attempts

variable {cfg : Config}

abbrev EvidencedSoFar (cfg : Config) (state : Recorded) : Prop := Evidenced cfg state.2

abbrev Undisturbing (state : Recorded) : Op → Moment → Prop := Undisturbed state.1

theorem evidenced_step {op : Op} {state after : Recorded} {moment : Moment} {answer : op.Answer}
    (keeps : op ≠ .clear) (evidenced : EvidencedSoFar cfg state)
    (answered : recorded handle state moment op = some (answer, after)) :
    EvidencedSoFar cfg after := by
  obtain ⟨_, past⟩ := recorded_cases answered
  unfold EvidencedSoFar
  rw [past]
  exact ⟨evidenced, fun clears => absurd clears keeps⟩

/-- After `before` REBIND was sent a number of times, and each attempt has
elapsed. -/
structure Attempting (cfg : Config) (before : Past) (count : Nat) (state : Recorded) : Prop where
  evidenced : EvidencedSoFar cfg state
  rebinding : state.1.client.state = .rebinding
  attempts : ∃ attempts, state.2 = attempts ++ before ∧
    (∀ step ∈ attempts, ∀ binding server, step.op ≠ .store binding server) ∧
    (rebindsSent attempts).length = count ∧ Waited cfg state.1.clock (rebindsSent attempts)

/-- The same with one more attempt, which has elapsed when the deadline is
reached. -/
structure Awaiting (cfg : Config) (before : Past) (count : Nat) (deadline : Instant)
    (state : Recorded) : Prop where
  evidenced : EvidencedSoFar cfg state
  rebinding : state.1.client.state = .rebinding
  attempts : ∃ attempts sentAt earlier, state.2 = attempts ++ before ∧
    (∀ step ∈ attempts, ∀ binding server, step.op ≠ .store binding server) ∧
    rebindsSent attempts = sentAt :: earlier ∧ earlier.length = count ∧
    Waited cfg sentAt earlier ∧ sentAt + timeoutOf cfg count ≤ deadline

variable {before : Past} {count : Nat} {op : Op} {state after : Recorded} {moment : Moment}
  {answer : op.Answer}

theorem extend_attempts {attempts : Past} {step : Step World Moment Op}
    (exchanges : step.op.exchanges .rebind)
    (unapplied : ∀ other ∈ attempts, ∀ binding server, other.op ≠ .store binding server) :
    ∀ other ∈ step :: attempts, ∀ binding server, other.op ≠ .store binding server := by
  intro other member binding server stores
  rcases List.mem_cons.mp member with same | inside
  · rw [← same, stores] at exchanges
    exact exchanges
  · exact unapplied other inside binding server stores

theorem Attempting.step (attempting : Attempting cfg before count state)
    (answered : recorded handle state moment op = some (answer, after))
    (undisturbed : Undisturbing state op moment)
    (exchanges : op.exchanges .rebind) (silent : ∀ query, op ≠ .write query) :
    Attempting cfg before count after := by
  obtain ⟨handled, past⟩ := recorded_cases answered
  obtain ⟨clock, same⟩ := exchange_step handled exchanges
  obtain ⟨attempts, split, unapplied, counted, waited⟩ := attempting.attempts
  refine ⟨evidenced_step ?_ attempting.evidenced answered, same.trans attempting.rebinding,
    ⟨state.1, moment, op⟩ :: attempts, ?_, extend_attempts exchanges unapplied, ?_⟩
  · intro clears
    rw [clears] at exchanges
    exact exchanges
  · rw [past, split, List.cons_append]
  · rw [rebindsSent_quiet silent, clock]
    exact ⟨counted, waited.later undisturbed.1⟩

theorem Awaiting.step {deadline : Instant} (awaiting : Awaiting cfg before count deadline state)
    (answered : recorded handle state moment op = some (answer, after))
    (exchanges : op.exchanges .rebind) (silent : ∀ query, op ≠ .write query) :
    Awaiting cfg before count deadline after := by
  obtain ⟨handled, past⟩ := recorded_cases answered
  obtain ⟨_, same⟩ := exchange_step handled exchanges
  obtain ⟨attempts, sentAt, earlier, split, unapplied, sent, counted, waited, due⟩ :=
    awaiting.attempts
  refine ⟨evidenced_step ?_ awaiting.evidenced answered, same.trans awaiting.rebinding,
    ⟨state.1, moment, op⟩ :: attempts, sentAt, earlier, ?_, extend_attempts exchanges unapplied,
    ?_, counted, waited, due⟩
  · intro clears
    rw [clears] at exchanges
    exact exchanges
  · rw [past, split, List.cons_append]
  · rw [rebindsSent_quiet silent]
    exact sent

theorem Awaiting.postpone {deadline later : Instant}
    (awaiting : Awaiting cfg before count deadline state) (ordered : deadline ≤ later) :
    Awaiting cfg before count later state := by
  obtain ⟨attempts, sentAt, earlier, split, unapplied, sent, counted, waited, due⟩ :=
    awaiting.attempts
  exact ⟨awaiting.evidenced, awaiting.rebinding, attempts, sentAt, earlier, split, unapplied,
    sent, counted, waited, le_trans due ordered⟩

theorem Awaiting.elapsed {deadline : Instant} (awaiting : Awaiting cfg before count deadline state)
    (reached : deadline ≤ state.1.clock) : Attempting cfg before (count + 1) state := by
  obtain ⟨attempts, sentAt, earlier, split, unapplied, sent, counted, waited, due⟩ :=
    awaiting.attempts
  refine ⟨awaiting.evidenced, awaiting.rebinding, attempts, split, unapplied, ?_, ?_⟩
  · rw [sent, List.length_cons, counted]
  · rw [sent]
    refine ⟨?_, waited⟩
    rw [counted]
    exact le_trans due reached

theorem Attempting.sent {query : Query} (attempting : Attempting cfg before count state)
    (rebinds : query.messageType = .rebind) (undisturbed : Undisturbing state (.write query) moment)
    {ok : Bool} (answered : recorded handle state moment (.write query) = some (ok, after)) :
    ok = true ∧
      Awaiting cfg before count (after.1.clock + timeoutOf cfg count) after := by
  obtain ⟨handled, past⟩ := recorded_cases answered
  have exchanges : (Op.write query).exchanges .rebind := rebinds
  obtain ⟨clock, same⟩ := exchange_step handled exchanges
  have accepted : moment.ok = true := undisturbed.2 attempting.rebinding
  obtain ⟨attempts, split, unapplied, counted, waited⟩ := attempting.attempts
  have noted : rebindsSent (⟨state.1, moment, .write query⟩ :: attempts) =
      moment.now :: rebindsSent attempts := if_pos ⟨rebinds, accepted⟩
  refine ⟨?_, evidenced_step Op.noConfusion attempting.evidenced answered,
    same.trans attempting.rebinding, ⟨state.1, moment, .write query⟩ :: attempts, moment.now,
    rebindsSent attempts, ?_, extend_attempts exchanges unapplied, noted, counted,
    waited.later undisturbed.1, ?_⟩
  · rw [← (Prod.mk.inj (Option.some.inj handled)).1]
    exact accepted
  · rw [past, split, List.cons_append]
  · rw [clock]

/-- How an undisturbed REBIND ends: with a REPLY that can be applied, or after all
its attempts. -/
def Concluded (cfg : Config) (before : Past) (count : Nat) :
    Option Answer6 → Recorded → Prop
  | some reply, state => usablePrefix reply ≠ none ∧ EvidencedSoFar cfg state
  | none, state => Attempting cfg before count state

theorem awaitReply_concluded {deadline : Instant} (txn : BitVec 24) (fuel : Nat)
    (awaiting : Awaiting cfg before count deadline state) :
    Safe (recorded handle) (EvidencedSoFar cfg) Undisturbing
      (awaitReply deadline txn .reply fuel) (Concluded cfg before (count + 1)) state := by
  induction fuel generalizing state with
  | zero => trivial
  | succ fuel ih =>
      unfold awaitReply
      apply Safe.perform_bind
      intro early _ now timed answeredNow
      have timedAwaiting := awaiting.step answeredNow rfl (fun _ => Op.noConfusion)
      refine ⟨timedAwaiting.evidenced, ?_⟩
      have clock : timed.1.clock = now := by
        obtain ⟨same, here⟩ := Prod.mk.inj (Option.some.inj (recorded_cases answeredNow).1)
        rw [← here]
        exact same
      split
      · apply Safe.perform_bind
        intro moment undisturbed datagram heard answeredRead
        have heardAwaiting := timedAwaiting.step answeredRead trivial (fun _ => Op.noConfusion)
        refine ⟨heardAwaiting.evidenced, ?_⟩
        have sustained : Sustained timed.1 (.read deadline) moment :=
          undisturbed.2 timedAwaiting.rebinding
        have handled := (recorded_cases answeredRead).1
        have heardClock := (exchange_step handled (show (Op.read deadline).exchanges .rebind from trivial)).1
        have received : (if moment.ok then some moment.received else none) = datagram :=
          (Prod.mk.inj (Option.some.inj handled)).1
        unfold Sustained at sustained
        dsimp only at sustained
        split at sustained
        · next ok =>
            rw [if_pos ok] at received
            rw [← received]
            cases content : moment.received with
            | none => exact ih heardAwaiting
            | some resp =>
                dsimp only
                split
                · next matches_ => exact ⟨sustained resp content matches_.1, heardAwaiting.evidenced⟩
                · exact ih heardAwaiting
        · next failed =>
            rw [if_neg failed] at received
            rw [← received]
            apply heardAwaiting.elapsed
            rw [heardClock]
            exact sustained
      · next late =>
          apply timedAwaiting.elapsed
          rw [clock]
          exact le_of_not_gt late

theorem transmit_concluded (accepted : cfg.clientID ≠ none) (fuel : Nat) (txn : BitVec 24)
    (server : Option Duid) (left : Nat) (attempting : Attempting cfg before count state) :
    Safe (recorded handle) (EvidencedSoFar cfg) Undisturbing
      (transmit cfg fuel .rebind txn server .reply left (timeoutOf cfg count))
      (Concluded cfg before (count + left)) state := by
  induction left generalizing count state with
  | zero => exact attempting
  | succ left ih =>
      unfold transmit
      apply Safe.perform_bind
      intro early undisturbed stopped asked answeredStopped
      have askedAttempting := attempting.step answeredStopped undisturbed trivial
        (fun _ => Op.noConfusion)
      refine ⟨askedAttempting.evidenced, ?_⟩
      have running : stopped = false := by
        have sustained : (state.1.advance early).client.done = false :=
          undisturbed.2 attempting.rebinding
        rw [← (Prod.mk.inj (Option.some.inj (recorded_cases answeredStopped).1)).1]
        exact sustained
      rw [running]
      unfold buildMessage
      cases identified : cfg.clientID with
      | none => exact absurd identified accepted
      | some duid =>
          intro moment undisturbedHint seen hinted answeredHint
          have hintedAttempting := askedAttempting.step answeredHint undisturbedHint trivial
            (fun _ => Op.noConfusion)
          refine ⟨hintedAttempting.evidenced, ?_⟩
          change Safe _ _ _ (perform (.write _) >>= _) _ _
          apply Safe.perform_bind
          intro sending undisturbedWrite written sent answeredWrite
          obtain ⟨ok, awaiting⟩ := hintedAttempting.sent rfl undisturbedWrite answeredWrite
          refine ⟨awaiting.evidenced, ?_⟩
          rw [ok]
          apply Safe.perform_bind
          intro at_ undisturbedNow sentAt timed answeredNow
          have timedAwaiting := awaiting.step answeredNow rfl (fun _ => Op.noConfusion)
          refine ⟨timedAwaiting.evidenced, ?_⟩
          -- The deadline counts from the clock after the write.
          have noted : sent.1.clock ≤ sentAt := by
            rw [← (Prod.mk.inj (Option.some.inj (recorded_cases answeredNow).1)).1,
              World.advance_clock]
            exact undisturbedNow.1
          have due : Awaiting cfg before count (sentAt + timeoutOf cfg count) timed :=
            timedAwaiting.postpone (by linarith)
          apply Safe.bind
          apply (awaitReply_concluded txn fuel due).mono
          intro resp after concluded
          cases resp with
          | some reply => exact concluded
          | none =>
              rw [Nat.add_comm left 1, ← Nat.add_assoc]
              exact ih concluded

theorem exchange_concluded (accepted : cfg.clientID ≠ none) (fuel : Nat) (server : Option Duid)
    (evidenced : EvidencedSoFar cfg state) (rebinding : state.1.client.state = .rebinding) :
    Safe (recorded handle) (EvidencedSoFar cfg) Undisturbing
      (exchange cfg fuel .rebind server .reply)
      (Concluded cfg state.2 cfg.attempts.toNat) state := by
  have begun : Attempting cfg state.2 0 state := by
    refine ⟨evidenced, rebinding, [], rfl, ?_, rfl, trivial⟩
    intro step member
    cases member
  apply Safe.perform_bind
  intro moment undisturbed txn drawn answered
  have attempting := begun.step answered undisturbed trivial (fun _ => Op.noConfusion)
  refine ⟨attempting.evidenced, ?_⟩
  have ok : moment.ok = true := undisturbed.2 rebinding
  have number : txn = some moment.random := by
    rw [← (Prod.mk.inj (Option.some.inj (recorded_cases answered).1)).1]
    exact if_pos ok
  rw [number]
  have all := transmit_concluded accepted fuel moment.random server cfg.attempts.toNat attempting
  rw [Nat.zero_add] at all
  exact all

end Attempts

/-! ### The places where a delegation is dropped -/

section Dropping

variable {cfg : Config} {state : Recorded}

def FoundReady (state : Recorded) : Prop := foundReady state.2 = true

def Droppable (cfg : Config) (state : Recorded) : Prop :=
  ∀ binding ∈ state.1.client.binding, state.1.clock ≤ binding.expiresAt →
    released state.2 = true ∨ Exhausted cfg state.1.clock state.2

theorem evidenced_kept {permits : Op → Bool} (never : permits .clear = false) :
    KeptUnder (recorded handle) permits Undisturbing (EvidencedSoFar cfg) := by
  intro op permitted current moment answer after evidenced _ answered
  apply evidenced_step _ evidenced answered
  intro clears
  rw [clears, never] at permitted
  cases permitted

theorem Droppable.entered {after : Recorded} {moment : Moment} {procedure : Procedure}
    (droppable : Droppable cfg state) (ordered : state.1.clock ≤ moment.now)
    (answered : recorded handle state moment (.enter procedure) = some ((), after)) :
    Droppable cfg after := by
  obtain ⟨handled, past⟩ := recorded_cases answered
  have same : (state.1.advance moment).entered procedure = after.1 :=
    (Prod.mk.inj (Option.some.inj handled)).2
  have clock : after.1.clock = moment.now := by
    rw [← same]
    exact state.1.advance_clock moment
  have held : after.1.client.binding = state.1.client.binding := by
    rw [← same]
    exact (state.1.advance_passes moment).binding
  intro binding holds valid
  rw [held] at holds
  rw [clock] at valid ⊢
  rw [past]
  rcases droppable binding holds (le_trans ordered valid) with asked | exhausted
  · exact Or.inl asked
  · exact Or.inr ((exhausted.later ordered).cons (fun _ => Op.noConfusion)
      (fun _ _ => Op.noConfusion))

theorem evidenced_clear {after : Recorded} {moment : Moment} {old : Option Binding}
    (evidenced : EvidencedSoFar cfg state) (droppable : Droppable cfg state)
    (ordered : state.1.clock ≤ moment.now)
    (answered : recorded handle state moment .clear = some (old, after)) :
    EvidencedSoFar cfg after := by
  unfold EvidencedSoFar
  rw [(recorded_cases answered).2]
  refine ⟨evidenced, ?_⟩
  intro _ binding holds valid
  rcases droppable binding holds (le_trans ordered valid) with asked | exhausted
  · exact Or.inl asked
  · exact Or.inr (exhausted.later ordered)

theorem dropPrefix_evidenced (evidenced : EvidencedSoFar cfg state)
    (droppable : Droppable cfg state) :
    Safe (recorded handle) (EvidencedSoFar cfg) Undisturbing dropPrefix
      (fun _ => EvidencedSoFar cfg) state := by
  have ended : ∀ old, Converses (do withdraw old; perform (.leave .dropPrefix)) := by
    intro old
    refine Uses.bind ?_ (fun _ => perform_converses rfl)
    apply (withdraw_uses old).mono
    intro op spoken
    obtain ⟨net, ok, same⟩ := spoken
    rw [same]
    rfl
  apply Safe.perform_bind
  intro early undisturbed _ begun answeredEnter
  have begunEvidenced := evidenced_step Op.noConfusion evidenced answeredEnter
  have begunDroppable := droppable.entered undisturbed.1 answeredEnter
  refine ⟨begunEvidenced, ?_⟩
  apply Safe.perform_bind
  intro moment undisturbedClear old cleared answeredClear
  have clearedEvidenced := evidenced_clear begunEvidenced begunDroppable undisturbedClear.1
    answeredClear
  refine ⟨clearedEvidenced, ?_⟩
  exact Keeps.of_uses (ended old) (fun _ holds => holds) (evidenced_kept rfl) cleared
    clearedEvidenced

def Serving (cfg : Config) (state : Recorded) : Prop :=
  EvidencedSoFar cfg state ∧ released state.2 = true

theorem released_quiet {step : Step World Moment Op} (quiet : step.op ≠ .takeReleaseReq)
    (earlier : Past) : released (step :: earlier) = released earlier := by
  obtain ⟨world, moment, op⟩ := step
  cases op with
  | takeReleaseReq => exact absurd rfl quiet
  | _ => rfl

theorem serving_kept : KeptUnder (recorded handle) Op.converses Undisturbing (Serving cfg) := by
  intro op converses current moment answer after serving _ answered
  refine ⟨evidenced_step ?_ serving.1 answered, ?_⟩
  · intro clears
    rw [clears] at converses
    cases converses
  · rw [(recorded_cases answered).2, released_quiet]
    · exact serving.2
    · intro takes
      change op = .takeReleaseReq at takes
      rw [takes] at converses
      cases converses

theorem maybeRelease_evidenced (fuel : Nat) (evidenced : EvidencedSoFar cfg state) :
    Safe (recorded handle) (EvidencedSoFar cfg) Undisturbing (maybeRelease cfg fuel)
      (fun _ => EvidencedSoFar cfg) state := by
  apply Safe.perform_bind
  intro moment undisturbed requested taken answered
  have takenEvidenced := evidenced_step Op.noConfusion evidenced answered
  refine ⟨takenEvidenced, ?_⟩
  cases requested with
  | false => exact takenEvidenced
  | true =>
      have serving : Serving cfg taken := by
        obtain ⟨handled, past⟩ := recorded_cases answered
        refine ⟨takenEvidenced, ?_⟩
        rw [past]
        exact (Prod.mk.inj (Option.some.inj handled)).1
      have conversing : ∀ {Value : Type} {routine : Routine Value}, Converses routine →
          Keeps (recorded handle) (EvidencedSoFar cfg) Undisturbing (Serving cfg) routine :=
        fun converses => Keeps.of_uses converses (fun _ both => both.1) serving_kept
      apply Safe.bind
      apply (conversing (perform_converses rfl) taken serving).mono
      intro held loaded loadedServing
      cases held.binding with
      | none => exact loadedServing.1
      | some binding =>
          apply Safe.bind
          apply (conversing (sendRelease_converses cfg fuel held.serverDUID) loaded
            loadedServing).mono
          intro _ sent sentServing
          apply Safe.bind
          apply (dropPrefix_evidenced sentServing.1 (fun _ _ _ => Or.inl sentServing.2)).mono
          intro _ dropped still
          exact still

def Confirming (cfg : Config) (state : Recorded) : Prop :=
  EvidencedSoFar cfg state ∧ FoundReady state

theorem confirming_kept :
    KeptUnder (recorded handle) Op.converses Undisturbing (Confirming cfg) := by
  intro op converses current moment answer after confirming _ answered
  refine ⟨evidenced_kept rfl op converses current moment answer after confirming.1 ‹_› answered, ?_⟩
  unfold FoundReady
  rw [(recorded_cases answered).2]
  cases op with
  | select deadline => cases converses
  | uplinkReady site => cases converses
  | _ => exact confirming.2

theorem confirming_keeps {Value : Type} {routine : Routine Value} (converses : Converses routine) :
    Keeps (recorded handle) (EvidencedSoFar cfg) Undisturbing (Confirming cfg) routine :=
  Keeps.of_uses converses (fun _ both => both.1) confirming_kept

theorem rebind_evidenced (accepted : cfg.clientID ≠ none) (enough : 0 < cfg.attempts)
    (fuel : Nat) (confirming : Confirming cfg state)
    (rebinding : state.1.client.state = .rebinding) :
    Safe (recorded handle) (EvidencedSoFar cfg) Undisturbing
      (exchangeAndApply cfg fuel .rebind none)
      (fun confirmed after => EvidencedSoFar cfg after ∧ (confirmed = false → Droppable cfg after))
      state := by
  apply Safe.bind
  apply (exchange_concluded accepted fuel none confirming.1 rebinding).mono
  intro reply after concluded
  cases reply with
  | none =>
      refine ⟨concluded.evidenced, ?_⟩
      intro _ binding _ _
      obtain ⟨attempts, split, unapplied, counted, waited⟩ := concluded.attempts
      refine Or.inr ⟨attempts, state.2, split, confirming.2, unapplied, ?_, counted, waited⟩
      intro none_
      rw [none_, List.length_nil] at counted
      omega
  | some reply =>
      have kept := Keeps.of_uses (applyReply_converses reply) (fun _ holds => holds)
        (evidenced_kept rfl) after concluded.2
      have refused := (applyReply_refused Undisturbed reply after.1).recorded after.2
      apply (kept.and (fun _ holds _ => holds) refused).mono
      intro applied last both
      refine ⟨both.1, ?_⟩
      intro failed
      exact absurd (both.2 failed).1 concluded.1

theorem confirmExisting_evidenced (accepted : cfg.clientID ≠ none) (enough : 0 < cfg.attempts)
    (fuel : Nat) (confirming : Confirming cfg state) :
    Safe (recorded handle) (EvidencedSoFar cfg) Undisturbing (confirmExisting cfg fuel)
      (fun confirmed after => EvidencedSoFar cfg after ∧ (confirmed = false → Droppable cfg after))
      state := by
  apply Safe.bind
  apply (confirming_keeps (perform_converses rfl) state confirming).mono
  intro held loaded loadedConfirming
  apply Safe.bind
  apply (confirming_keeps (confirmByRenew_converses cfg fuel held.serverDUID) loaded
    loadedConfirming).mono
  intro renewed tried triedConfirming
  cases renewed with
  | true => exact ⟨triedConfirming.1, Bool.noConfusion⟩
  | false =>
      apply Safe.perform_bind
      intro early undisturbed _ stated answeredState
      have statedConfirming := confirming_kept _ rfl tried early () stated triedConfirming
        undisturbed answeredState
      have rebinding : stated.1.client.state = .rebinding := by
        rw [← (Prod.mk.inj (Option.some.inj (recorded_cases answeredState).1)).2]
      refine ⟨statedConfirming.1, ?_⟩
      apply Safe.perform_bind
      intro moment undisturbedStart _ begun answeredStart
      have begunConfirming := confirming_kept _ rfl stated moment () begun statedConfirming
        undisturbedStart answeredStart
      have still : begun.1.client.state = .rebinding := by
        rw [← (Prod.mk.inj (Option.some.inj (recorded_cases answeredStart).1)).2]
        exact (stated.1.advance_state moment).trans rebinding
      exact ⟨begunConfirming.1, rebind_evidenced accepted enough fuel begunConfirming still⟩

theorem evidence_rules (accepted : cfg.clientID ≠ none) (enough : 0 < cfg.attempts) :
    TurnRules cfg (EvidencedSoFar cfg) Undisturbed (EvidencedSoFar cfg) (EvidencedSoFar cfg)
      FoundReady (Droppable cfg) where
  implies := fun _ evidenced => evidenced
  weaken := fun _ evidenced => evidenced
  idle := evidenced_kept rfl
  converses := evidenced_kept rfl
  looks := by
    intro site state evidenced moment _ ready after answered
    obtain ⟨handled, past⟩ := recorded_cases answered
    have still := evidenced_step Op.noConfusion evidenced answered
    refine ⟨still, still, ?_⟩
    intro isReady
    unfold FoundReady
    rw [past]
    exact (Prod.mk.inj (Option.some.inj handled)).1.trans isReady
  releases := by
    intro fuel state evidenced
    apply (maybeRelease_evidenced fuel evidenced).mono
    intro _ after still
    exact ⟨still, fun _ => still⟩
  confirms := fun fuel _ evidenced ready =>
    confirmExisting_evidenced accepted enough fuel ⟨evidenced, ready⟩
  drops := fun _ => dropPrefix_evidenced
  expires := by
    intro state binding _ held expired current holds valid
    rw [held] at holds
    cases holds
    exact absurd valid (not_le_of_gt expired)

end Dropping

/-! ### Every run -/

/-- In a run in which no attempt of a REBIND is cut short, a delegation that has not
expired is dropped only for a release request or after all attempts. -/
theorem withdrawn_on_evidence (cfg : Config) (fuel : Nat) (client : Client) (clock : Instant)
    (moments : List Moment) (accepted : cfg.clientID ≠ none)
    (undisturbed : Permitted handle Undisturbed (start cfg fuel) (World.start client clock)
      moments) :
    Evidenced cfg.normalize (history handle (start cfg fuel) (World.start client clock) moments) := by
  have enough : 0 < cfg.normalize.attempts := by
    unfold Config.normalize
    dsimp only
    split <;> omega
  have identified : cfg.normalize.clientID ≠ none := accepted
  have kept := (evidence_rules identified enough).run_between fuel
    (World.start client clock, []) trivial
  exact history_of_safe _ _ moments trivial kept undisturbed

/-- A restart with a delegation that is valid for two more seconds: the client finds
the link ready and begins a REBIND. -/
def sampleConfirming : List Moment := List.replicate 12 (quiet 0 true)

def sampleElapsing : List Moment :=
  sampleConfirming ++ List.replicate 5 (quiet 0 true) ++ List.replicate 3 (quiet second false)

def sampleStopping : List Moment :=
  sampleConfirming ++ [{ quiet 0 true with calls := [.stop] }, quiet 0 true, quiet 0 true]

def sampleRefusing : List Moment :=
  sampleConfirming ++ [quiet 0 true, quiet 0 true, quiet 0 false, quiet 0 true, quiet 0 true]

def sampleRestored : World := World.start (Client.new.restore sampleBinding 0) 0

/-- The delegation is dropped after the attempt, a second before it expires. -/
theorem withdrawn_on_evidence_elapsed :
    Permitted handle Undisturbed (start sampleConfig 3) sampleRestored sampleElapsing ∧
      (exec handle (start sampleConfig 3) sampleRestored sampleElapsing).client.binding = none ∧
      Evidenced sampleConfig.normalize
        (history handle (start sampleConfig 3) sampleRestored sampleElapsing) := by
  have undisturbed : Permitted handle Undisturbed (start sampleConfig 3) sampleRestored
      sampleElapsing := by decide +kernel
  refine ⟨undisturbed, by decide +kernel, ?_⟩
  exact withdrawn_on_evidence sampleConfig 3 _ 0 sampleElapsing (by decide) undisturbed

theorem rebindsSent_append (later earlier : Past) :
    rebindsSent (later ++ earlier) = rebindsSent later ++ rebindsSent earlier := by
  induction later with
  | nil => rfl
  | cons step rest ih =>
      obtain ⟨world, moment, op⟩ := step
      cases op with
      | write query =>
          change (if query.messageType = .rebind ∧ moment.ok = true then
              moment.now :: rebindsSent (rest ++ earlier)
            else rebindsSent (rest ++ earlier)) =
            (if query.messageType = .rebind ∧ moment.ok = true then
              moment.now :: rebindsSent rest
            else rebindsSent rest) ++ rebindsSent earlier
          rw [ih]
          split <;> rfl
      | _ => exact ih

theorem not_exhausted {cfg : Config} {now : Instant} {past : Past}
    (unsent : rebindsSent past = []) : ¬ Exhausted cfg now past := by
  rintro ⟨attempts, before, split, _, _, sent, _⟩
  rw [split, rebindsSent_append] at unsent
  exact sent (List.append_eq_nil_iff.mp unsent).1

/-- Neither being stopped nor a socket that refuses is evidence, and yet the
delegation is dropped before any REBIND was sent. -/
theorem dropped_without_evidence :
    sampleRestored.client.binding = some sampleBinding ∧ 0 < sampleBinding.expiresAt ∧
      (exec handle (start sampleConfig 3) sampleRestored sampleStopping).client.binding = none ∧
      ¬ Evidenced sampleConfig.normalize
        (history handle (start sampleConfig 3) sampleRestored sampleStopping) ∧
      (exec handle (start sampleConfig 3) sampleRestored sampleRefusing).client.binding = none ∧
      ¬ Evidenced sampleConfig.normalize
        (history handle (start sampleConfig 3) sampleRestored sampleRefusing) := by
  refine ⟨by decide, by decide, by decide +kernel, ?_, by decide +kernel, ?_⟩
  · intro evidenced
    rcases evidenced.2 rfl sampleBinding rfl (by decide) with asked | exhausted
    · exact absurd asked (by decide)
    · exact not_exhausted rfl exhausted
  · intro evidenced
    rcases evidenced.2 rfl sampleBinding rfl (by decide) with asked | exhausted
    · exact absurd asked (by decide)
    · exact not_exhausted rfl exhausted

end BridgeDhcp.Pd
