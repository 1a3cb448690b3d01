/-
Confirmations in the first half of a delegation's lifetime.

Before T1 the client sleeps, for a minute at most, and then confirms its delegation if
the link is ready.  `sleep` does not tell whether it was woken, so the confirmation does
not depend on a wakeup: a quiet client confirms, and may drop its delegation, every
minute.
-/

import BridgeDhcp.Pd.RoutineRules

set_option autoImplicit false

namespace BridgeDhcp.Pd

open Netip GoTime Packet Interaction

/-! ### Provoked and early events -/

/-- Since the last REPLY was applied a method has been called, or a token was
pending when it was.  Nothing is asked of a delegation that was restored and not
yet applied. -/
def provoked : List Stamped → Bool
  | [] => true
  | stamped :: earlier =>
      match stamped.event with
      | .called _ => true
      | .applied _ pending => pending
      | _ => provoked earlier

/-- A RENEW or REBIND that is sent, or a delegation that is dropped, in the first
half of the delegation's lifetime. -/
def Early (stamped : Stamped) : Prop :=
  match stamped.event with
  | .wrote query (some binding) true =>
      (query.messageType = .renew ∨ query.messageType = .rebind) ∧
        binding.FirstHalf stamped.at_
  | .dropped binding => binding.FirstHalf stamped.at_
  | _ => False

def Calm : List Stamped → Prop
  | [] => True
  | stamped :: earlier => Calm earlier ∧ (Early stamped → provoked earlier = true)

/-- The clock does not go back, and when `boundLoop` looks at the link in the first
half of a lifetime without having been provoked, the link is not ready. -/
def NotReadyEarly (world : World) (op : Op) (moment : Moment) : Prop :=
  world.clock ≤ moment.now ∧
    (op = .uplinkReady .bound → provoked (world.advance moment).trace = false →
      ∀ binding ∈ world.client.binding, binding.FirstHalf moment.now → moment.ok = false)

instance (world : World) (op : Op) (moment : Moment) : Decidable (NotReadyEarly world op moment) :=
  inferInstanceAs (Decidable (world.clock ≤ moment.now ∧
    (op = .uplinkReady .bound → provoked (world.advance moment).trace = false →
      ∀ binding ∈ world.client.binding, binding.FirstHalf moment.now → moment.ok = false)))

/-! ### Invariants -/

/-- The part that holds throughout.  A token and a release request are themselves
provocations, and a delegation that nothing provokes came from a REPLY. -/
structure Tame (world : World) : Prop where
  calm : Calm world.trace
  woken : world.client.wake = true → provoked world.trace = true
  requested : world.client.releaseReq = true → provoked world.trace = true
  wire : provoked world.trace = false → ∀ binding ∈ world.client.binding, binding.FromWire

def MayConfirm (world : World) : Prop :=
  provoked world.trace = false →
    ∀ binding ∈ world.client.binding, ¬ binding.FirstHalf world.clock

/-- A release request is pending only together with its token. -/
def Tokened (world : World) : Prop :=
  world.client.releaseReq = true → world.client.wake = true

theorem mayConfirm_of_empty {world : World} (empty : world.client.binding = none) :
    MayConfirm world := by
  intro _ binding held
  rw [empty] at held
  cases held

theorem mayConfirm_of_provoked {world : World} (reason : provoked world.trace = true) :
    MayConfirm world := by
  intro unprovoked
  rw [reason] at unprovoked
  cases unprovoked

/-! ### Waiting and calls -/

section Advance

variable {world : World} {moment : Moment}

theorem Tame.advance (tame : Tame world) : Tame (world.advance moment) := by
  apply World.advance_invariant Tame
  · exact ⟨tame.calm, tame.woken, tame.requested, tame.wire⟩
  · intro current call before
    exact ⟨⟨before.calm, False.elim⟩, fun _ => rfl, fun _ => rfl, Bool.noConfusion⟩

theorem MayConfirm.advance (may : MayConfirm world) (ordered : world.clock ≤ moment.now) :
    MayConfirm (world.advance moment) := by
  apply World.advance_invariant MayConfirm
  · intro unprovoked binding held half
    exact may unprovoked binding held (half.earlier ordered)
  · intro current call _
    exact mayConfirm_of_provoked rfl

theorem Tokened.advance (tokened : Tokened world) : Tokened (world.advance moment) := by
  apply World.advance_invariant Tokened
  · exact tokened
  · intro current call before
    cases call with
    | wakeup => exact fun _ => rfl
    | renew => exact fun _ => rfl
    | release => exact fun _ => rfl
    | stop => exact before

end Advance

/-! ### Operations -/

section Steps

variable {op : Op} {world after : World} {moment : Moment} {answer : op.Answer}

theorem Tame.idles (tame : Tame world) (idles : Idles world after) : Tame after := by
  refine ⟨?_, ?_, ?_, ?_⟩
  · rw [idles.trace]
    exact tame.calm
  · intro wake
    rw [idles.trace]
    exact tame.woken (idles.wake wake)
  · intro requested
    rw [idles.trace]
    exact tame.requested (idles.releaseReq requested)
  · rw [idles.trace, idles.binding]
    exact tame.wire

theorem MayConfirm.idles (may : MayConfirm world) (idles : Idles world after) :
    MayConfirm after := by
  unfold MayConfirm
  rw [idles.trace, idles.binding, idles.clock]
  exact may

def Op.harmless : Op → Bool
  | .write _ => false
  | .clear => false
  | .store _ _ => false
  | _ => true

theorem Tame.harmless (tame : Tame world) (harmless : op.harmless = true)
    (handled : handle world moment op = some (answer, after)) : Tame after := by
  have now : Tame (world.advance moment) := tame.advance
  cases op with
  | write query => cases harmless
  | clear => cases harmless
  | store binding server => cases harmless
  | callback net ok =>
      cases handled
      exact ⟨⟨now.calm, False.elim⟩, now.woken, now.requested, now.wire⟩
  | enter procedure =>
      cases handled
      exact ⟨⟨now.calm, False.elim⟩, now.woken, now.requested, now.wire⟩
  | leave procedure =>
      cases handled
      exact ⟨now.calm, now.woken, now.requested, now.wire⟩
  | _ => exact now.idles (World.answer_idles rfl handled)

def Op.keeping : Op → Bool
  | .store _ _ => false
  | _ => true

theorem MayConfirm.keeping (may : MayConfirm world) (keeping : op.keeping = true)
    (ordered : world.clock ≤ moment.now)
    (handled : handle world moment op = some (answer, after)) : MayConfirm after := by
  have now : MayConfirm (world.advance moment) := may.advance ordered
  cases op with
  | store binding server => cases keeping
  | write query =>
      cases handled
      exact now
  | clear =>
      cases handled
      apply mayConfirm_of_empty
      unfold World.cleared
      cases (world.advance moment).client.binding <;> rfl
  | callback net ok =>
      cases handled
      exact now
  | enter procedure =>
      cases handled
      exact now
  | leave procedure =>
      cases handled
      exact now
  | _ => exact now.idles (World.answer_idles rfl handled)

theorem Tame.keeping (tame : Tame world) (may : MayConfirm world) (keeping : op.keeping = true)
    (ordered : world.clock ≤ moment.now)
    (handled : handle world moment op = some (answer, after)) : Tame after := by
  have now : Tame (world.advance moment) := tame.advance
  have free : MayConfirm (world.advance moment) := may.advance ordered
  -- Something early happened to the held delegation, so it was provoked.
  have reason : ∀ binding ∈ (world.advance moment).client.binding,
      binding.FirstHalf (world.advance moment).clock →
      provoked (world.advance moment).trace = true := by
    intro binding held half
    by_contra unprovoked
    exact free (Bool.eq_false_of_not_eq_true unprovoked) binding held half
  cases op with
  | store binding server => cases keeping
  | write query =>
      cases handled
      refine ⟨⟨now.calm, ?_⟩, now.woken, now.requested, now.wire⟩
      intro early
      cases held : (world.advance moment).client.binding with
      | none =>
          rw [held] at early
          exact False.elim early
      | some binding =>
          rw [held] at early
          cases wrote : moment.ok with
          | false =>
              rw [wrote] at early
              exact False.elim early
          | true =>
              rw [wrote] at early
              exact reason binding held early.2
  | clear =>
      cases handled
      unfold World.cleared
      cases held : (world.advance moment).client.binding with
      | none =>
          exact ⟨now.calm, now.woken, now.requested, fun _ _ none => by cases none⟩
      | some binding =>
          refine ⟨⟨now.calm, ?_⟩, now.woken, now.requested, fun _ _ none => by cases none⟩
          intro early
          exact reason binding held early
  | _ => exact tame.harmless rfl handled

def Op.waitless : Op → Bool
  | .select _ => false
  | _ => true

theorem Tokened.waitless (tokened : Tokened world) (waitless : op.waitless = true)
    (handled : handle world moment op = some (answer, after)) : Tokened after := by
  have now : Tokened (world.advance moment) := tokened.advance
  cases op with
  | select deadline => cases waitless
  | takeReleaseReq =>
      cases handled
      exact Bool.noConfusion
  | clear =>
      cases handled
      unfold World.cleared
      cases (world.advance moment).client.binding with
      | none => exact now
      | some binding => exact now
  | _ =>
      cases handled
      exact now

end Steps

/-! ### Routines that confirm, apply and drop -/

def CalmSoFar (world : World) : Prop := Calm world.trace

structure Prepared (world : World) : Prop where
  tame : Tame world
  may : MayConfirm world
  tokened : Tokened world

theorem Prepared.calm {world : World} (prepared : Prepared world) : CalmSoFar world :=
  prepared.tame.calm

/-- After a confirmation that failed, the delegation may still be dropped. -/
structure Outcome (confirmed : Bool) (world : World) : Prop where
  tame : Tame world
  tokened : Tokened world
  may : confirmed = false → MayConfirm world

theorem Prepared.outcome {world : World} (prepared : Prepared world) (confirmed : Bool) :
    Outcome confirmed world :=
  ⟨prepared.tame, prepared.tokened, fun _ => prepared.may⟩

theorem Outcome.prepared {world : World} (outcome : Outcome false world) : Prepared world :=
  ⟨outcome.tame, outcome.may rfl, outcome.tokened⟩

structure Alert (world : World) : Prop where
  tame : Tame world
  tokened : Tokened world

def Op.gentle (op : Op) : Bool := op.harmless && op.waitless

theorem alert_kept : KeptBy Op.gentle NotReadyEarly Alert := by
  intro op gentle world moment answer after alert _ handled
  obtain ⟨harmless, waitless⟩ := (Bool.and_eq_true _ _).mp gentle
  exact ⟨alert.tame.harmless harmless handled, alert.tokened.waitless waitless handled⟩

theorem perform_alert {op : Op} (gentle : op.gentle = true) :
    Keeps handle CalmSoFar NotReadyEarly Alert (perform op) :=
  keeps_perform (fun _ alert => alert.tame.calm) alert_kept gentle

def Op.steady (op : Op) : Bool := op.keeping && op.waitless

theorem prepared_kept : KeptBy Op.steady NotReadyEarly Prepared := by
  intro op steady world moment answer after prepared allowed handled
  obtain ⟨keeping, waitless⟩ := (Bool.and_eq_true _ _).mp steady
  exact ⟨prepared.tame.keeping prepared.may keeping allowed.1 handled,
    prepared.may.keeping keeping allowed.1 handled, prepared.tokened.waitless waitless handled⟩

theorem perform_prepared {op : Op} (steady : op.steady = true) :
    Keeps handle CalmSoFar NotReadyEarly Prepared (perform op) :=
  keeps_perform (fun _ => Prepared.calm) prepared_kept steady

theorem exchange_prepared (cfg : Config) (fuel : Nat) (messageType : MessageType6)
    (server : Option Duid) (expect : MessageType6) :
    Keeps handle CalmSoFar NotReadyEarly Prepared
      (exchange cfg fuel messageType server expect) := by
  apply Keeps.of_uses (exchange_uses cfg fuel messageType server expect)
    (fun _ => Prepared.calm)
  intro op exchanges
  apply prepared_kept op
  cases op <;> first | rfl | cases exchanges

theorem dropPrefix_prepared :
    Keeps handle CalmSoFar NotReadyEarly Prepared dropPrefix := by
  apply Keeps.of_uses dropPrefix_uses (fun _ => Prepared.calm)
  intro op drops
  apply prepared_kept op
  cases op <;> first | rfl | cases drops

theorem applyUsable_outcome (reply : Answer6) {world : World} (prepared : Prepared world) :
    Safe handle CalmSoFar NotReadyEarly (applyUsable reply (usablePrefix reply)) Outcome world := by
  cases usable : usablePrefix reply with
  | none => exact prepared.outcome false
  | some chosen =>
      obtain ⟨net, lifetime⟩ := chosen
      obtain ⟨seconds, wire⟩ := usablePrefix_lifetime usable
      apply Safe.perform_bind
      intro early allowed now timed handledNow
      have atNow := prepared_kept _ rfl world early now timed prepared allowed handledNow
      refine ⟨atNow.calm, ?_⟩
      apply Safe.perform_bind
      intro moment _ old stored handledStore
      have before : Tame (timed.advance moment) := atNow.tame.advance
      have token : Tokened (timed.advance moment) := atNow.tokened.advance
      cases handledStore
      have recorded : Outcome true
          ((timed.advance moment).stored ⟨net, now, now + lifetime⟩ reply.serverID) := by
        refine ⟨⟨⟨before.calm, False.elim⟩, id, token, ?_⟩, token, Bool.noConfusion⟩
        intro _ binding held
        cases held
        exact ⟨seconds, congrArg (now + ·) wire⟩
      refine ⟨recorded.tame.calm, ?_⟩
      have announced : Keeps handle CalmSoFar NotReadyEarly (Outcome true)
          (announce (timed.advance moment).client.binding ⟨net, now, now + lifetime⟩) := by
        apply Keeps.of_uses (announce_uses _ _) (fun _ outcome => outcome.tame.calm)
        intro op spoken current at_ answer after outcome _ handled
        obtain ⟨shown, ok, same⟩ := spoken
        subst same
        exact ⟨outcome.tame.harmless rfl handled, outcome.tokened.waitless rfl handled,
          Bool.noConfusion⟩
      apply Safe.bind
      apply (announced _ recorded).mono
      intro _ after outcome
      exact outcome

theorem within_outcome (procedure : Procedure) {inner : Routine Bool}
    (inside : ∀ world, Prepared world → Safe handle CalmSoFar NotReadyEarly inner Outcome world)
    {world : World} (prepared : Prepared world) :
    Safe handle CalmSoFar NotReadyEarly
      (do
        perform (.enter procedure)
        let result ← inner
        perform (.leave procedure)
        pure result)
      Outcome world := by
  apply Safe.bind
  apply (perform_prepared rfl world prepared).mono
  intro _ begun begunPrepared
  apply Safe.bind
  apply (inside begun begunPrepared).mono
  intro result current outcome moment allowed _ after handled
  have left : Outcome result after :=
    ⟨outcome.tame.harmless rfl handled, outcome.tokened.waitless rfl handled,
      fun failed => (outcome.may failed).keeping rfl allowed.1 handled⟩
  exact ⟨left.tame.calm, left⟩

theorem applyReply_outcome (reply : Answer6) {world : World} (prepared : Prepared world) :
    Safe handle CalmSoFar NotReadyEarly (applyReply reply) Outcome world :=
  within_outcome .applyReply (fun _ => applyUsable_outcome reply) prepared

theorem exchangeAndApply_outcome (cfg : Config) (fuel : Nat) (messageType : MessageType6)
    (server : Option Duid) {world : World} (prepared : Prepared world) :
    Safe handle CalmSoFar NotReadyEarly (exchangeAndApply cfg fuel messageType server) Outcome
      world := by
  apply Safe.bind
  apply (exchange_prepared cfg fuel messageType server .reply world prepared).mono
  intro reply after still
  cases reply with
  | none => exact still.outcome false
  | some reply => exact applyReply_outcome reply still

theorem marked_prepared {Result : Type} {rest : Routine Result} {Post : Result → World → Prop}
    (state : ClientState) {world : World} (prepared : Prepared world)
    (continues : ∀ begun, Prepared begun →
      Safe handle CalmSoFar NotReadyEarly rest Post begun) :
    Safe handle CalmSoFar NotReadyEarly
      (do
        perform (.setState state)
        perform .markStart
        rest)
      Post world := by
  apply Safe.bind
  apply (perform_prepared rfl world prepared).mono
  intro _ named namedPrepared
  apply Safe.bind
  apply (perform_prepared rfl named namedPrepared).mono
  intro _ begun begunPrepared
  exact continues begun begunPrepared

theorem marked_outcome (state : ClientState) (cfg : Config) (fuel : Nat)
    (messageType : MessageType6) (server : Option Duid) {world : World}
    (prepared : Prepared world) :
    Safe handle CalmSoFar NotReadyEarly
      (do
        perform (.setState state)
        perform .markStart
        exchangeAndApply cfg fuel messageType server)
      Outcome world := by
  apply marked_prepared state prepared
  intro begun begunPrepared
  exact exchangeAndApply_outcome cfg fuel messageType server begunPrepared

theorem confirmExisting_outcome (cfg : Config) (fuel : Nat) {world : World}
    (prepared : Prepared world) :
    Safe handle CalmSoFar NotReadyEarly (confirmExisting cfg fuel) Outcome world := by
  apply Safe.bind
  apply (perform_prepared rfl world prepared).mono
  intro held loaded loadedPrepared
  have renewed : Safe handle CalmSoFar NotReadyEarly (confirmByRenew cfg fuel held.serverDUID)
      Outcome loaded := by
    cases held.serverDUID with
    | none => exact loadedPrepared.outcome false
    | some server => exact marked_outcome .renewing cfg fuel .renew (some server) loadedPrepared
  apply Safe.bind
  apply renewed.mono
  intro confirmed after outcome
  cases confirmed with
  | true => exact outcome
  | false => exact marked_outcome .rebinding cfg fuel .rebind none outcome.prepared

theorem solicit_outcome (cfg : Config) (fuel : Nat) {world : World} (prepared : Prepared world) :
    Safe handle CalmSoFar NotReadyEarly (solicit cfg fuel) Outcome world := by
  apply marked_prepared .soliciting prepared
  intro begun begunPrepared
  apply Safe.bind
  apply (exchange_prepared cfg fuel .solicit none .advertise begun begunPrepared).mono
  intro advertised after still
  cases advertised with
  | none => exact still.outcome false
  | some adv =>
      dsimp only
      cases adv.serverID with
      | none => exact still.outcome false
      | some server =>
          apply Safe.bind
          apply (perform_prepared rfl after still).mono
          intro _ requesting requestingPrepared
          exact exchangeAndApply_outcome cfg fuel .request (some server) requestingPrepared

theorem acquireFresh_outcome (cfg : Config) (fuel : Nat) {world : World}
    (prepared : Prepared world) :
    Safe handle CalmSoFar NotReadyEarly (acquireFresh cfg fuel) Outcome world :=
  within_outcome .acquireFresh (fun _ => solicit_outcome cfg fuel) prepared

theorem dropPrefix_done {world : World} (prepared : Prepared world) :
    Safe handle CalmSoFar NotReadyEarly dropPrefix
      (fun _ after => Prepared after ∧ after.client.binding = none) world :=
  (dropPrefix_prepared world prepared).and (fun _ calm _ => calm) (dropPrefix_empties world)

/-! ### The bound loop -/

/-- `boundLoop` returns because the client was stopped or holds nothing any more. -/
def Finished (world : World) : Prop :=
  world.client.done = true ∨ world.client.binding = none

theorem sleep_tame (duration : Duration) {world : World} (tame : Tame world) :
    Safe handle CalmSoFar NotReadyEarly (sleep duration)
      (fun awake after => Tame after ∧ (awake = false → after.client.done = true)) world := by
  apply Safe.perform_bind
  intro early _ begun timed handledNow
  have atNow : Tame timed := tame.harmless rfl handledNow
  refine ⟨atNow.calm, ?_⟩
  intro moment _ awake after handled
  have woken : Tame after := atNow.harmless rfl handled
  refine ⟨woken.calm, woken, ?_⟩
  intro asleep
  rcases World.select_cases handled with ⟨_, stopped, same⟩ | ⟨taken, _, _⟩ | ⟨fired, _, _⟩
  · rw [same]
    exact stopped
  · rw [asleep] at taken
    cases taken
  · rw [asleep] at fired
    cases fired

theorem maybeRelease_tame (cfg : Config) (fuel : Nat) {world : World} (tame : Tame world) :
    Safe handle CalmSoFar NotReadyEarly (maybeRelease cfg fuel)
      (fun released after => Alert after ∧ (released = true → after.client.binding = none))
      world := by
  apply Safe.perform_bind
  intro moment _ requested taken handled
  have after : Tame taken := tame.harmless rfl handled
  refine ⟨after.calm, ?_⟩
  have before : Tame (world.advance moment) := tame.advance
  cases handled
  have token : Tokened
      { (world.advance moment) with
        client := { (world.advance moment).client with releaseReq := false } } :=
    Bool.noConfusion
  cases asked : (world.advance moment).client.releaseReq with
  | false => exact ⟨⟨after, token⟩, Bool.noConfusion⟩
  | true =>
      have prepared : Prepared _ :=
        ⟨after, mayConfirm_of_provoked (before.requested asked), token⟩
      apply Safe.bind
      apply (perform_prepared rfl _ prepared).mono
      intro held loaded loadedPrepared
      cases held.binding with
      | none => exact ⟨⟨loadedPrepared.tame, loadedPrepared.tokened⟩, Bool.noConfusion⟩
      | some binding =>
          have released : Keeps handle CalmSoFar NotReadyEarly Prepared
              (sendRelease cfg fuel held.serverDUID) := by
            cases held.serverDUID with
            | none => exact Keeps.ret ()
            | some server =>
                apply Keeps.bind (perform_prepared rfl)
                intro _
                apply Keeps.bind (perform_prepared rfl)
                intro _
                apply Keeps.bind (exchange_prepared cfg fuel .release (some server) .reply)
                intro _
                exact Keeps.ret ()
          apply Safe.bind
          apply (released loaded loadedPrepared).mono
          intro _ sent sentPrepared
          apply Safe.bind
          apply (dropPrefix_done sentPrepared).mono
          intro _ dropped finished
          exact ⟨⟨finished.1.tame, finished.1.tokened⟩, fun _ => finished.2⟩

def TurnEnds (result : Option Bool) (world : World) : Prop :=
  Tame world ∧ (result = none ∨ Finished world)

theorem dropAndReturn_ends {world : World} (prepared : Prepared world) :
    Safe handle CalmSoFar NotReadyEarly (do dropPrefix; pure (some true)) TurnEnds world := by
  apply Safe.bind
  apply (dropPrefix_done prepared).mono
  intro _ dropped finished
  exact ⟨finished.1.tame, Or.inr (Or.inr finished.2)⟩

/-- A link that is found ready permits a confirmation: the client was provoked, or
the first half is over. -/
theorem mayConfirm_of_ready {world after : World} {moment : Moment}
    (allowed : NotReadyEarly world (.uplinkReady .bound) moment)
    (handled : handle world moment (.uplinkReady .bound) = some (true, after)) :
    MayConfirm after := by
  obtain ⟨ready, reached⟩ := Prod.mk.inj (Option.some.inj handled)
  rw [← reached]
  intro unprovoked binding held half
  rw [(world.advance_passes moment).binding] at held
  rw [World.advance_clock] at half
  have notReady := allowed.2 rfl unprovoked binding held half
  rw [ready] at notReady
  cases notReady

theorem confirmEarly_ends (cfg : Config) (fuel : Nat) (binding : Binding) {world : World}
    (alert : Alert world) :
    Safe handle CalmSoFar NotReadyEarly (confirmEarly cfg fuel binding) TurnEnds world := by
  apply Safe.bind
  apply (perform_alert rfl world alert).mono
  intro current loaded loadedAlert
  cases current.binding with
  | none => exact ⟨loadedAlert.tame, Or.inl rfl⟩
  | some _ =>
      apply Safe.bind
      apply (perform_alert rfl loaded loadedAlert).mono
      intro now read readAlert
      split
      · apply Safe.perform_bind
        intro moment allowed ready looked handled
        have lookedAlert := alert_kept _ rfl read moment ready looked readAlert allowed handled
        refine ⟨lookedAlert.tame.calm, ?_⟩
        cases ready with
        | false => exact ⟨lookedAlert.tame, Or.inl rfl⟩
        | true =>
            have prepared : Prepared looked :=
              ⟨lookedAlert.tame, mayConfirm_of_ready allowed handled, lookedAlert.tokened⟩
            apply Safe.bind
            apply (confirmExisting_outcome cfg fuel prepared).mono
            intro confirmed after outcome
            cases confirmed with
            | true => exact ⟨outcome.tame, Or.inl rfl⟩
            | false => exact dropAndReturn_ends outcome.prepared
      · exact ⟨readAlert.tame, Or.inl rfl⟩

theorem beforeT1_ends (cfg : Config) (fuel : Nat) (binding : Binding) {world : World}
    (alert : Alert world) :
    Safe handle CalmSoFar NotReadyEarly (beforeT1 cfg fuel binding) TurnEnds world := by
  apply Safe.bind
  apply (perform_alert rfl world alert).mono
  intro begun timed timedAlert
  apply Safe.bind
  apply (sleep_tame _ timedAlert.tame).mono
  intro awake slept woken
  cases awake with
  | false => exact ⟨woken.1, Or.inr (Or.inl (woken.2 rfl))⟩
  | true =>
      apply Safe.bind
      apply (maybeRelease_tame cfg fuel woken.1).mono
      intro released checked unreleased
      cases released with
      | true => exact ⟨unreleased.1.tame, Or.inr (Or.inr (unreleased.2 rfl))⟩
      | false => exact confirmEarly_ends cfg fuel binding unreleased.1

theorem afterT1_ends (cfg : Config) (fuel : Nat) (binding : Binding) (server : Option Duid)
    (now : Instant) {world : World} (prepared : Prepared world) :
    Safe handle CalmSoFar NotReadyEarly (afterT1 cfg fuel binding server now) TurnEnds world := by
  unfold afterT1
  split
  · exact dropAndReturn_ends prepared
  · apply marked_prepared _ prepared
    intro begun begunPrepared
    apply Safe.bind
    apply (exchangeAndApply_outcome cfg fuel _ _ begunPrepared).mono
    intro confirmed after outcome
    cases confirmed with
    | true => exact ⟨outcome.tame, Or.inl rfl⟩
    | false =>
        apply Safe.bind
        apply (perform_prepared rfl after outcome.prepared).mono
        intro late read readPrepared
        split
        · exact dropAndReturn_ends readPrepared
        · exact ⟨readPrepared.tame, Or.inl rfl⟩

theorem mayConfirm_of_t1 {world : World} {binding : Binding} (tame : Tame world)
    (held : world.client.binding = some binding) (late : ¬ world.clock < binding.t1At) :
    MayConfirm world := by
  intro unprovoked other same half
  rw [held] at same
  cases same
  have wire := tame.wire unprovoked binding held
  exact late ((wire.firstHalf_iff world.clock).mp half)

theorem heldTurn_ends (cfg : Config) (fuel : Nat) (binding : Binding) (server : Option Duid)
    {world : World} (alert : Alert world) (held : world.client.binding = some binding) :
    Safe handle CalmSoFar NotReadyEarly (heldTurn cfg fuel binding server) TurnEnds world := by
  apply Safe.perform_bind
  intro naming allowed _ named handledName
  have namedAlert := alert_kept _ rfl world naming _ named alert allowed handledName
  have namedHeld := (handle_passes rfl handledName).binding.trans held
  refine ⟨namedAlert.tame.calm, ?_⟩
  apply Safe.perform_bind
  intro moment permitted now read handled
  have readAlert := alert_kept _ rfl named moment now read namedAlert permitted handled
  have readHeld := (handle_passes rfl handled).binding.trans namedHeld
  refine ⟨readAlert.tame.calm, ?_⟩
  split
  · exact beforeT1_ends cfg fuel binding readAlert
  · next late =>
      have may : MayConfirm read := by
        apply mayConfirm_of_t1 readAlert.tame readHeld
        cases handled
        exact late
      exact afterT1_ends cfg fuel binding server now ⟨readAlert.tame, may, readAlert.tokened⟩

theorem boundTurn_ends (cfg : Config) (fuel : Nat) {world : World} (tame : Tame world) :
    Safe handle CalmSoFar NotReadyEarly (boundTurn cfg fuel) TurnEnds world := by
  apply Safe.perform_bind
  intro moment _ stopped asked handled
  have askedTame : Tame asked := tame.harmless rfl handled
  refine ⟨askedTame.calm, ?_⟩
  cases stopped with
  | true =>
      obtain ⟨done, same⟩ := Prod.mk.inj (Option.some.inj handled)
      rw [same] at done
      exact ⟨askedTame, Or.inr (Or.inl done)⟩
  | false =>
      apply Safe.bind
      apply (maybeRelease_tame cfg fuel askedTame).mono
      intro released checked unreleased
      cases released with
      | true => exact ⟨unreleased.1.tame, Or.inr (Or.inr (unreleased.2 rfl))⟩
      | false =>
          apply Safe.perform_bind
          intro loading allowed held loaded handledLoad
          have loadedAlert := alert_kept _ rfl checked loading held loaded unreleased.1 allowed
            handledLoad
          refine ⟨loadedAlert.tame.calm, ?_⟩
          cases handledLoad
          dsimp only
          cases binds : (checked.advance loading).client.binding with
          | none => exact ⟨loadedAlert.tame, Or.inr (Or.inr binds)⟩
          | some binding => exact heldTurn_ends cfg fuel binding _ loadedAlert binds

theorem boundLoop_finished (cfg : Config) (fuel : Nat) {world : World} (tame : Tame world) :
    Safe handle CalmSoFar NotReadyEarly (boundLoop cfg fuel)
      (fun _ after => Tame after ∧ Finished after) world := by
  induction fuel generalizing world with
  | zero => trivial
  | succ fuel ih =>
      apply Safe.bind
      apply (boundTurn_ends cfg fuel tame).mono
      intro result after ends
      cases result with
      | none => exact ih ends.1
      | some value => exact ⟨ends.1, ends.2.resolve_left (Option.some_ne_none value)⟩

/-! ### Sessions -/

structure BetweenTurns (world : World) : Prop where
  tame : Tame world
  free : world.client.done = true ∨ MayConfirm world

theorem BetweenTurns.of_finished {world : World} (tame : Tame world) (finished : Finished world) :
    BetweenTurns world := by
  refine ⟨tame, ?_⟩
  rcases finished with stopped | empty
  · exact Or.inl stopped
  · exact Or.inr (mayConfirm_of_empty empty)

theorem World.advance_done {world : World} (moment : Moment)
    (stopped : world.client.done = true) : (world.advance moment).client.done = true := by
  apply World.advance_invariant (fun after => after.client.done = true)
  · exact stopped
  · intro current call before
    cases call with
    | stop => rfl
    | _ => exact before

theorem betweenTurns_kept : KeptBy Op.idle NotReadyEarly BetweenTurns := by
  intro op idle world moment answer after between allowed handled
  have idles := World.answer_idles idle handled
  refine ⟨between.tame.advance.idles idles, ?_⟩
  rcases between.free with stopped | may
  · exact Or.inl (idles.done.trans (world.advance_done moment stopped))
  · exact Or.inr ((may.advance allowed.1).idles idles)

theorem sleep_between (duration : Duration) :
    Keeps handle CalmSoFar NotReadyEarly BetweenTurns (sleep duration) :=
  keeps_sleep (fun _ between => between.tame.calm) betweenTurns_kept duration

theorem boundLoop_between (cfg : Config) (fuel : Nat) {world : World} (tame : Tame world) :
    Safe handle CalmSoFar NotReadyEarly (boundLoop cfg fuel) (fun _ => BetweenTurns) world := by
  apply (boundLoop_finished cfg fuel tame).mono
  intro _ after finished
  exact .of_finished finished.1 finished.2

theorem sessionAcquire_between (cfg : Config) (fuel : Nat) {world : World}
    (prepared : Prepared world) :
    Safe handle CalmSoFar NotReadyEarly (sessionAcquire cfg fuel) (fun _ => BetweenTurns)
      world := by
  apply Safe.bind
  apply (acquireFresh_outcome cfg fuel prepared).mono
  intro acquired after outcome
  cases acquired with
  | true => exact boundLoop_between cfg fuel outcome.tame
  | false =>
      have between : BetweenTurns after := ⟨outcome.tame, Or.inr (outcome.may rfl)⟩
      exact Keeps.bind (sleep_between _) (fun _ => Keeps.ret false) after between

theorem sessionConfirm_between (cfg : Config) (fuel : Nat) {world : World}
    (prepared : Prepared world) :
    Safe handle CalmSoFar NotReadyEarly (sessionConfirm cfg fuel) (fun _ => BetweenTurns)
      world := by
  apply Safe.bind
  apply (perform_prepared rfl world prepared).mono
  intro ready looked lookedPrepared
  cases ready with
  | false => exact sleep_between second looked ⟨lookedPrepared.tame, Or.inr lookedPrepared.may⟩
  | true =>
      apply Safe.bind
      apply (confirmExisting_outcome cfg fuel lookedPrepared).mono
      intro confirmed after outcome
      cases confirmed with
      | true => exact boundLoop_between cfg fuel outcome.tame
      | false =>
          apply Safe.bind
          apply (dropPrefix_done outcome.prepared).mono
          intro _ dropped finished
          exact sessionAcquire_between cfg fuel finished.1

def Confirmable (world : World) : Prop := Tame world ∧ MayConfirm world

theorem confirmable_kept : KeptBy Op.keeping NotReadyEarly Confirmable := by
  intro op keeping world moment answer after both allowed handled
  exact ⟨both.1.keeping both.2 keeping allowed.1 handled,
    both.2.keeping keeping allowed.1 handled⟩

theorem maybeRelease_prepared (cfg : Config) (fuel : Nat) {world : World} (tame : Tame world)
    (may : MayConfirm world) :
    Safe handle CalmSoFar NotReadyEarly (maybeRelease cfg fuel) (fun _ => Prepared) world := by
  have calm : ∀ state, Confirmable state → CalmSoFar state := fun _ both => both.1.calm
  have aside : KeptBy Op.aside NotReadyEarly Confirmable := by
    intro op aside
    apply confirmable_kept op
    cases op <;> first | rfl | cases aside
  have drops : Keeps handle CalmSoFar NotReadyEarly Confirmable dropPrefix := by
    apply Keeps.of_uses dropPrefix_uses calm
    intro op dropping
    apply confirmable_kept op
    cases op <;> first | rfl | cases dropping
  have free := keeps_maybeRelease calm aside drops cfg fuel world ⟨tame, may⟩
  apply ((maybeRelease_tame cfg fuel tame).and (fun _ calm _ => calm) free).mono
  intro _ after reached
  exact ⟨reached.2.1, reached.2.2, reached.1.1.tokened⟩

theorem sessionTurn_between (cfg : Config) (fuel : Nat) :
    Keeps handle CalmSoFar NotReadyEarly BetweenTurns (sessionTurn cfg fuel) := by
  intro world between
  apply Safe.perform_bind
  intro moment allowed stopped asked handled
  have askedBetween := betweenTurns_kept _ rfl world moment stopped asked between allowed handled
  refine ⟨askedBetween.tame.calm, ?_⟩
  cases stopped with
  | true => exact askedBetween
  | false =>
      -- Not stopped, so what is held may be confirmed.
      have running : asked.client.done = false := by
        obtain ⟨done, same⟩ := Prod.mk.inj (Option.some.inj handled)
        rw [same] at done
        exact done
      have may : MayConfirm asked := by
        apply askedBetween.free.resolve_left
        rw [running]
        exact Bool.noConfusion
      apply Safe.bind
      apply (maybeRelease_prepared cfg fuel askedBetween.tame may).mono
      intro released checked prepared
      cases released with
      | true => exact ⟨prepared.tame, Or.inr prepared.may⟩
      | false =>
          apply Safe.bind
          apply (perform_prepared rfl checked prepared).mono
          intro held loaded loadedPrepared
          cases held.binding with
          | none => exact sessionAcquire_between cfg fuel loadedPrepared
          | some binding =>
              apply Safe.bind
              apply (perform_prepared rfl loaded loadedPrepared).mono
              intro now read readPrepared
              split
              · exact sessionConfirm_between cfg fuel readPrepared
              · exact sessionAcquire_between cfg fuel readPrepared

/-! ### Every run -/

/-- In a run in which `boundLoop` does not find the link ready before T1 unless it
was provoked, nothing is sent or dropped early without a provocation. -/
theorem early_confirmation_provoked (cfg : Config) (fuel : Nat) (client : Client)
    (clock : Instant) (moments : List Moment)
    (notReady : Permitted handle NotReadyEarly (start cfg fuel) (World.start client clock) moments) :
    Calm (exec handle (start cfg fuel) (World.start client clock) moments).trace := by
  have initially : BetweenTurns (World.start client clock) :=
    ⟨⟨trivial, fun _ => rfl, fun _ => rfl, Bool.noConfusion⟩,
      Or.inr (mayConfirm_of_provoked rfl)⟩
  have silent : CalmSoFar (World.start client clock) := trivial
  have kept : Keeps handle CalmSoFar NotReadyEarly BetweenTurns (start cfg fuel) :=
    keeps_run (fun _ between => between.tame.calm) betweenTurns_kept
      (sessionTurn_between cfg.normalize) fuel
  exact exec_of_safe _ _ moments silent (kept _ initially) notReady

/-- The client acquires a delegation at zero and waits.  The timer fires after a
minute, and the link is then ready or not. -/
def sampleMinute (ready : Bool) : List Moment :=
  List.replicate 15 (quiet 0 true) ++ hears 0 (sampleAnswer .advertise) ::
    (List.replicate 7 (quiet 0 true) ++ hears 0 (sampleAnswer .reply) ::
      (List.replicate 13 (quiet 0 true) ++ List.replicate 4 (quiet minute true) ++
        List.replicate 8 (quiet minute ready)))

def sampleBound (ready : Bool) : World :=
  exec handle (start sampleConfig 6) (World.start Client.new 0) (sampleMinute ready)

/-- While the link is not ready the client just waits on. -/
theorem early_confirmation_provoked_waiting :
    Permitted handle NotReadyEarly (start sampleConfig 6) (World.start Client.new 0)
        (sampleMinute false) ∧
      (sampleBound false).client.binding ≠ none ∧ Calm (sampleBound false).trace := by
  have permitted : Permitted handle NotReadyEarly (start sampleConfig 6) (World.start Client.new 0)
      (sampleMinute false) := by decide +kernel
  refine ⟨permitted, by decide +kernel, ?_⟩
  exact early_confirmation_provoked sampleConfig 6 Client.new 0 (sampleMinute false) permitted

/-- Nobody has called anything, the delegation is valid for four hours, and after
one minute the client sends a RENEW. -/
theorem quiet_client_renews_after_minute :
    (∀ moment ∈ sampleMinute true, moment.calls = []) ∧ ¬ Calm (sampleBound true).trace := by
  refine ⟨by decide, ?_⟩
  intro calm
  exact absurd (calm.2 ⟨Or.inl rfl, by decide⟩) (by decide)

end BridgeDhcp.Pd
