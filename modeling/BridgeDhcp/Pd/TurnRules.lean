/-
The turns of the client's loops, with the past in view.

Both loops look for a release request, then confirm a held delegation or let it
expire, and otherwise acquire one.  A delegation is dropped in three places: for a
request, after a confirmation that failed, and at expiry.  The rules below ask for
one fact at each of these places and follow the loops once for all properties of
the past.
-/

import BridgeDhcp.InteractionHistory
import BridgeDhcp.Pd.RoutineRules

set_option autoImplicit false

namespace BridgeDhcp.Pd

open Netip GoTime Packet Interaction

abbrev Past := List (Step World Moment Op)

abbrev Recorded := World × Past

/-! ### Conversations -/

/-- The operations between two looks at the requests, the link and the timer, except
dropping. -/
def Op.converses : Op → Bool
  | .select _ => false
  | .openSocket => false
  | .uplinkReady _ => false
  | .takeReleaseReq => false
  | .clear => false
  | _ => true

def Converses {Value : Type} (routine : Routine Value) : Prop :=
  Uses (fun op => op.converses = true) routine

theorem exchange_converses (cfg : Config) (fuel : Nat) (messageType : MessageType6)
    (server : Option Duid) (expect : MessageType6) :
    Converses (exchange cfg fuel messageType server expect) := by
  apply (exchange_uses cfg fuel messageType server expect).mono
  intro op exchanges
  cases op <;> first | rfl | cases exchanges

theorem perform_converses {op : Op} (converses : op.converses = true) : Converses (perform op) :=
  Uses.perform converses

theorem applyReply_converses (reply : Answer6) : Converses (applyReply reply) := by
  have announced : ∀ old binding, Converses (announce old binding) := by
    intro old binding
    apply (announce_uses old binding).mono
    intro op spoken
    obtain ⟨net, ok, same⟩ := spoken
    rw [same]
    rfl
  have applied : Converses (applyUsable reply (usablePrefix reply)) := by
    cases usablePrefix reply with
    | none => trivial
    | some chosen =>
        refine Uses.bind (perform_converses rfl) ?_
        intro now
        refine Uses.bind (perform_converses rfl) ?_
        intro old
        apply Uses.bind (announced old _)
        intro _
        trivial
  refine Uses.bind (perform_converses rfl) ?_
  intro _
  apply Uses.bind applied
  intro _
  refine Uses.bind (perform_converses rfl) ?_
  intro _
  trivial

theorem exchangeAndApply_converses (cfg : Config) (fuel : Nat) (messageType : MessageType6)
    (server : Option Duid) : Converses (exchangeAndApply cfg fuel messageType server) := by
  apply Uses.bind (exchange_converses cfg fuel messageType server .reply)
  intro reply
  cases reply with
  | none => trivial
  | some reply => exact applyReply_converses reply

theorem confirmByRenew_converses (cfg : Config) (fuel : Nat) (server : Option Duid) :
    Converses (confirmByRenew cfg fuel server) := by
  cases server with
  | none => trivial
  | some server =>
      refine Uses.bind (perform_converses rfl) ?_
      intro _
      refine Uses.bind (perform_converses rfl) ?_
      intro _
      exact exchangeAndApply_converses cfg fuel .renew (some server)

theorem confirmExisting_converses (cfg : Config) (fuel : Nat) :
    Converses (confirmExisting cfg fuel) := by
  refine Uses.bind (perform_converses rfl) ?_
  intro held
  apply Uses.bind (confirmByRenew_converses cfg fuel held.serverDUID)
  intro confirmed
  cases confirmed with
  | true => trivial
  | false =>
      refine Uses.bind (perform_converses rfl) ?_
      intro _
      refine Uses.bind (perform_converses rfl) ?_
      intro _
      exact exchangeAndApply_converses cfg fuel .rebind none

theorem sendRelease_converses (cfg : Config) (fuel : Nat) (server : Option Duid) :
    Converses (sendRelease cfg fuel server) := by
  cases server with
  | none => trivial
  | some server =>
      refine Uses.bind (perform_converses rfl) ?_
      intro _
      refine Uses.bind (perform_converses rfl) ?_
      intro _
      apply Uses.bind (exchange_converses cfg fuel .release (some server) .reply)
      intro _
      trivial

theorem acquireFresh_converses (cfg : Config) (fuel : Nat) : Converses (acquireFresh cfg fuel) := by
  have solicited : Converses (solicit cfg fuel) := by
    refine Uses.bind (perform_converses rfl) ?_
    intro _
    refine Uses.bind (perform_converses rfl) ?_
    intro _
    apply Uses.bind (exchange_converses cfg fuel .solicit none .advertise)
    intro advertised
    cases advertised with
    | none => trivial
    | some adv =>
        dsimp only
        cases adv.serverID with
        | none => trivial
        | some server =>
            refine Uses.bind (perform_converses rfl) ?_
            intro _
            exact exchangeAndApply_converses cfg fuel .request (some server)
  refine Uses.bind (perform_converses rfl) ?_
  intro _
  apply Uses.bind solicited
  intro _
  refine Uses.bind (perform_converses rfl) ?_
  intro _
  trivial

/-! ### What an attempt in vain leaves alone -/

theorem applyReply_refused (Allowed : World → Op → Moment → Prop) (reply : Answer6)
    (world : World) :
    Safe handle (fun _ => True) Allowed (applyReply reply)
      (fun applied after => applied = false →
        usablePrefix reply = none ∧ after.client.binding = world.client.binding)
      world := by
  apply Safe.perform_bind
  intro moment _ _ begun handledEnter
  cases handledEnter
  refine ⟨trivial, ?_⟩
  apply Safe.bind
  cases usable : usablePrefix reply with
  | none =>
      intro late _ _ left handledLeave
      cases handledLeave
      refine ⟨trivial, ?_⟩
      intro _
      exact ⟨rfl, (World.advance_passes _ late).binding.trans (world.advance_passes moment).binding⟩
  | some chosen =>
      -- A usable REPLY is applied, so nothing is asked here.
      apply Safe.bind
      apply safe_of_forall (fun _ => trivial)
      intro now timed
      apply Safe.bind
      apply safe_of_forall (fun _ => trivial)
      intro old stored
      apply Safe.bind
      apply safe_of_forall (fun _ => trivial)
      intro _ announced late _ _ left _
      exact ⟨trivial, Bool.noConfusion⟩

theorem exchangeAndApply_unchanged (Allowed : World → Op → Moment → Prop) (cfg : Config)
    (fuel : Nat) (messageType : MessageType6) (server : Option Duid) (world : World) :
    Safe handle (fun _ => True) Allowed (exchangeAndApply cfg fuel messageType server)
      (fun applied after => applied = false → after.client.binding = world.client.binding)
      world := by
  have talked : Keeps handle (fun _ => True) Allowed
      (fun after => after.client.binding = world.client.binding)
      (exchange cfg fuel messageType server .reply) := by
    apply Keeps.of_uses (exchange_uses cfg fuel messageType server .reply) (fun _ _ => trivial)
    intro op exchanges current moment answer after same _ handled
    exact (handle_passes (Op.aside_of_exchanges exchanges) handled).binding.trans same
  apply Safe.bind
  apply (talked world rfl).mono
  intro reply after same
  cases reply with
  | none => exact fun _ => same
  | some reply =>
      apply (applyReply_refused Allowed reply after).mono
      intro applied last refused failed
      exact (refused failed).2.trans same

/-! ### The rules -/

/-- What has to be known of a property to follow the loops: what holds at any
time, what holds while no request is served, what a ready link gives, and when a
delegation may be dropped. -/
structure TurnRules (cfg : Config) (Holds : Recorded → Prop)
    (Allowed : World → Op → Moment → Prop)
    (Between Settled Ready Droppable : Recorded → Prop) : Prop where
  implies : ∀ state, Between state → Holds state
  weaken : ∀ state, Settled state → Between state
  idle : KeptUnder (recorded handle) Op.idle (fun state => Allowed state.1) Between
  converses : KeptUnder (recorded handle) Op.converses (fun state => Allowed state.1) Settled
  looks : ∀ site state, Settled state →
    Safe (recorded handle) Holds (fun state => Allowed state.1) (perform (.uplinkReady site))
      (fun ready after => Settled after ∧ (ready = true → Ready after)) state
  releases : ∀ fuel state, Between state →
    Safe (recorded handle) Holds (fun state => Allowed state.1) (maybeRelease cfg fuel)
      (fun released after => Between after ∧ (released = false → Settled after)) state
  confirms : ∀ fuel state, Settled state → Ready state →
    Safe (recorded handle) Holds (fun state => Allowed state.1) (confirmExisting cfg fuel)
      (fun confirmed after => Settled after ∧ (confirmed = false → Droppable after)) state
  drops : ∀ state, Settled state → Droppable state →
    Safe (recorded handle) Holds (fun state => Allowed state.1) dropPrefix
      (fun _ => Settled) state
  expires : ∀ state binding, Settled state → state.1.client.binding = some binding →
    binding.expiresAt < state.1.clock → Droppable state

namespace TurnRules

variable {cfg : Config} {Holds : Recorded → Prop} {Allowed : World → Op → Moment → Prop}
  {Between Settled Ready Droppable : Recorded → Prop}
  (rules : TurnRules cfg Holds Allowed Between Settled Ready Droppable)

include rules

theorem settled_holds (state : Recorded) (settled : Settled state) : Holds state :=
  rules.implies state (rules.weaken state settled)

theorem keeps_idle {op : Op} (idle : op.idle = true) :
    Keeps (recorded handle) Holds (fun state => Allowed state.1) Between (perform op) :=
  keeps_perform rules.implies rules.idle idle

theorem keeps_conversing {Value : Type} {routine : Routine Value}
    (converses : Converses routine) :
    Keeps (recorded handle) Holds (fun state => Allowed state.1) Settled routine :=
  Keeps.of_uses converses rules.settled_holds rules.converses

theorem keeps_settled {op : Op} (converses : op.converses = true) :
    Keeps (recorded handle) Holds (fun state => Allowed state.1) Settled (perform op) :=
  rules.keeps_conversing (perform_converses converses)

theorem load_settled {Value : Type} {next : Held → Routine Value}
    {post : Value → Recorded → Prop} {state : Recorded} (settled : Settled state)
    (continues : ∀ after : Recorded, Settled after →
      Safe (recorded handle) Holds (fun state => Allowed state.1)
        (next ⟨after.1.client.binding, after.1.client.serverDUID⟩) post after) :
    Safe (recorded handle) Holds (fun state => Allowed state.1) (perform .load >>= next) post
      state := by
  apply Safe.perform_bind
  intro moment allowed held after answered
  have still := rules.converses .load rfl state moment held after settled allowed answered
  refine ⟨rules.settled_holds after still, ?_⟩
  obtain ⟨handled, _⟩ := recorded_cases answered
  obtain ⟨same, here⟩ := Prod.mk.inj (Option.some.inj handled)
  rw [← same, here]
  exact continues after still

theorem now_settled {Value : Type} {site : Site} {binding : Binding}
    {next : Instant → Routine Value} {post : Value → Recorded → Prop} {state : Recorded}
    (settled : Settled state) (held : state.1.client.binding = some binding)
    (continues : ∀ after : Recorded, Settled after → after.1.client.binding = some binding →
      Safe (recorded handle) Holds (fun state => Allowed state.1) (next after.1.clock) post
        after) :
    Safe (recorded handle) Holds (fun state => Allowed state.1)
      (perform (.now site) >>= next) post state := by
  apply Safe.perform_bind
  intro moment allowed now after answered
  have still := rules.converses (.now site) rfl state moment now after settled allowed answered
  refine ⟨rules.settled_holds after still, ?_⟩
  obtain ⟨handled, _⟩ := recorded_cases answered
  have passed := handle_passes rfl handled
  obtain ⟨same, here⟩ := Prod.mk.inj (Option.some.inj handled)
  rw [← same, here]
  exact continues after still (passed.binding.trans held)

theorem confirmEarly_settled (fuel : Nat) (binding : Binding) {state : Recorded}
    (settled : Settled state) :
    Safe (recorded handle) Holds (fun state => Allowed state.1)
      (confirmEarly cfg fuel binding) (fun _ => Settled) state := by
  apply rules.load_settled settled
  intro loaded loadedSettled
  dsimp only
  cases loaded.1.client.binding with
  | none => exact loadedSettled
  | some current =>
      apply Safe.bind
      apply (rules.keeps_settled rfl loaded loadedSettled).mono
      intro now timed timedSettled
      split
      · apply Safe.bind
        apply (rules.looks .bound timed timedSettled).mono
        intro ready looked lookedSettled
        cases ready with
        | false => exact lookedSettled.1
        | true =>
            apply Safe.bind
            apply (rules.confirms fuel looked lookedSettled.1 (lookedSettled.2 rfl)).mono
            intro confirmed after outcome
            cases confirmed with
            | true => exact outcome.1
            | false =>
                apply Safe.bind
                apply (rules.drops after outcome.1 (outcome.2 rfl)).mono
                intro _ dropped still
                exact still
      · exact timedSettled

theorem attempt_settled {Value : Type} (fuel : Nat) (clientState : ClientState)
    (messageType : MessageType6) (server : Option Duid) {binding : Binding}
    {next : Bool → Routine Value} {post : Value → Recorded → Prop} {state : Recorded}
    (settled : Settled state) (held : state.1.client.binding = some binding)
    (continues : ∀ applied (after : Recorded), Settled after →
      (applied = false → after.1.client.binding = some binding) →
      Safe (recorded handle) Holds (fun state => Allowed state.1) (next applied) post after) :
    Safe (recorded handle) Holds (fun state => Allowed state.1)
      (do
        perform (.setState clientState)
        perform .markStart
        let applied ← exchangeAndApply cfg fuel messageType server
        next applied)
      post state := by
  apply Safe.perform_bind
  intro early allowedState _ stated answeredState
  have statedSettled := rules.converses _ rfl state early () stated settled allowedState
    answeredState
  refine ⟨rules.settled_holds stated statedSettled, ?_⟩
  apply Safe.perform_bind
  intro moment allowedStart _ begun answeredStart
  have begunSettled := rules.converses _ rfl stated moment () begun statedSettled allowedStart
    answeredStart
  refine ⟨rules.settled_holds begun begunSettled, ?_⟩
  have kept : begun.1.client.binding = some binding :=
    (handle_passes rfl (recorded_cases answeredStart).1).binding.trans
      ((handle_passes rfl (recorded_cases answeredState).1).binding.trans held)
  have talked := rules.keeps_conversing
    (exchangeAndApply_converses cfg fuel messageType server) begun begunSettled
  have unchanged := (exchangeAndApply_unchanged Allowed cfg fuel messageType server
    begun.1).recorded begun.2
  apply Safe.bind
  apply (talked.and (fun _ holds _ => holds) unchanged).mono
  intro applied after both
  exact continues applied after both.1 (fun failed => (both.2 failed).trans kept)

theorem afterT1_settled (fuel : Nat) (binding : Binding) (server : Option Duid)
    {state : Recorded} (settled : Settled state)
    (held : state.1.client.binding = some binding) :
    Safe (recorded handle) Holds (fun state => Allowed state.1)
      (afterT1 cfg fuel binding server state.1.clock) (fun _ => Settled) state := by
  have gone : ∀ current : Recorded, Settled current →
      current.1.client.binding = some binding → binding.expiresAt < current.1.clock →
      Safe (recorded handle) Holds (fun state => Allowed state.1)
        (do dropPrefix; pure (some true)) (fun (_ : Option Bool) => Settled) current := by
    intro current currentSettled currentHeld expired
    apply Safe.bind
    apply (rules.drops current currentSettled
      (rules.expires current binding currentSettled currentHeld expired)).mono
    intro _ dropped still
    exact still
  unfold afterT1
  split
  · next expired => exact gone state settled held expired
  · apply rules.attempt_settled fuel _ _ _ settled held
    intro applied tried triedSettled unchanged
    cases applied with
    | true => exact triedSettled
    | false =>
        apply rules.now_settled triedSettled (unchanged rfl)
        intro timed timedSettled timedHeld
        split
        · next expired => exact gone timed timedSettled timedHeld expired
        · exact timedSettled

theorem beforeT1_between (fuel : Nat) (binding : Binding) :
    Keeps (recorded handle) Holds (fun state => Allowed state.1) Between
      (beforeT1 cfg fuel binding) := by
  apply Keeps.bind (rules.keeps_idle rfl)
  intro begun
  apply Keeps.bind (keeps_sleep rules.implies rules.idle _)
  intro awake
  refine Keeps.ite ?_ (Keeps.ret _)
  intro state between
  apply Safe.bind
  apply (rules.releases fuel state between).mono
  intro released after outcome
  cases released with
  | true => exact outcome.1
  | false =>
      apply (rules.confirmEarly_settled fuel binding (outcome.2 rfl)).mono
      intro _ last settled
      exact rules.weaken last settled

theorem boundLoop_between (fuel : Nat) :
    Keeps (recorded handle) Holds (fun state => Allowed state.1) Between
      (boundLoop cfg fuel) := by
  induction fuel with
  | zero => exact Keeps.cut
  | succ fuel ih =>
      have turn : Keeps (recorded handle) Holds (fun state => Allowed state.1) Between
          (boundTurn cfg fuel) := by
        apply Keeps.bind (rules.keeps_idle rfl)
        intro stopped
        apply Keeps.ite (Keeps.ret _)
        intro state between
        apply Safe.bind
        apply (rules.releases fuel state between).mono
        intro released checked outcome
        cases released with
        | true => exact outcome.1
        | false =>
            apply rules.load_settled (outcome.2 rfl)
            intro loaded loadedSettled
            dsimp only
            cases held : loaded.1.client.binding with
            | none => exact rules.weaken loaded loadedSettled
            | some binding =>
                apply Safe.perform_bind
                intro moment allowed _ bound answered
                have boundSettled := rules.converses _ rfl loaded moment () bound loadedSettled
                  allowed answered
                refine ⟨rules.settled_holds bound boundSettled, ?_⟩
                have kept : bound.1.client.binding = some binding :=
                  (handle_passes rfl (recorded_cases answered).1).binding.trans held
                apply rules.now_settled boundSettled kept
                intro timed timedSettled timedHeld
                split
                · exact rules.beforeT1_between fuel binding timed
                    (rules.weaken timed timedSettled)
                · apply (rules.afterT1_settled fuel binding _ timedSettled timedHeld).mono
                  intro _ last settled
                  exact rules.weaken last settled
      apply Keeps.bind turn
      intro result
      cases result with
      | none => exact ih
      | some result => exact Keeps.ret result

theorem sessionAcquire_between (fuel : Nat) {state : Recorded} (settled : Settled state) :
    Safe (recorded handle) Holds (fun state => Allowed state.1) (sessionAcquire cfg fuel)
      (fun _ => Between) state := by
  apply Safe.bind
  apply (rules.keeps_conversing (acquireFresh_converses cfg fuel) state settled).mono
  intro acquired after afterSettled
  cases acquired with
  | true => exact rules.boundLoop_between fuel after (rules.weaken after afterSettled)
  | false =>
      have paused : Keeps (recorded handle) Holds (fun state => Allowed state.1) Between
          (do let _ ← sleep (5 * second); pure false) :=
        Keeps.bind (keeps_sleep rules.implies rules.idle _) (fun _ => Keeps.ret false)
      exact paused after (rules.weaken after afterSettled)

theorem sessionTurn_between (fuel : Nat) :
    Keeps (recorded handle) Holds (fun state => Allowed state.1) Between
      (sessionTurn cfg fuel) := by
  apply Keeps.bind (rules.keeps_idle rfl)
  intro stopped
  apply Keeps.ite (Keeps.ret false)
  intro state between
  apply Safe.bind
  apply (rules.releases fuel state between).mono
  intro released checked outcome
  cases released with
  | true => exact outcome.1
  | false =>
      apply rules.load_settled (outcome.2 rfl)
      intro loaded loadedSettled
      dsimp only
      cases loaded.1.client.binding with
      | none => exact rules.sessionAcquire_between fuel loadedSettled
      | some binding =>
          apply Safe.bind
          apply (rules.keeps_settled rfl loaded loadedSettled).mono
          intro now timed timedSettled
          split
          · apply Safe.bind
            apply (rules.looks .session timed timedSettled).mono
            intro ready looked lookedSettled
            cases ready with
            | false =>
                exact keeps_sleep rules.implies rules.idle _ looked
                  (rules.weaken looked lookedSettled.1)
            | true =>
                apply Safe.bind
                apply (rules.confirms fuel looked lookedSettled.1 (lookedSettled.2 rfl)).mono
                intro confirmed after result
                cases confirmed with
                | true =>
                    exact rules.boundLoop_between fuel after (rules.weaken after result.1)
                | false =>
                    apply Safe.bind
                    apply (rules.drops after result.1 (result.2 rfl)).mono
                    intro _ dropped still
                    exact rules.sessionAcquire_between fuel still
          · exact rules.sessionAcquire_between fuel timedSettled

theorem run_between (fuel : Nat) :
    Keeps (recorded handle) Holds (fun state => Allowed state.1) Between (run cfg fuel) :=
  keeps_run rules.implies rules.idle rules.sessionTurn_between fuel

end TurnRules

end BridgeDhcp.Pd
