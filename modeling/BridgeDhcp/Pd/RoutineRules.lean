/-
Rules for the routines of the prefix-delegation client.

An exchange carries out only a few operations, and most operations leave the
delegation alone.  A property that these operations keep, and that `applyReply`,
`dropPrefix` and `acquireFresh` keep as a whole, is kept by every loop.
-/

import BridgeDhcp.Pd.StateMachine

set_option autoImplicit false

namespace BridgeDhcp.Pd

open Netip GoTime Packet Interaction

/-! ### What exchanges do -/

def Op.exchanges (messageType : MessageType6) : Op → Prop
  | .random => True
  | .stopped => True
  | .hint => True
  | .now site => site = .exchange
  | .read _ => True
  | .write query => query.messageType = messageType
  | _ => False

theorem Op.aside_of_exchanges {op : Op} {messageType : MessageType6}
    (exchanges : op.exchanges messageType) : op.aside = true := by
  cases op <;> first | rfl | cases exchanges

theorem perform_uses {op : Op} {messageType : MessageType6} (exchanges : op.exchanges messageType) :
    Uses (Op.exchanges messageType) (perform op) :=
  Uses.perform exchanges

theorem awaitReply_uses (messageType : MessageType6) (deadline : Instant) (txn : BitVec 24)
    (expect : MessageType6) (fuel : Nat) :
    Uses (Op.exchanges messageType) (awaitReply deadline txn expect fuel) := by
  induction fuel with
  | zero => trivial
  | succ fuel ih =>
      unfold awaitReply
      refine Uses.bind (perform_uses rfl) ?_
      intro now
      split
      · refine Uses.bind (perform_uses trivial) ?_
        intro datagram
        split
        · trivial
        · exact ih
        · split
          · trivial
          · exact ih
      · trivial

theorem transmit_uses (cfg : Config) (fuel : Nat) (messageType : MessageType6)
    (txn : BitVec 24) (server : Option Duid) (expect : MessageType6) (left : Nat)
    (timeout : Duration) :
    Uses (Op.exchanges messageType)
      (transmit cfg fuel messageType txn server expect left timeout) := by
  induction left generalizing timeout with
  | zero => trivial
  | succ left ih =>
      unfold transmit
      refine Uses.bind (perform_uses trivial) ?_
      intro stopped
      split
      · trivial
      · unfold buildMessage
        cases cfg.clientID with
        | none => trivial
        | some duid =>
            -- The query is known only where `buildMessage` returns it.
            refine ⟨trivial, ?_⟩
            intro seen
            change Uses _ (perform (.write _) >>= _)
            refine Uses.bind (perform_uses rfl) ?_
            intro written
            split
            · refine Uses.bind (perform_uses rfl) ?_
              intro sentAt
              apply Uses.bind (awaitReply_uses messageType _ txn expect fuel)
              intro resp
              split
              · trivial
              · exact ih _
            · trivial

theorem exchange_uses (cfg : Config) (fuel : Nat) (messageType : MessageType6)
    (server : Option Duid) (expect : MessageType6) :
    Uses (Op.exchanges messageType) (exchange cfg fuel messageType server expect) := by
  unfold exchange
  refine Uses.bind (perform_uses trivial) ?_
  intro txn
  split
  · trivial
  · exact transmit_uses cfg fuel messageType _ server expect _ _

/-! ### What changing the delegation does -/

def Op.drops : Op → Prop
  | .enter procedure => procedure = .dropPrefix
  | .clear => True
  | .callback _ _ => True
  | .leave _ => True
  | _ => False

theorem withdraw_uses (old : Option Binding) :
    Uses (fun op => ∃ net ok, op = .callback net ok) (withdraw old) := by
  cases old with
  | none => trivial
  | some binding => exact Uses.perform ⟨binding.net, false, rfl⟩

theorem announce_uses (old : Option Binding) (binding : Binding) :
    Uses (fun op => ∃ net ok, op = .callback net ok) (announce old binding) := by
  have reported : Uses (fun op => ∃ net ok, op = .callback net ok)
      (perform (.callback binding.net true)) := Uses.perform ⟨binding.net, true, rfl⟩
  cases old with
  | none => exact reported
  | some held =>
      unfold announce
      dsimp only
      split
      · trivial
      · apply Uses.bind (withdraw_uses (some held))
        intro _
        exact reported

theorem dropPrefix_uses : Uses Op.drops dropPrefix := by
  have withdrawn : ∀ old, Uses Op.drops (withdraw old) := by
    intro old
    apply (withdraw_uses old).mono
    intro op spoken
    obtain ⟨net, ok, same⟩ := spoken
    rw [same]
    trivial
  refine Uses.bind (Uses.perform rfl) ?_
  intro _
  refine Uses.bind (Uses.perform trivial) ?_
  intro old
  apply Uses.bind (withdrawn old)
  intro _
  exact Uses.perform trivial

/-! ### What routines keep -/

section Rules

/-- Each of these operations keeps the property, whatever carries them out. -/
def KeptUnder {State : Type} (handler : State → Moment → (op : Op) → Option (op.Answer × State))
    (permits : Op → Bool) (Allowed : State → Op → Moment → Prop) (Property : State → Prop) : Prop :=
  ∀ (op : Op), permits op = true → ∀ state moment (answer : op.Answer) after, Property state →
    Allowed state op moment → handler state moment op = some (answer, after) → Property after

def KeptBy (permits : Op → Bool) (Allowed : World → Op → Moment → Prop)
    (Property : World → Prop) : Prop :=
  ∀ (op : Op), permits op = true → ∀ world moment (answer : op.Answer) after, Property world →
    Allowed world op moment → handle world moment op = some (answer, after) → Property after

theorem KeptBy.idle {Allowed : World → Op → Moment → Prop} {Property : World → Prop}
    (kept : KeptBy Op.aside Allowed Property) : KeptBy Op.idle Allowed Property := by
  intro op idle
  exact kept op (Op.aside_of_idle idle)

variable {State : Type} {handler : State → Moment → (op : Op) → Option (op.Answer × State)}
  {Holds : State → Prop} {Allowed : State → Op → Moment → Prop} {Property : State → Prop}

theorem KeptUnder.idle (kept : KeptUnder handler Op.aside Allowed Property) :
    KeptUnder handler Op.idle Allowed Property := by
  intro op idle
  exact kept op (Op.aside_of_idle idle)

theorem keeps_perform {permits : Op → Bool} {op : Op}
    (implies : ∀ state, Property state → Holds state)
    (kept : KeptUnder handler permits Allowed Property) (permitted : permits op = true) :
    Keeps handler Holds Allowed Property (perform op) :=
  Keeps.act implies (kept op permitted) Keeps.ret

variable (implies : ∀ state, Property state → Holds state)

include implies

theorem keeps_sleep (kept : KeptUnder handler Op.idle Allowed Property) (duration : Duration) :
    Keeps handler Holds Allowed Property (sleep duration) := by
  apply Keeps.bind (keeps_perform implies kept rfl)
  intro begun
  exact keeps_perform implies kept rfl

section Talking

variable (kept : KeptUnder handler Op.aside Allowed Property)

include kept

theorem keeps_exchange (cfg : Config) (fuel : Nat) (messageType : MessageType6)
    (server : Option Duid) (expect : MessageType6) :
    Keeps handler Holds Allowed Property (exchange cfg fuel messageType server expect) := by
  apply Keeps.of_uses (exchange_uses cfg fuel messageType server expect) implies
  intro op exchanges
  exact kept op (Op.aside_of_exchanges exchanges)

theorem keeps_sendRelease (cfg : Config) (fuel : Nat) (server : Option Duid) :
    Keeps handler Holds Allowed Property (sendRelease cfg fuel server) := by
  cases server with
  | none => exact Keeps.ret ()
  | some server =>
      apply Keeps.bind (keeps_perform implies kept rfl)
      intro _
      apply Keeps.bind (keeps_perform implies kept rfl)
      intro _
      apply Keeps.bind (keeps_exchange implies kept cfg fuel .release (some server) .reply)
      intro _
      exact Keeps.ret ()

section Applying

variable (applies : ∀ reply, Keeps handler Holds Allowed Property (applyReply reply))

include applies

theorem keeps_exchangeAndApply (cfg : Config) (fuel : Nat) (messageType : MessageType6)
    (server : Option Duid) :
    Keeps handler Holds Allowed Property (exchangeAndApply cfg fuel messageType server) := by
  apply Keeps.bind (keeps_exchange implies kept cfg fuel messageType server .reply)
  intro reply
  cases reply with
  | none => exact Keeps.ret false
  | some reply => exact applies reply

theorem keeps_confirmExisting (cfg : Config) (fuel : Nat) :
    Keeps handler Holds Allowed Property (confirmExisting cfg fuel) := by
  apply Keeps.bind (keeps_perform implies kept rfl)
  intro held
  have renewed : Keeps handler Holds Allowed Property
      (confirmByRenew cfg fuel held.serverDUID) := by
    cases held.serverDUID with
    | none => exact Keeps.ret false
    | some server =>
        apply Keeps.bind (keeps_perform implies kept rfl)
        intro _
        apply Keeps.bind (keeps_perform implies kept rfl)
        intro _
        exact keeps_exchangeAndApply implies kept applies cfg fuel .renew (some server)
  apply Keeps.bind renewed
  intro confirmed
  apply Keeps.ite (Keeps.ret true)
  apply Keeps.bind (keeps_perform implies kept rfl)
  intro _
  apply Keeps.bind (keeps_perform implies kept rfl)
  intro _
  exact keeps_exchangeAndApply implies kept applies cfg fuel .rebind none

theorem keeps_solicit (cfg : Config) (fuel : Nat) :
    Keeps handler Holds Allowed Property (solicit cfg fuel) := by
  apply Keeps.bind (keeps_perform implies kept rfl)
  intro _
  apply Keeps.bind (keeps_perform implies kept rfl)
  intro _
  apply Keeps.bind (keeps_exchange implies kept cfg fuel .solicit none .advertise)
  intro advertised
  cases advertised with
  | none => exact Keeps.ret false
  | some adv =>
      dsimp only
      cases adv.serverID with
      | none => exact Keeps.ret false
      | some server =>
          apply Keeps.bind (keeps_perform implies kept rfl)
          intro _
          exact keeps_exchangeAndApply implies kept applies cfg fuel .request (some server)

section Dropping

variable (drops : Keeps handler Holds Allowed Property dropPrefix)

include drops

omit applies in
theorem keeps_maybeRelease (cfg : Config) (fuel : Nat) :
    Keeps handler Holds Allowed Property (maybeRelease cfg fuel) := by
  apply Keeps.bind (keeps_perform implies kept rfl)
  intro requested
  apply Keeps.ite
  · apply Keeps.bind (keeps_perform implies kept rfl)
    intro held
    cases held.binding with
    | none => exact Keeps.ret false
    | some binding =>
        apply Keeps.bind (keeps_sendRelease implies kept cfg fuel held.serverDUID)
        intro _
        apply Keeps.bind drops
        intro _
        exact Keeps.ret true
  · exact Keeps.ret false

theorem keeps_beforeT1 (cfg : Config) (fuel : Nat) (binding : Binding) :
    Keeps handler Holds Allowed Property (beforeT1 cfg fuel binding) := by
  have confirms : Keeps handler Holds Allowed Property (confirmEarly cfg fuel binding) := by
    apply Keeps.bind (keeps_perform implies kept rfl)
    intro current
    cases current.binding with
    | none => exact Keeps.ret none
    | some _ =>
        apply Keeps.bind (keeps_perform implies kept rfl)
        intro now
        refine Keeps.ite ?_ (Keeps.ret none)
        apply Keeps.bind (keeps_perform implies kept rfl)
        intro ready
        refine Keeps.ite ?_ (Keeps.ret none)
        apply Keeps.bind (keeps_confirmExisting implies kept applies cfg fuel)
        intro confirmed
        apply Keeps.ite (Keeps.ret none)
        apply Keeps.bind drops
        intro _
        exact Keeps.ret _
  apply Keeps.bind (keeps_perform implies kept rfl)
  intro begun
  apply Keeps.bind (keeps_sleep implies kept.idle _)
  intro awake
  refine Keeps.ite ?_ (Keeps.ret _)
  apply Keeps.bind (keeps_maybeRelease implies kept drops cfg fuel)
  intro released
  exact Keeps.ite (Keeps.ret _) confirms

theorem keeps_afterT1 (cfg : Config) (fuel : Nat) (binding : Binding) (server : Option Duid)
    (now : Instant) :
    Keeps handler Holds Allowed Property (afterT1 cfg fuel binding server now) := by
  apply Keeps.ite
  · apply Keeps.bind drops
    intro _
    exact Keeps.ret _
  · apply Keeps.bind (keeps_perform implies kept rfl)
    intro _
    apply Keeps.bind (keeps_perform implies kept rfl)
    intro _
    apply Keeps.bind (keeps_exchangeAndApply implies kept applies cfg fuel _ _)
    intro applied
    apply Keeps.ite (Keeps.ret none)
    apply Keeps.bind (keeps_perform implies kept rfl)
    intro later
    refine Keeps.ite ?_ (Keeps.ret none)
    apply Keeps.bind drops
    intro _
    exact Keeps.ret _

theorem keeps_boundLoop (cfg : Config) (fuel : Nat) :
    Keeps handler Holds Allowed Property (boundLoop cfg fuel) := by
  induction fuel with
  | zero => exact Keeps.cut
  | succ fuel ih =>
      have turn : Keeps handler Holds Allowed Property (boundTurn cfg fuel) := by
        apply Keeps.bind (keeps_perform implies kept rfl)
        intro stopped
        apply Keeps.ite (Keeps.ret _)
        apply Keeps.bind (keeps_maybeRelease implies kept drops cfg fuel)
        intro released
        apply Keeps.ite (Keeps.ret _)
        apply Keeps.bind (keeps_perform implies kept rfl)
        intro held
        cases held.binding with
        | none => exact Keeps.ret _
        | some binding =>
            apply Keeps.bind (keeps_perform implies kept rfl)
            intro _
            apply Keeps.bind (keeps_perform implies kept rfl)
            intro now
            apply Keeps.ite
            · exact keeps_beforeT1 implies kept applies drops cfg fuel binding
            · exact keeps_afterT1 implies kept applies drops cfg fuel binding _ now
      apply Keeps.bind turn
      intro result
      cases result with
      | none => exact ih
      | some result => exact Keeps.ret result

section Acquiring

variable (acquires : ∀ cfg fuel, Keeps handler Holds Allowed Property (acquireFresh cfg fuel))

include acquires

theorem keeps_sessionAcquire (cfg : Config) (fuel : Nat) :
    Keeps handler Holds Allowed Property (sessionAcquire cfg fuel) := by
  apply Keeps.bind (acquires cfg fuel)
  intro acquired
  apply Keeps.ite
  · exact keeps_boundLoop implies kept applies drops cfg fuel
  · apply Keeps.bind (keeps_sleep implies kept.idle _)
    intro _
    exact Keeps.ret false

theorem keeps_sessionTurn (cfg : Config) (fuel : Nat) :
    Keeps handler Holds Allowed Property (sessionTurn cfg fuel) := by
  have acquire := keeps_sessionAcquire implies kept applies drops acquires cfg fuel
  apply Keeps.bind (keeps_perform implies kept rfl)
  intro stopped
  apply Keeps.ite (Keeps.ret false)
  apply Keeps.bind (keeps_maybeRelease implies kept drops cfg fuel)
  intro released
  apply Keeps.ite (Keeps.ret true)
  apply Keeps.bind (keeps_perform implies kept rfl)
  intro held
  cases held.binding with
  | none => exact acquire
  | some binding =>
      apply Keeps.bind (keeps_perform implies kept rfl)
      intro now
      refine Keeps.ite ?_ acquire
      apply Keeps.bind (keeps_perform implies kept rfl)
      intro ready
      refine Keeps.ite ?_ (keeps_sleep implies kept.idle _)
      apply Keeps.bind (keeps_confirmExisting implies kept applies cfg fuel)
      intro confirmed
      apply Keeps.ite (keeps_boundLoop implies kept applies drops cfg fuel)
      apply Keeps.bind drops
      intro _
      exact acquire

end Acquiring

end Dropping

end Applying

end Talking

section Looping

variable {cfg : Config} (kept : KeptUnder handler Op.idle Allowed Property)
  (turns : ∀ fuel, Keeps handler Holds Allowed Property (sessionTurn cfg fuel))

include turns

omit implies in
theorem keeps_sessionLoop (fuel : Nat) :
    Keeps handler Holds Allowed Property (sessionLoop cfg fuel) := by
  induction fuel with
  | zero => exact Keeps.cut
  | succ fuel ih =>
      apply Keeps.bind (turns fuel)
      intro continues
      exact Keeps.ite ih (Keeps.ret ())

include kept in
theorem keeps_run (fuel : Nat) :
    Keeps handler Holds Allowed Property (run cfg fuel) := by
  induction fuel with
  | zero => exact Keeps.cut
  | succ fuel ih =>
      have opened : Keeps handler Holds Allowed Property (session cfg fuel) := by
        apply Keeps.bind (keeps_perform implies kept rfl)
        intro _
        apply Keeps.bind (keeps_perform implies kept rfl)
        intro connected
        refine Keeps.ite ?_ (keeps_sleep implies kept _)
        apply Keeps.bind (keeps_sessionLoop turns fuel)
        intro _
        apply Keeps.bind (keeps_perform implies kept rfl)
        intro stopped
        exact Keeps.ite (Keeps.ret true) (keeps_sleep implies kept _)
      apply Keeps.bind (keeps_perform implies kept rfl)
      intro stopped
      apply Keeps.ite (keeps_perform implies kept rfl)
      apply Keeps.bind opened
      intro continues
      exact Keeps.ite ih (keeps_perform implies kept rfl)

end Looping

end Rules

/-! ### What dropping achieves -/

section Dropped

variable {Allowed : World → Op → Moment → Prop}

theorem withdraw_empty (old : Option Binding) :
    Keeps handle (fun _ => True) Allowed (fun world => world.client.binding = none)
      (withdraw old) := by
  cases old with
  | none => exact Keeps.ret ()
  | some binding =>
      intro world empty moment _ _ after handled
      cases handled
      exact ⟨trivial, (world.advance_passes moment).binding.trans empty⟩

theorem dropPrefix_empties (world : World) :
    Safe handle (fun _ => True) Allowed dropPrefix
      (fun _ after => after.client.binding = none) world := by
  apply Safe.perform_bind
  intro early _ _ begun _
  refine ⟨trivial, ?_⟩
  apply Safe.perform_bind
  intro moment _ old after handled
  cases handled
  have empty : (begun.advance moment).cleared.client.binding = none := by
    unfold World.cleared
    cases (begun.advance moment).client.binding <;> rfl
  refine ⟨trivial, ?_⟩
  apply Safe.bind
  apply (withdraw_empty _ _ empty).mono
  intro _ withdrawn still late _ _ left handledLeave
  cases handledLeave
  exact ⟨trivial, (withdrawn.advance_passes late).binding.trans still⟩

end Dropped

end BridgeDhcp.Pd
