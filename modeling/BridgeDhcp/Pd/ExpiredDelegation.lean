/-
What the prefix-delegation client holds when it starts to solicit.

`boundLoop` drops a delegation that has expired, and `sessionLoop` drops one that
no server confirms.  But `sessionLoop` goes on to solicit without dropping when
the delegation has expired before it looks: after a restart, while the socket
could not be opened, or while the link was not ready.
-/

import BridgeDhcp.InteractionHistory
import BridgeDhcp.Pd.CallbackDiscipline

set_option autoImplicit false

namespace BridgeDhcp.Pd

open Netip GoTime Packet Interaction

/-- Whenever the client entered `acquireFresh` it held nothing and the owner had no
prefix installed. -/
def SolicitsBare (installed : Option Prefix) : List Stamped → Prop
  | [] => True
  | stamped :: earlier =>
      SolicitsBare installed earlier ∧
        match stamped.event with
        | .entered .acquireFresh held => held = none ∧ activePrefix installed earlier = none
        | _ => True

/-- Whenever `sessionLoop` compares the clock with a delegation, the delegation is
still valid. -/
def ValidAtSession (world : World) (op : Op) (moment : Moment) : Prop :=
  op = .now .session → ∀ binding ∈ world.client.binding, moment.now < binding.expiresAt

instance (world : World) (op : Op) (moment : Moment) : Decidable (ValidAtSession world op moment) :=
  inferInstanceAs (Decidable (op = .now .session → ∀ binding ∈ world.client.binding, _ < _))

/-! ### What does not solicit -/

section NotSoliciting

variable {installed : Option Prefix} {Allowed : World → Op → Moment → Prop}

def Op.otherwise : Op → Prop
  | .enter procedure => procedure ≠ .acquireFresh
  | _ => True

def Bare (installed : Option Prefix) (world : World) : Prop := SolicitsBare installed world.trace

theorem Bare.passes {world after : World} (bare : Bare installed world)
    (passed : Passes world after) : Bare installed after := by
  apply passed.trace_invariant (SolicitsBare installed)
  · intro stamped earlier aside before
    obtain ⟨at_, event⟩ := stamped
    cases event with
    | called call => exact ⟨before, trivial⟩
    | wrote query held ok => exact ⟨before, trivial⟩
    | _ => cases aside
  · exact bare

theorem Bare.handled {op : Op} {world after : World} {moment : Moment} {answer : op.Answer}
    (other : op.otherwise) (bare : Bare installed world)
    (handled : handle world moment op = some (answer, after)) : Bare installed after := by
  have before := bare.passes (world.advance_passes moment)
  cases op with
  | store binding server =>
      cases handled
      exact ⟨before, trivial⟩
  | clear =>
      cases handled
      unfold World.cleared
      cases (world.advance moment).client.binding with
      | none => exact before
      | some binding => exact ⟨before, trivial⟩
  | callback net ok =>
      cases handled
      exact ⟨before, trivial⟩
  | enter procedure =>
      cases handled
      cases procedure with
      | applyReply => exact ⟨before, trivial⟩
      | dropPrefix => exact ⟨before, trivial⟩
      | acquireFresh => exact absurd rfl other
  | leave procedure =>
      cases handled
      exact before
  | _ => exact bare.passes (handle_passes rfl handled)

theorem applyReply_uses (reply : Answer6) : Uses Op.otherwise (applyReply reply) := by
  have announced : ∀ old binding, Uses Op.otherwise (announce old binding) := by
    intro old binding
    apply (announce_uses old binding).mono
    intro op spoken
    obtain ⟨net, ok, same⟩ := spoken
    rw [same]
    trivial
  have applied : Uses Op.otherwise (applyUsable reply (usablePrefix reply)) := by
    cases usablePrefix reply with
    | none => trivial
    | some chosen =>
        refine Uses.bind (Uses.perform trivial) ?_
        intro now
        refine Uses.bind (Uses.perform trivial) ?_
        intro old
        apply Uses.bind (announced old _)
        intro _
        trivial
  refine Uses.bind (Uses.perform Procedure.noConfusion) ?_
  intro _
  apply Uses.bind applied
  intro result
  refine Uses.bind (Uses.perform trivial) ?_
  intro _
  trivial

theorem Op.otherwise_of_drops {op : Op} (drops : op.drops) : op.otherwise := by
  cases op with
  | enter procedure =>
      rw [drops]
      exact Procedure.noConfusion
  | _ => trivial

theorem bare_keeps {Value : Type} {routine : Routine Value} (uses : Uses Op.otherwise routine) :
    Keeps handle (Bare installed) Allowed (Bare installed) routine := by
  apply Keeps.of_uses uses (fun _ bare => bare)
  intro op other world moment answer after bare _ handled
  exact bare.handled other handled

end NotSoliciting

/-! ### Sessions -/

section Sessions

variable {installed : Option Prefix} {Allowed : World → Op → Moment → Prop}

def Sound (installed : Option Prefix) (world : World) : Prop :=
  Disciplined installed world ∧ Bare installed world

/-- Between the operations of a session the owner agrees with the client, and the
client has solicited only without a delegation. -/
def AtRest (installed : Option Prefix) (world : World) : Prop :=
  Agreed installed world ∧ Bare installed world

theorem AtRest.sound {world : World} (rest : AtRest installed world) : Sound installed world :=
  ⟨rest.1.disciplined, rest.2⟩

theorem atRest_keptAside : KeptBy Op.aside Allowed (AtRest installed) := by
  intro op aside world moment answer after rest allowed handled
  refine ⟨agreed_keptAside op aside world moment answer after rest.1 allowed handled, ?_⟩
  exact rest.2.passes (handle_passes aside handled)

theorem applyReply_atRest (reply : Answer6) :
    Keeps handle (Sound installed) Allowed (AtRest installed) (applyReply reply) :=
  (applyReply_keeps reply).and (fun _ => And.intro) (bare_keeps (applyReply_uses reply))

theorem dropPrefix_atRest :
    Keeps handle (Sound installed) Allowed (AtRest installed) dropPrefix :=
  dropPrefix_keeps.and (fun _ => And.intro)
    (bare_keeps (dropPrefix_uses.mono (fun _ => Op.otherwise_of_drops)))

theorem acquireFresh_atRest (cfg : Config) (fuel : Nat) {world : World}
    (rest : AtRest installed world) (empty : world.client.binding = none) :
    Safe handle (Sound installed) Allowed (acquireFresh cfg fuel)
      (fun _ => AtRest installed) world := by
  apply Safe.perform_bind
  intro moment _ _ after handled
  cases handled
  obtain ⟨held, showing⟩ := rest.1
  have now := showing.advance moment
  have nothing : (world.advance moment).client.binding = none :=
    (world.advance_passes moment).binding.trans empty
  have hidden : activePrefix installed (world.advance moment).trace = none := by
    rw [now.shown, ← now.held, nothing, Option.map_none]
  have bare : Bare installed (world.advance moment) :=
    rest.2.passes (world.advance_passes moment)
  have begun : AtRest installed ((world.advance moment).entered .acquireFresh) :=
    ⟨⟨held, now.entered .acquireFresh⟩, bare, nothing, hidden⟩
  refine ⟨begun.sound, ?_⟩
  apply Safe.bind
  apply (keeps_solicit (fun _ => AtRest.sound) atRest_keptAside applyReply_atRest cfg fuel
    _ begun).mono
  intro acquired solicited settled
  have leaves : Keeps handle (Sound installed) Allowed (AtRest installed)
      (perform (.leave .acquireFresh)) :=
    (leave_keeps .acquireFresh).and (fun _ => And.intro) (bare_keeps (Uses.perform trivial))
  exact Keeps.bind leaves (fun _ => Keeps.ret acquired) solicited settled

theorem sessionAcquire_atRest (cfg : Config) (fuel : Nat) {world : World}
    (rest : AtRest installed world) (empty : world.client.binding = none) :
    Safe handle (Sound installed) Allowed (sessionAcquire cfg fuel)
      (fun _ => AtRest installed) world := by
  apply Safe.bind
  apply (acquireFresh_atRest cfg fuel rest empty).mono
  intro acquired after settled
  split
  · exact keeps_boundLoop (fun _ => AtRest.sound) atRest_keptAside applyReply_atRest
      dropPrefix_atRest cfg fuel after settled
  · apply Keeps.bind (keeps_sleep (fun _ => AtRest.sound) atRest_keptAside.idle _)
    · intro _
      exact Keeps.ret false
    · exact settled

theorem sessionConfirm_atRest (cfg : Config) (fuel : Nat) :
    Keeps handle (Sound installed) Allowed (AtRest installed) (sessionConfirm cfg fuel) := by
  apply Keeps.bind (keeps_perform (fun _ => AtRest.sound) atRest_keptAside rfl)
  intro ready
  refine Keeps.ite ?_ (keeps_sleep (fun _ => AtRest.sound) atRest_keptAside.idle _)
  apply Keeps.bind
    (keeps_confirmExisting (fun _ => AtRest.sound) atRest_keptAside applyReply_atRest cfg fuel)
  intro confirmed
  apply Keeps.ite
  · exact keeps_boundLoop (fun _ => AtRest.sound) atRest_keptAside applyReply_atRest
      dropPrefix_atRest cfg fuel
  · intro world rest
    apply Safe.bind
    apply ((dropPrefix_atRest world rest).and (fun _ sound _ => sound)
      (dropPrefix_empties world)).mono
    intro _ after dropped
    exact sessionAcquire_atRest cfg fuel dropped.1 dropped.2

theorem sessionTurn_atRest (cfg : Config) (fuel : Nat) :
    Keeps handle (Sound installed) ValidAtSession (AtRest installed) (sessionTurn cfg fuel) := by
  apply Keeps.bind (keeps_perform (fun _ => AtRest.sound) atRest_keptAside rfl)
  intro stopped
  apply Keeps.ite (Keeps.ret false)
  apply Keeps.bind (keeps_maybeRelease (fun _ => AtRest.sound) atRest_keptAside
    dropPrefix_atRest cfg fuel)
  intro released
  apply Keeps.ite (Keeps.ret true)
  intro world rest
  apply Safe.perform_bind
  intro moment allowed held loaded handled
  have still : AtRest installed loaded :=
    atRest_keptAside .load rfl world moment held loaded rest allowed handled
  refine ⟨still.sound, ?_⟩
  cases handled
  dsimp only
  cases binds : (world.advance moment).client.binding with
  | none => exact sessionAcquire_atRest cfg fuel still binds
  | some binding =>
      apply Safe.perform_bind
      intro later valid now timed handledNow
      have after : AtRest installed timed :=
        atRest_keptAside _ rfl _ later now timed still valid handledNow
      refine ⟨after.sound, ?_⟩
      have early : now < binding.expiresAt := by
        cases handledNow
        rw [World.advance_clock]
        exact valid rfl binding binds
      rw [if_pos early]
      exact sessionConfirm_atRest cfg fuel timed after

theorem start_atRest (cfg : Config) (fuel : Nat) :
    Keeps handle (Sound installed) ValidAtSession (AtRest installed) (start cfg fuel) :=
  keeps_run (fun _ => AtRest.sound) atRest_keptAside.idle (sessionTurn_atRest cfg.normalize) fuel

end Sessions

/-! ### Every run -/

/-- In a run in which `sessionLoop` never looks at an expired delegation, the
client holds none whenever it starts to solicit, and the owner has been told. -/
theorem acquireFresh_entered_bare (cfg : Config) (fuel : Nat) (client : Client)
    (clock : Instant) (moments : List Moment)
    (valid : Permitted handle ValidAtSession (start cfg fuel) (World.start client clock) moments) :
    SolicitsBare (client.binding.map Binding.net)
      (exec handle (start cfg fuel) (World.start client clock) moments).trace := by
  have initially : AtRest (client.binding.map Binding.net) (World.start client clock) :=
    ⟨⟨client.binding.map Binding.net, trivial, rfl, rfl⟩, trivial⟩
  have safe := start_atRest cfg fuel (World.start client clock) initially
  exact (exec_of_safe _ _ moments initially.sound safe valid).2

/-- A restored delegation is valid when the session looks at it.  Its REBIND is not
answered within a second, so it is dropped a second before it would expire. -/
def sampleUnconfirmed : List Moment :=
  List.replicate 16 (quiet 0 true) ++ List.replicate 6 (quiet second true)

/-- The delegation that nobody confirms is withdrawn, and then the client solicits. -/
theorem acquireFresh_entered_bare_unconfirmed :
    Permitted handle ValidAtSession (start sampleConfig 5)
        (World.start (Client.new.restore sampleBinding 0) 0) sampleUnconfirmed ∧
      (∃ step ∈ history handle (start sampleConfig 5)
          (World.start (Client.new.restore sampleBinding 0) 0) sampleUnconfirmed,
        step.op = .now .session ∧ step.world.client.binding = some sampleBinding) ∧
      (exec handle (start sampleConfig 5) (World.start (Client.new.restore sampleBinding 0) 0)
          sampleUnconfirmed).trace.take 3 =
        [⟨second, .entered .acquireFresh none⟩, ⟨second, .callback sampleBinding.net false⟩,
          ⟨second, .dropped sampleBinding⟩] ∧
      SolicitsBare (some sampleBinding.net)
        (exec handle (start sampleConfig 5) (World.start (Client.new.restore sampleBinding 0) 0)
          sampleUnconfirmed).trace :=
  ⟨by decide +kernel, by decide +kernel, by decide +kernel,
    acquireFresh_entered_bare sampleConfig 5 (Client.new.restore sampleBinding 0) 0
      sampleUnconfirmed (by decide +kernel)⟩

def sampleReopening : List Moment :=
  [quiet 0 true, quiet 0 true, quiet 0 false, quiet 0 true, quiet (5 * second) true,
    quiet (5 * second) true, quiet (5 * second) true, quiet (5 * second) true,
    quiet (5 * second) true, quiet (5 * second) true, quiet (5 * second) true,
    quiet (5 * second) true, quiet (5 * second) true]

/-- The world after a restart in which the restored delegation expires while the
socket cannot be opened. -/
def sampleExpired : World :=
  exec handle (start sampleConfig 3) (World.start (Client.new.restore sampleBinding 0) 0)
    sampleReopening

/-- The client solicits with the expired delegation still held and installed. -/
theorem solicits_with_expired_delegation :
    sampleBinding.expiresAt < 5 * second ∧
      ⟨5 * second, .entered .acquireFresh (some sampleBinding)⟩ ∈ sampleExpired.trace ∧
      activePrefix (some sampleBinding.net) sampleExpired.trace = some sampleBinding.net ∧
      ¬ SolicitsBare (some sampleBinding.net) sampleExpired.trace := by
  refine ⟨by decide, by decide, by decide, ?_⟩
  intro bare
  exact absurd bare.2.1 (by decide)

end BridgeDhcp.Pd
