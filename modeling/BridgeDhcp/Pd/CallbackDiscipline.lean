/-
The callbacks of the prefix-delegation client.

The owner of a client installs a prefix when the callback reports it and removes it when
the callback reports it lost; it learns of the delegation in no other way.  The prefix
that the owner has installed is a function of the trace.
-/

import BridgeDhcp.Pd.RoutineRules

set_option autoImplicit false

namespace BridgeDhcp.Pd

open Netip GoTime Packet Interaction

/-! ### The owner's view -/

/-- The prefix that is installed after the trace, given what was at its beginning. -/
def activePrefix (installed : Option Prefix) : List Stamped → Option Prefix
  | [] => installed
  | stamped :: earlier =>
      match stamped.event with
      | .callback net true => some net
      | .callback _ false => none
      | _ => activePrefix installed earlier

/-- A prefix is reported only when none is active, and lost only when it is the
active one. -/
def WellBracketed (installed : Option Prefix) : List Stamped → Prop
  | [] => True
  | stamped :: earlier =>
      WellBracketed installed earlier ∧
        match stamped.event with
        | .callback _ true => activePrefix installed earlier = none
        | .callback net false => activePrefix installed earlier = some net
        | _ => True

def Changing (world : World) : Prop :=
  .applyReply ∈ world.running ∨ .dropPrefix ∈ world.running

structure Disciplined (installed : Option Prefix) (world : World) : Prop where
  bracketed : WellBracketed installed world.trace
  agrees : ¬ Changing world →
    activePrefix installed world.trace = world.client.binding.map Binding.net

/-! ### Traces -/

section Traces

variable {installed : Option Prefix}

theorem activePrefix_aside {stamped : Stamped} (aside : stamped.event.aside = true)
    (earlier : List Stamped) :
    activePrefix installed (stamped :: earlier) = activePrefix installed earlier := by
  obtain ⟨at_, event⟩ := stamped
  cases event with
  | called call => rfl
  | wrote query held ok => rfl
  | _ => cases aside

theorem wellBracketed_aside {stamped : Stamped} (aside : stamped.event.aside = true)
    {earlier : List Stamped} (bracketed : WellBracketed installed earlier) :
    WellBracketed installed (stamped :: earlier) := by
  obtain ⟨at_, event⟩ := stamped
  cases event with
  | called call => exact ⟨bracketed, trivial⟩
  | wrote query held ok => exact ⟨bracketed, trivial⟩
  | _ => cases aside

variable (installed) in
theorem activePrefix_passes {world after : World} (passed : Passes world after) :
    activePrefix installed after.trace = activePrefix installed world.trace := by
  apply passed.trace_invariant
    (fun trace => activePrefix installed trace = activePrefix installed world.trace)
  · intro stamped earlier aside same
    rw [activePrefix_aside aside]
    exact same
  · rfl

variable (installed) in
theorem activePrefix_handle {op : Op} {world after : World} {moment : Moment}
    {answer : op.Answer} (handled : handle world moment op = some (answer, after)) :
    activePrefix installed after.trace =
      match op with
      | .callback net true => some net
      | .callback _ false => none
      | _ => activePrefix installed world.trace := by
  have waited := activePrefix_passes installed (world.advance_passes moment)
  cases op with
  | callback net ok =>
      cases handled
      cases ok <;> rfl
  | store binding server =>
      cases handled
      exact waited
  | clear =>
      cases handled
      dsimp only
      unfold World.cleared
      split <;> exact waited
  | enter procedure =>
      cases handled
      exact waited
  | leave procedure =>
      cases handled
      exact waited
  | _ => exact activePrefix_passes installed (handle_passes rfl handled)

theorem activePrefix_before_callback {net : Prefix} {ok : Bool} {world after : World}
    {moment : Moment} {answer : Unit}
    (handled : handle world moment (.callback net ok) = some (answer, after))
    (bracketed : WellBracketed installed after.trace) :
    activePrefix installed world.trace = if ok then none else some net := by
  have waited := activePrefix_passes installed (world.advance_passes moment)
  cases handled
  rw [← waited]
  cases ok <;> exact bracketed.2

end Traces

/-! ### What is shown and what is held -/

/-- The owner has `shown` installed while the client holds `held`. -/
structure Showing (installed shown held : Option Prefix) (world : World) : Prop where
  bracketed : WellBracketed installed world.trace
  shown : activePrefix installed world.trace = shown
  held : world.client.binding.map Binding.net = held

namespace Showing

variable {installed shown held : Option Prefix} {world after : World}

theorem passes (showing : Showing installed shown held world) (passed : Passes world after) :
    Showing installed shown held after := by
  have traced : WellBracketed installed after.trace ∧
      activePrefix installed after.trace = shown := by
    apply passed.trace_invariant
      (fun trace => WellBracketed installed trace ∧ activePrefix installed trace = shown)
    · intro stamped earlier aside both
      rw [activePrefix_aside aside]
      exact ⟨wellBracketed_aside aside both.1, both.2⟩
    · exact ⟨showing.bracketed, showing.shown⟩
  refine ⟨traced.1, traced.2, ?_⟩
  rw [passed.binding]
  exact showing.held

theorem advance (showing : Showing installed shown held world) (moment : Moment) :
    Showing installed shown held (world.advance moment) :=
  showing.passes (world.advance_passes moment)

theorem entered (showing : Showing installed shown held world) (procedure : Procedure) :
    Showing installed shown held (world.entered procedure) :=
  ⟨⟨showing.bracketed, trivial⟩, showing.shown, showing.held⟩

theorem left (showing : Showing installed shown held world) :
    Showing installed shown held world.left :=
  ⟨showing.bracketed, showing.shown, showing.held⟩

theorem stored (showing : Showing installed shown held world) (binding : Binding)
    (server : Option Duid) :
    Showing installed shown (some binding.net) (world.stored binding server) :=
  ⟨⟨showing.bracketed, trivial⟩, showing.shown, rfl⟩

theorem cleared (showing : Showing installed shown held world) :
    Showing installed shown none world.cleared := by
  unfold World.cleared
  cases world.client.binding with
  | none => exact ⟨showing.bracketed, showing.shown, rfl⟩
  | some binding => exact ⟨⟨showing.bracketed, trivial⟩, showing.shown, rfl⟩

theorem appear (showing : Showing installed none held world) (net : Prefix) :
    Showing installed (some net) held (world.record (.callback net true)) :=
  ⟨⟨showing.bracketed, showing.shown⟩, rfl, showing.held⟩

theorem vanish {net : Prefix} (showing : Showing installed (some net) held world) :
    Showing installed none held (world.record (.callback net false)) :=
  ⟨⟨showing.bracketed, showing.shown⟩, rfl, showing.held⟩

end Showing

def Agreed (installed : Option Prefix) (world : World) : Prop :=
  ∃ held, Showing installed held held world

theorem Agreed.disciplined {installed : Option Prefix} {world : World}
    (agreed : Agreed installed world) : Disciplined installed world := by
  obtain ⟨held, showing⟩ := agreed
  refine ⟨showing.bracketed, ?_⟩
  intro _
  rw [showing.shown, showing.held]

/-- The delegation is being changed, and what is shown may differ from it. -/
structure Amid (installed shown held : Option Prefix) (world : World) : Prop where
  showing : Showing installed shown held world
  changing : Changing world

namespace Amid

variable {installed shown held : Option Prefix} {world after : World}

theorem disciplined (amid : Amid installed shown held world) : Disciplined installed world := by
  refine ⟨amid.showing.bracketed, ?_⟩
  intro settled
  exact absurd amid.changing settled

theorem advance (amid : Amid installed shown held world) (moment : Moment) :
    Amid installed shown held (world.advance moment) := by
  refine ⟨amid.showing.advance moment, ?_⟩
  unfold Changing
  rw [(world.advance_passes moment).running]
  exact amid.changing

theorem stored (amid : Amid installed shown held world) (binding : Binding)
    (server : Option Duid) :
    Amid installed shown (some binding.net) (world.stored binding server) :=
  ⟨amid.showing.stored binding server, amid.changing⟩

theorem cleared (amid : Amid installed shown held world) :
    Amid installed shown none world.cleared := by
  refine ⟨amid.showing.cleared, ?_⟩
  have same : world.cleared.running = world.running := by
    unfold World.cleared
    cases world.client.binding <;> rfl
  unfold Changing
  rw [same]
  exact amid.changing

end Amid

/-! ### The two procedures -/

section Procedures

variable {installed : Option Prefix} {Allowed : World → Op → Moment → Prop}

theorem agreed_keptAside : KeptBy Op.aside Allowed (Agreed installed) := by
  intro op aside world moment answer after agreed _ handled
  obtain ⟨held, showing⟩ := agreed
  exact ⟨held, showing.passes (handle_passes aside handled)⟩

theorem withdraw_safe {shown held : Option Prefix} {old : Option Binding} {world : World}
    (same : old.map Binding.net = shown) (amid : Amid installed shown held world) :
    Safe handle (Disciplined installed) Allowed (withdraw old)
      (fun _ => Amid installed none held) world := by
  cases old with
  | none =>
      rw [← same] at amid
      exact amid
  | some binding =>
      rw [← same] at amid
      intro moment _ _ after handled
      cases handled
      have now := amid.advance moment
      have gone : Amid installed none held
          ((world.advance moment).record (.callback binding.net false)) :=
        ⟨now.showing.vanish, now.changing⟩
      exact ⟨gone.disciplined, gone⟩

theorem announce_safe {shown : Option Prefix} {old : Option Binding} {binding : Binding}
    {world : World} (same : old.map Binding.net = shown)
    (amid : Amid installed shown (some binding.net) world) :
    Safe handle (Disciplined installed) Allowed (announce old binding)
      (fun _ => Amid installed (some binding.net) (some binding.net)) world := by
  have report : ∀ current, Amid installed none (some binding.net) current →
      Safe handle (Disciplined installed) Allowed (perform (.callback binding.net true))
        (fun _ => Amid installed (some binding.net) (some binding.net)) current := by
    intro current silent moment _ _ after handled
    cases handled
    have now := silent.advance moment
    have told : Amid installed (some binding.net) (some binding.net)
        ((current.advance moment).record (.callback binding.net true)) :=
      ⟨now.showing.appear binding.net, now.changing⟩
    exact ⟨told.disciplined, told⟩
  cases old with
  | none =>
      rw [← same] at amid
      exact report world amid
  | some held =>
      unfold announce
      dsimp only
      split
      · next unchanged =>
          rw [← same, Option.map_some, unchanged] at amid
          exact amid
      · apply Safe.bind
        apply (withdraw_safe same amid).mono
        intro _ after silent
        exact report after silent

theorem applyUsable_safe (reply : Answer6) (usable : Option (Prefix × Duration))
    {held : Option Prefix} {world : World} (amid : Amid installed held held world) :
    Safe handle (Disciplined installed) Allowed (applyUsable reply usable)
      (fun _ after => ∃ held, Amid installed held held after) world := by
  cases usable with
  | none => exact ⟨held, amid⟩
  | some chosen =>
      obtain ⟨net, lifetime⟩ := chosen
      apply Safe.perform_bind
      intro early _ now timed handledNow
      cases handledNow
      have atNow := amid.advance early
      refine ⟨atNow.disciplined, ?_⟩
      apply Safe.perform_bind
      intro moment _ old stored handledStore
      cases handledStore
      have before := atNow.advance moment
      have replaced := before.stored
        { net := net, boundAt := (world.advance early).clock
          expiresAt := (world.advance early).clock + lifetime } reply.serverID
      refine ⟨replaced.disciplined, ?_⟩
      apply Safe.bind
      apply (announce_safe before.showing.held replaced).mono
      intro _ after told
      exact ⟨some net, told⟩

theorem leave_keeps (procedure : Procedure) :
    Keeps handle (Disciplined installed) Allowed (Agreed installed)
      (perform (.leave procedure)) := by
  intro world agreed moment _ _ after handled
  cases handled
  obtain ⟨held, showing⟩ := agreed
  have left : Agreed installed (world.advance moment).left :=
    ⟨held, (showing.advance moment).left⟩
  exact ⟨left.disciplined, left⟩

theorem applyReply_keeps (reply : Answer6) :
    Keeps handle (Disciplined installed) Allowed (Agreed installed) (applyReply reply) := by
  intro world agreed
  obtain ⟨held, showing⟩ := agreed
  apply Safe.perform_bind
  intro moment _ _ after handled
  cases handled
  have begun : Amid installed held held ((world.advance moment).entered .applyReply) :=
    ⟨(showing.advance moment).entered .applyReply, Or.inl List.mem_cons_self⟩
  refine ⟨begun.disciplined, ?_⟩
  apply Safe.bind
  apply (applyUsable_safe reply (usablePrefix reply) begun).mono
  intro applied done finished
  obtain ⟨now, amid⟩ := finished
  have ended : Keeps handle (Disciplined installed) Allowed (Agreed installed)
      (do perform (.leave .applyReply); pure applied) :=
    Keeps.bind (leave_keeps .applyReply) (fun _ => Keeps.ret applied)
  exact ended done ⟨now, amid.showing⟩

theorem dropPrefix_keeps :
    Keeps handle (Disciplined installed) Allowed (Agreed installed) dropPrefix := by
  intro world agreed
  obtain ⟨held, showing⟩ := agreed
  apply Safe.perform_bind
  intro moment _ _ after handled
  cases handled
  have begun : Amid installed held held ((world.advance moment).entered .dropPrefix) :=
    ⟨(showing.advance moment).entered .dropPrefix, Or.inr List.mem_cons_self⟩
  refine ⟨begun.disciplined, ?_⟩
  apply Safe.perform_bind
  intro later _ old cleared handledClear
  cases handledClear
  have before := begun.advance later
  refine ⟨before.cleared.disciplined, ?_⟩
  apply Safe.bind
  apply (withdraw_safe before.showing.held before.cleared).mono
  intro _ done silent
  exact leave_keeps .dropPrefix done ⟨none, silent.showing⟩

theorem acquireFresh_keeps (cfg : Config) (fuel : Nat) :
    Keeps handle (Disciplined installed) Allowed (Agreed installed)
      (acquireFresh cfg fuel) := by
  intro world agreed
  obtain ⟨held, showing⟩ := agreed
  apply Safe.perform_bind
  intro moment _ _ after handled
  cases handled
  have begun : Agreed installed ((world.advance moment).entered .acquireFresh) :=
    ⟨held, (showing.advance moment).entered .acquireFresh⟩
  have rest : Keeps handle (Disciplined installed) Allowed (Agreed installed)
      (do let acquired ← solicit cfg fuel; perform (.leave .acquireFresh); pure acquired) := by
    apply Keeps.bind
      (keeps_solicit (fun _ => Agreed.disciplined) agreed_keptAside applyReply_keeps cfg fuel)
    intro acquired
    exact Keeps.bind (leave_keeps .acquireFresh) (fun _ => Keeps.ret acquired)
  exact ⟨begun.disciplined, rest _ begun⟩

theorem start_keeps (cfg : Config) (fuel : Nat) :
    Keeps handle (Disciplined installed) Allowed (Agreed installed) (start cfg fuel) := by
  apply keeps_run (fun _ => Agreed.disciplined) agreed_keptAside.idle
  exact keeps_sessionTurn (fun _ => Agreed.disciplined) agreed_keptAside applyReply_keeps
    dropPrefix_keeps acquireFresh_keeps cfg.normalize

end Procedures

/-! ### Every run -/

/-- Whatever the servers answer, whatever is lost and whichever methods are called
when: at every point of every run the callbacks so far are well bracketed, and
unless the delegation is just being changed the active prefix is the held one. -/
theorem callbacks_disciplined (cfg : Config) (fuel : Nat) (client : Client) (clock : Instant)
    (moments : List Moment) :
    Disciplined (client.binding.map Binding.net)
      (exec handle (start cfg fuel) (World.start client clock) moments) := by
  have initially : Agreed (client.binding.map Binding.net) (World.start client clock) :=
    ⟨client.binding.map Binding.net, trivial, rfl, rfl⟩
  have safe : Safe handle (Disciplined _) (fun _ _ _ => True) (start cfg fuel)
      (fun _ => Agreed _) (World.start client clock) := start_keeps cfg fuel _ initially
  apply exec_of_safe _ _ moments initially.disciplined safe
  apply permitted_of_forall
  intro world op moment
  trivial

end BridgeDhcp.Pd
