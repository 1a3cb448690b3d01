/-
Which prefix a client has after a REPLY that confirms the one it holds.

`applyReply` takes the shortest prefix on offer, and of these the first in the list; it
does not look at the prefix that is held.
-/

import BridgeDhcp.FirstBest
import BridgeDhcp.InteractionRefinement
import BridgeDhcp.Pd.StateMachine
import Mathlib.Order.OrderDual

set_option autoImplicit false

namespace BridgeDhcp.Pd

open Netip GoTime Packet Interaction FirstBest

/-! ### The entry that is taken -/

def offered (delegated : IAPrefix) : Bool :=
  !decide (delegated.validLifetime ≤ 0 ∨ delegated.net = none)

/-- The prefix an entry stands for, if its address has a valid length. -/
def resolved (delegated : IAPrefix) : Option Prefix := delegated.net.bind IPNet.toPrefix

/-- Every offer before the entry is longer, and none after it is shorter. -/
def Foremost (delegated : List IAPrefix) (entry : IAPrefix) : Prop :=
  ∃ before after, delegated = before ++ entry :: after ∧ offered entry = true ∧
    (∀ earlier ∈ before, offered earlier = true → prefixLen entry < prefixLen earlier) ∧
    (∀ later ∈ after, offered later = true → prefixLen entry ≤ prefixLen later)

def offerRank (delegated : IAPrefix) : Natᵒᵈ := OrderDual.toDual (prefixLen delegated)

theorem considerPrefix_eq_keepBest : considerPrefix = keepBest offered offerRank := by
  funext best delegated
  unfold considerPrefix keepBest offered
  by_cases passed : delegated.validLifetime ≤ 0 ∨ delegated.net = none
  · rw [if_pos passed, decide_eq_true passed]
    rfl
  · rw [if_neg passed, decide_eq_false passed]
    cases best with
    | none => rfl
    | some held => rfl

theorem bestPrefix_eq_some_iff (delegated : List IAPrefix) (entry : IAPrefix) :
    bestPrefix delegated = some entry ↔ Foremost delegated entry := by
  unfold bestPrefix
  rw [considerPrefix_eq_keepBest]
  exact firstBest_eq_some_iff delegated entry

theorem Foremost.unique {delegated : List IAPrefix} {entry other : IAPrefix}
    (foremost : Foremost delegated entry) (another : Foremost delegated other) :
    other = entry := by
  rw [← bestPrefix_eq_some_iff] at foremost another
  rw [another] at foremost
  exact Option.some.inj foremost

theorem offered_of_resolved {entry : IAPrefix} {net : Prefix} (positive : 0 < entry.validLifetime)
    (resolves : resolved entry = some net) : offered entry = true := by
  have given : entry.net ≠ none := by
    intro none
    rw [resolved, none] at resolves
    cases resolves
  unfold offered
  rw [decide_eq_false (not_or.mpr ⟨not_le.mpr positive, given⟩)]
  rfl

theorem exists_foremost {delegated : List IAPrefix} {entry : IAPrefix} (listed : entry ∈ delegated)
    (positive : offered entry = true) : ∃ taken, Foremost delegated taken := by
  cases found : bestPrefix delegated with
  | none =>
      have none : firstBest offered offerRank delegated = none := by
        rw [← found, bestPrefix, considerPrefix_eq_keepBest]
        rfl
      rw [(firstBest_eq_none_iff _ _ _).mp none entry listed] at positive
      cases positive
  | some taken => exact ⟨taken, (bestPrefix_eq_some_iff delegated taken).mp found⟩

theorem usablePrefix_of_foremost {reply : Answer6} {iapd : IAPD} {entry : IAPrefix}
    (answers : reply.iapd = some iapd) (ok : iapd.status = none ∨ iapd.status = some 0)
    (foremost : Foremost iapd.prefixes entry) :
    usablePrefix reply = (resolved entry).map (fun net => (net, entry.validLifetime)) := by
  have best := (bestPrefix_eq_some_iff iapd.prefixes entry).mpr foremost
  unfold usablePrefix resolved
  simp only [answers, Option.bind_eq_bind, Option.bind_some, if_pos ok, best]
  cases entry.net with
  | none => rfl
  | some net =>
      simp only [Option.bind_some]
      cases net.toPrefix with
      | none => rfl
      | some chosen => rfl

/-! ### What applying a reply does -/

def callbacks (trace : List Stamped) : List (Prefix × Bool) :=
  trace.filterMap (fun stamped =>
    match stamped.event with
    | .callback net ok => some (net, ok)
    | _ => none)

/-- The fields that `applyReply` writes and the callbacks so far. -/
structure Shows (world : World) (binding : Option Binding) (server : Option Duid)
    (said : List (Prefix × Bool)) : Prop where
  binding : world.client.binding = binding
  server : world.client.serverDUID = server
  said : callbacks world.trace = said

theorem Shows.of_world (world : World) :
    Shows world world.client.binding world.client.serverDUID (callbacks world.trace) :=
  ⟨rfl, rfl, rfl⟩

section Operations

variable {world : World} {binding : Option Binding} {server : Option Duid}
  {said : List (Prefix × Bool)}

theorem Shows.advance (shows : Shows world binding server said) (moment : Moment) :
    Shows (world.advance moment) binding server said := by
  apply World.advance_invariant (fun after => Shows after binding server said)
  · exact ⟨shows.binding, shows.server, shows.said⟩
  · intro after call earlier
    cases call with
    | _ => exact ⟨earlier.binding, earlier.server, earlier.said⟩

theorem Shows.enter (shows : Shows world binding server said) (moment : Moment)
    (procedure : Procedure) :
    ∃ after, handle world moment (.enter procedure) = some ((), after) ∧
      Shows after binding server said := by
  have advanced := shows.advance moment
  exact ⟨_, rfl, advanced.binding, advanced.server, advanced.said⟩

theorem Shows.leave (shows : Shows world binding server said) (moment : Moment)
    (procedure : Procedure) :
    ∃ after, handle world moment (.leave procedure) = some ((), after) ∧
      Shows after binding server said := by
  have advanced := shows.advance moment
  exact ⟨_, rfl, advanced.binding, advanced.server, advanced.said⟩

theorem Shows.now (shows : Shows world binding server said) (moment : Moment) (site : Site) :
    ∃ after, handle world moment (.now site) = some (moment.now, after) ∧
      Shows after binding server said := by
  refine ⟨world.advance moment, ?_, shows.advance moment⟩
  unfold handle World.answer
  rw [World.advance_clock]

theorem Shows.store (shows : Shows world binding server said) (moment : Moment)
    (next : Binding) (duid : Option Duid) :
    ∃ after, handle world moment (.store next duid) = some (binding, after) ∧
      Shows after (some next) duid said := by
  have advanced := shows.advance moment
  refine ⟨(world.advance moment).stored next duid, ?_, rfl, rfl, advanced.said⟩
  unfold handle World.answer
  rw [advanced.binding]

theorem Shows.callback (shows : Shows world binding server said) (moment : Moment)
    (net : Prefix) (ok : Bool) :
    ∃ after, handle world moment (.callback net ok) = some ((), after) ∧
      Shows after binding server ((net, ok) :: said) := by
  have advanced := shows.advance moment
  refine ⟨_, rfl, advanced.binding, advanced.server, ?_⟩
  rw [← advanced.said]
  rfl

end Operations

def announced (old : Option Binding) (net : Prefix) : List (Prefix × Bool) :=
  match old with
  | none => [(net, true)]
  | some held => if held.net = net then [] else [(net, true), (held.net, false)]

section Applied

variable {world : World} {binding : Option Binding} {server : Option Duid}
  {said : List (Prefix × Bool)}

theorem Shows.announce {Value : Type} (shows : Shows world binding server said)
    (old : Option Binding) (next : Binding) (rest : Unit → Routine Value)
    (moments : Nat → Moment) :
    ∃ after later,
      finish handle (announce old next >>= rest) world moments =
        finish handle (rest ()) after later ∧
      Shows after binding server (announced old next.net ++ said) := by
  cases old with
  | none =>
      obtain ⟨after, told, shown⟩ := shows.callback (moments 0) next.net true
      exact ⟨after, _, finish_act handle told, shown⟩
  | some held =>
      unfold Pd.announce announced
      dsimp only
      split
      · exact ⟨world, moments, rfl, shows⟩
      · obtain ⟨middle, withdrawn, between⟩ := shows.callback (moments 0) held.net false
        obtain ⟨after, told, shown⟩ := between.callback (moments 1) next.net true
        exact ⟨after, _, (finish_act handle withdrawn).trans (finish_act handle told), shown⟩

theorem Shows.applyReply_unusable (shows : Shows world binding server said) {reply : Answer6}
    (unusable : usablePrefix reply = none) (moments : Nat → Moment) :
    ∃ after, finish handle (applyReply reply) world moments = some (false, after) ∧
      Shows after binding server said := by
  obtain ⟨entered, first, inside⟩ := shows.enter (moments 0) .applyReply
  obtain ⟨after, last, outside⟩ := inside.leave (moments 1) .applyReply
  refine ⟨after, ?_, outside⟩
  rw [Pd.applyReply_unusable unusable]
  exact (finish_act handle first).trans (finish_act handle last)

theorem Shows.applyReply_usable (shows : Shows world binding server said) {reply : Answer6}
    {net : Prefix} {lifetime : Duration} (usable : usablePrefix reply = some (net, lifetime))
    (moments : Nat → Moment) :
    ∃ after, finish handle (applyReply reply) world moments = some (true, after) ∧
      Shows after
        (some { net := net, boundAt := (moments 1).now, expiresAt := (moments 1).now + lifetime })
        reply.serverID (announced binding net ++ said) := by
  obtain ⟨entered, first, inside⟩ := shows.enter (moments 0) .applyReply
  obtain ⟨timed, second, later⟩ := inside.now (moments 1) .apply
  obtain ⟨stored, third, holds⟩ := later.store (moments 2)
    { net := net, boundAt := (moments 1).now, expiresAt := (moments 1).now + lifetime }
    reply.serverID
  obtain ⟨told, rest, fourth, said⟩ := holds.announce binding
    { net := net, boundAt := (moments 1).now, expiresAt := (moments 1).now + lifetime }
    (fun _ => (.act (.leave .applyReply) (fun _ => .ret true) : Routine Bool))
    (fun count => moments (count + 3))
  obtain ⟨after, last, outside⟩ := said.leave (rest 0) .applyReply
  refine ⟨after, ?_, outside⟩
  rw [Pd.applyReply_usable usable]
  exact (finish_act handle first).trans ((finish_act handle second).trans
    ((finish_act handle third).trans (fourth.trans (finish_act handle last))))

end Applied

/-! ### Confirming a delegation -/

/-- The client still has the prefix and nobody was told anything. -/
def Unmoved (held : Binding) (before after : World) : Prop :=
  after.client.binding.map Binding.net = some held.net ∧
    callbacks after.trace = callbacks before.trace

/-- The delegation is recorded anew, with the time and the server of the reply. -/
def Refreshed (held : Binding) (reply : Answer6) (now : Instant) (lifetime : Duration)
    (after : World) : Prop :=
  after.client.binding = some { net := held.net, boundAt := now, expiresAt := now + lifetime } ∧
    after.client.serverDUID = reply.serverID

theorem announced_self (held : Binding) : announced (some held) held.net = [] := if_pos rfl

/-- A reply without an error that still lists the held prefix leaves it in place,
without a callback, exactly if the shortest offer, the first of these in the list,
resolves to no other prefix.  If it resolves to the held one, the reply is applied
and only the times and the server change. -/
theorem confirmation_unmoved_iff {world : World} {held : Binding}
    (holds : world.client.binding = some held) {reply : Answer6} {iapd : IAPD}
    (answers : reply.iapd = some iapd) (ok : iapd.status = none ∨ iapd.status = some 0)
    {entry : IAPrefix} (listed : entry ∈ iapd.prefixes) (positive : 0 < entry.validLifetime)
    (same : resolved entry = some held.net) (moments : Nat → Moment) :
    ∃ applied after, finish handle (applyReply reply) world moments = some (applied, after) ∧
      (Unmoved held world after ↔
        ∃ taken, Foremost iapd.prefixes taken ∧
          ∀ net, resolved taken = some net → net = held.net) ∧
      (∀ taken, Foremost iapd.prefixes taken → resolved taken = some held.net →
        applied = true ∧
          Refreshed held reply (moments 1).now taken.validLifetime after) := by
  obtain ⟨taken, foremost⟩ := exists_foremost listed (offered_of_resolved positive same)
  have usable := usablePrefix_of_foremost answers ok foremost
  have shows := Shows.of_world world
  rw [holds] at shows
  cases resolves : resolved taken with
  | none =>
      rw [resolves] at usable
      obtain ⟨after, ends, shown⟩ := shows.applyReply_unusable usable moments
      refine ⟨false, after, ends, ?_, ?_⟩
      · have unmoved : Unmoved held world after := by
          refine ⟨?_, shown.said⟩
          rw [shown.binding]
          rfl
        refine iff_of_true unmoved ⟨taken, foremost, ?_⟩
        intro net impossible
        rw [resolves] at impossible
        cases impossible
      · intro other first resolvesToHeld
        rw [foremost.unique first, resolves] at resolvesToHeld
        cases resolvesToHeld
  | some net =>
      rw [resolves] at usable
      obtain ⟨after, ends, shown⟩ := shows.applyReply_usable usable moments
      refine ⟨true, after, ends, ?_, ?_⟩
      · constructor
        · intro unmoved
          have kept := unmoved.1
          rw [shown.binding] at kept
          refine ⟨taken, foremost, ?_⟩
          intro other resolvesToo
          rw [resolves] at resolvesToo
          cases resolvesToo
          exact Option.some.inj kept
        · rintro ⟨other, first, resolvesTo⟩
          rw [foremost.unique first] at resolvesTo
          have kept : net = held.net := resolvesTo net resolves
          subst kept
          refine ⟨?_, ?_⟩
          · rw [shown.binding]
            rfl
          · rw [shown.said, announced_self]
            rfl
      · intro other first resolvesToHeld
        have taking := foremost.unique first
        subst taking
        rw [resolves] at resolvesToHeld
        cases resolvesToHeld
        exact ⟨rfl, shown.binding, shown.server⟩

/-! ### Two replies -/

def sampleHolder : World := World.start (Client.new.restore sampleBinding 0) 0

/-- An entry of four hours, given by the first eight bytes of its address. -/
def sampleEntry (network : List UInt8) (length : Nat) : IAPrefix where
  validSeconds := 14400
  net := some
    { ip := network ++ [0, 0, 0, 0, 0, 0, 0, 0]
      mask := cidrMask length
      maskFits := by simp [cidrMask] }

def heldEntry : IAPrefix := sampleEntry [0x20, 0x01, 0x0d, 0xb8, 0, 0, 0, 0] 56

def siblingEntry : IAPrefix := sampleEntry [0x20, 0x01, 0x0d, 0xb8, 0, 0, 1, 0] 56

def replyWith (delegated : List IAPrefix) : Answer6 :=
  { sampleAnswer .reply with iapd := some { status := none, prefixes := delegated } }

/-- A reply with the held prefix before another of its length refreshes it. -/
theorem confirmation_unmoved_before_sibling :
    ∃ after, finish handle (applyReply (replyWith [heldEntry, siblingEntry])) sampleHolder
        (fun _ => quiet 0 true) = some (true, after) ∧
      Unmoved sampleBinding sampleHolder after ∧
      Refreshed sampleBinding (replyWith [heldEntry, siblingEntry]) 0 (14400 * second) after := by
  have same : resolved heldEntry = some sampleBinding.net := by decide +kernel
  have foremost : Foremost [heldEntry, siblingEntry] heldEntry := by
    refine ⟨[], [siblingEntry], rfl, by decide, ?_, ?_⟩
    · intro earlier member
      cases member
    · intro later member
      rw [List.mem_singleton.mp member]
      decide
  obtain ⟨applied, after, ends, unmoved, refreshed⟩ :=
    @confirmation_unmoved_iff sampleHolder sampleBinding rfl
      (replyWith [heldEntry, siblingEntry]) _ rfl (Or.inl rfl) heldEntry List.mem_cons_self
      (by decide) same (fun _ => quiet 0 true)
  obtain ⟨rfl, anew⟩ := refreshed heldEntry foremost same
  refine ⟨after, ends, unmoved.mpr ⟨heldEntry, foremost, ?_⟩, anew⟩
  intro net resolves
  rw [same] at resolves
  exact (Option.some.inj resolves).symm

def widerEntry : IAPrefix := sampleEntry [0x20, 0x01, 0x0d, 0xb8, 1, 0, 0, 0] 48

def fate (delegated : List IAPrefix) : Option (Bool × Option Prefix × List (Prefix × Bool)) :=
  (finish handle (applyReply (replyWith delegated)) sampleHolder (fun _ => quiet 0 true)).map
    (fun result =>
      (result.1, result.2.client.binding.map Binding.net, callbacks result.2.trace))

/-- A reply that lists a shorter prefix beside the held one, or another of the same
length before it, makes the client withdraw the held prefix and take the other. -/
theorem confirmation_renumbers :
    resolved heldEntry = some sampleBinding.net ∧ 0 < heldEntry.validLifetime ∧
    (∃ wider, resolved widerEntry = some wider ∧ wider ≠ sampleBinding.net ∧
      fate [heldEntry, widerEntry] =
        some (true, some wider, [(wider, true), (sampleBinding.net, false)])) ∧
    (∃ sibling, resolved siblingEntry = some sibling ∧ sibling ≠ sampleBinding.net ∧
      fate [siblingEntry, heldEntry] =
        some (true, some sibling, [(sibling, true), (sampleBinding.net, false)])) := by
  refine ⟨by decide +kernel, by decide, ⟨⟨.v6 0x20010db8010000000000000000000000#128, 48, rfl,
    by decide⟩, ?_, ?_, ?_⟩, ⟨⟨.v6 0x20010db8000001000000000000000000#128, 56, rfl, by decide⟩,
    ?_, ?_, ?_⟩⟩
  all_goals decide +kernel

end BridgeDhcp.Pd
