/-
Withdrawn prefixes and the hosts that hear of the withdrawal.

The countdown of a withdrawn prefix is consumed by every advertisement, also by one that
goes to a single host and by one that is never written.
-/

import BridgeDhcp.Server.AdvertLoops

set_option autoImplicit false

namespace BridgeDhcp.Server

open Netip GoMap Packet StepRun

/-! ### The claimed property -/

/-- Since the prefix was last served, all nodes were sent it with zero lifetimes. -/
def ReachedAll (net : Prefix) : List AdvertEvent → Prop
  | [] => False
  | .served prefixes :: older => ¬ Live prefixes net ∧ ReachedAll net older
  | .wrote advert succeeded :: older =>
      (succeeded = true ∧ advert.dst.ip = allNodesIP6 ∧ Deprecates advert net) ∨
        ReachedAll net older

instance decidableReachedAll (net : Prefix) : (trace : List AdvertEvent) →
    Decidable (ReachedAll net trace)
  | [] => inferInstanceAs (Decidable False)
  | .served prefixes :: older =>
      have := decidableReachedAll net older
      inferInstanceAs (Decidable (¬ Live prefixes net ∧ ReachedAll net older))
  | .wrote advert succeeded :: older =>
      have := decidableReachedAll net older
      inferInstanceAs (Decidable ((succeeded = true ∧ advert.dst.ip = allNodesIP6 ∧
        Deprecates advert net) ∨ ReachedAll net older))

def AdvertEvent.sentAlive (net : Prefix) : AdvertEvent → Bool
  | .served _ => false
  | .wrote advert succeeded => succeeded && decide (Advertises advert net)

/-- A withdrawn prefix that was sent alive leaves the countdown in this step only if
all nodes were sent the withdrawal. -/
def LeavesReached (world : AdvertWorld) (input : AdvertInput) : Prop :=
  ∀ net, (world.server.deprecating.lookup net).isSome = true →
    (world.step input).server.deprecating.lookup net = none →
    ¬ Live world.served net → world.trace.any (AdvertEvent.sentAlive net) = true →
    ReachedAll net world.trace

/-- Every advertisement that carries a withdrawn prefix goes to all nodes and is
written; no countdown is updated with prefixes that are not served any more; and no
prefix is withdrawn again while the countdown of its previous withdrawal goes on. -/
def Spreads (world : AdvertWorld) : AdvertInput → Prop
  | .serve prefixes =>
      ∀ net, Live world.served net → ¬ Live prefixes net →
        world.server.deprecating.lookup net = none
  | .update who _ =>
      ∀ dst served, world.stage who = .looked dst served →
        ∀ net, Live served net ↔ Live world.served net
  | .transmit who linkLocal _ _ written =>
      ∀ dst prefixes routerLifetime, world.stage who = .ready dst prefixes routerLifetime →
        ∀ net, prefixes.lookup net = some false →
          dst = allNodes ∧ linkLocal.isValid = true ∧ written = true
  | _ => True

/-! ### Advertisements under way -/

def Carries (world : AdvertWorld) (who : Advertiser) (net : Prefix) : Prop :=
  ∃ dst prefixes routerLifetime, world.stage who = .ready dst prefixes routerLifetime ∧
    prefixes.lookup net = some false

def AtWrite (world : AdvertWorld) (who : Advertiser) : Prop :=
  ∃ dst prefixes routerLifetime, world.stage who = .ready dst prefixes routerLifetime

theorem Carries.atWrite {world : AdvertWorld} {who : Advertiser} {net : Prefix}
    (carries : Carries world who net) : AtWrite world who := by
  obtain ⟨dst, prefixes, routerLifetime, stage, _⟩ := carries
  exact ⟨dst, prefixes, routerLifetime, stage⟩

theorem Carries.of_stage {world next : AdvertWorld} {who : Advertiser} {net : Prefix}
    (carries : Carries world who net) (same : next.stage who = world.stage who) :
    Carries next who net := by
  obtain ⟨dst, prefixes, routerLifetime, stage, dead⟩ := carries
  exact ⟨dst, prefixes, routerLifetime, same.trans stage, dead⟩

/-- The countdown and the served prefixes are as before, all nodes know at least as
much, and what they do not know is still about to be written. -/
structure Continues (world next : AdvertWorld) : Prop where
  server : next.server = world.server
  served : next.served = world.served
  heard : ∀ net, ReachedAll net world.trace → ReachedAll net next.trace
  carries : ∀ who net, Carries world who net → ¬ ReachedAll net next.trace → Carries next who net

theorem Continues.refl (world : AdvertWorld) : Continues world world :=
  ⟨rfl, rfl, fun _ reached => reached, fun _ _ carries _ => carries⟩

theorem Continues.move {world : AdvertWorld} {who : Advertiser} (elsewhere : ¬ AtWrite world who)
    (next : AdvertStage) : Continues world (world.move who next) := by
  refine ⟨rfl, rfl, fun _ reached => reached, ?_⟩
  intro other net carries _
  have different : other ≠ who := by
    intro same
    rw [same] at carries
    exact elsewhere carries.atWrite
  exact carries.of_stage (world.move_stage_of_ne different next)

theorem not_atWrite_of_stage {world : AdvertWorld} {who : Advertiser} {stage : AdvertStage}
    (at_ : world.stage who = stage)
    (different : ∀ dst prefixes routerLifetime, stage ≠ .ready dst prefixes routerLifetime) :
    ¬ AtWrite world who := by
  rintro ⟨dst, prefixes, routerLifetime, ready⟩
  rw [at_] at ready
  exact different dst prefixes routerLifetime ready

theorem wake_continues {world : AdvertWorld} (waiting : world.stage .loop = .waiting) (wake : Wake) :
    Continues world (world.wake wake) := by
  have elsewhere : ¬ AtWrite world .loop := not_atWrite_of_stage waiting (by simp)
  cases wake with
  | done =>
      unfold AdvertWorld.wake
      by_cases done : world.done = true
      · simp only [done, if_true]
        exact Continues.move elsewhere _
      · simp only [done]
        exact Continues.refl world
  | kick =>
      unfold AdvertWorld.wake
      by_cases kicked : world.kicked = true
      · simp only [kicked, if_true]
        have moved := Continues.move elsewhere (loopTurn world.server.cfg)
        exact ⟨moved.server, moved.served, moved.heard, moved.carries⟩
      · simp only [kicked]
        exact Continues.refl world
  | timer => exact Continues.move elsewhere _

/-! ### Writing -/

section Writing

variable (world : AdvertWorld) (advert : Option Advert) (written : Bool)

theorem AdvertWorld.write_heard {net : Prefix} (reached : ReachedAll net world.trace) :
    ReachedAll net (world.write advert written).trace := by
  cases advert with
  | none => exact reached
  | some advert => exact Or.inr reached

end Writing

theorem Continues.write {world : AdvertWorld} {who : Advertiser} {advert : Option Advert}
    {written : Bool} (next : AdvertStage)
    (told : ∀ net, Carries world who net → ReachedAll net (world.write advert written).trace) :
    Continues world ((world.write advert written).move who next) := by
  refine ⟨world.write_server advert written, world.write_served advert written,
    fun net reached => world.write_heard advert written reached, ?_⟩
  intro other net carries unreached
  have different : other ≠ who := by
    intro same
    rw [same] at carries
    exact unreached (told net carries)
  refine carries.of_stage ?_
  rw [AdvertWorld.move_stage_of_ne _ different, AdvertWorld.write_stage]

theorem transmit_continues {world : AdvertWorld} {who : Advertiser} {linkLocal : Addr}
    {mac : List UInt8} {order : RangeOrder (Prefix × Bool)} {written : Bool}
    (spreads : Spreads world (.transmit who linkLocal mac order written)) :
    Continues world (world.step (.transmit who linkLocal mac order written)) := by
  simp only [AdvertWorld.step]
  split
  · next dst prefixes routerLifetime ready =>
      refine Continues.write _ ?_
      rintro net ⟨_, _, _, sameReady, dead⟩
      rw [ready] at sameReady
      cases sameReady
      obtain ⟨isAll, valid, succeeded⟩ := spreads dst prefixes routerLifetime ready net dead
      obtain ⟨advert, sent, toDst, carried⟩ :=
        transmitRA_deprecates mac order dst routerLifetime valid dead
      rw [sent]
      refine Or.inl ⟨succeeded, ?_, carried⟩
      rw [toDst, isAll]
      rfl
  · next prefixes ready =>
      refine Continues.write _ ?_
      intro net carries
      exact absurd carries.atWrite (not_atWrite_of_stage ready (by simp))
  · exact Continues.refl world

theorem step_cases {world : AdvertWorld} {input : AdvertInput} (spreads : Spreads world input) :
    (∃ prefixes, input = .serve prefixes) ∨
    (∃ who orders dst served, input = .update who orders ∧
      world.stage who = .looked dst served ∧
      world.step input =
        { world with server := (currentPrefixes orders served world.server).1 }.move who
          (.ready dst (currentPrefixes orders served world.server).2
            (seconds16 world.server.cfg.routerLifetime))) ∨
    Continues world (world.step input) := by
  cases input with
  | serve prefixes => exact Or.inl ⟨prefixes, rfl⟩
  | kick =>
      exact Or.inr (Or.inr ⟨rfl, rfl, fun _ reached => reached, fun _ _ carries _ => carries⟩)
  | close =>
      exact Or.inr (Or.inr ⟨rfl, rfl, fun _ reached => reached, fun _ _ carries _ => carries⟩)
  | select wake =>
      refine Or.inr (Or.inr ?_)
      simp only [AdvertWorld.step]
      split
      · next waiting => exact wake_continues waiting wake
      · exact Continues.refl world
  | frame pkt =>
      refine Or.inr (Or.inr ?_)
      simp only [AdvertWorld.step]
      split
      · next waiting _ => exact Continues.move (not_atWrite_of_stage waiting (by simp)) _
      · exact Continues.refl world
  | look who =>
      refine Or.inr (Or.inr ?_)
      simp only [AdvertWorld.step]
      split
      · next called => exact Continues.move (not_atWrite_of_stage called (by simp)) _
      · next called => exact Continues.move (not_atWrite_of_stage called (by simp)) _
      · exact Continues.refl world
  | update who orders =>
      refine Or.inr ?_
      simp only [AdvertWorld.step]
      split
      · next dst served looked => exact Or.inl ⟨who, orders, dst, served, rfl, looked, rfl⟩
      · exact Or.inr (Continues.refl world)
  | transmit who linkLocal mac order written => exact Or.inr (Or.inr (transmit_continues spreads))

/-! ### The invariant -/

/-- A withdrawn prefix of which not all nodes were told is still about to be written:
after one call by one of the goroutines, after two calls by both. -/
def UnderWay (world : AdvertWorld) : Prop :=
  ∀ net left, world.server.deprecating.lookup net = some left → ¬ Live world.served net →
    ¬ ReachedAll net world.trace →
    (left = 2 ∧ ∃ who, Carries world who net) ∨ (left = 1 ∧ ∀ who, Carries world who net)

theorem UnderWay.continues {world next : AdvertWorld} (underWay : UnderWay world)
    (continues : Continues world next) : UnderWay next := by
  intro net left pending gone unreached
  rw [continues.server] at pending
  rw [continues.served] at gone
  have before : ¬ ReachedAll net world.trace :=
    fun reached => unreached (continues.heard net reached)
  rcases underWay net left pending gone before with ⟨two, who, carries⟩ | ⟨one, both⟩
  · exact Or.inl ⟨two, who, continues.carries who net carries unreached⟩
  · exact Or.inr ⟨one, fun who => continues.carries who net (both who) unreached⟩

theorem UnderWay.serve {world : AdvertWorld} (underWay : UnderWay world) {prefixes : List Prefix}
    (spreads : Spreads world (.serve prefixes)) : UnderWay (world.step (.serve prefixes)) := by
  intro net left pending gone unreached
  have before : ¬ Live world.served net := by
    intro live
    have settled := spreads net live gone
    change world.server.deprecating.lookup net = some left at pending
    rw [settled] at pending
    cases pending
  have still : ¬ ReachedAll net world.trace := fun reached => unreached ⟨gone, reached⟩
  exact underWay net left pending before still

/-- The prefix is withdrawn and the server remembers it: then it was reported now, and
either it had not been reported before or it was counted. -/
theorem awaiting_cases {server : RAServer} {net : Prefix} {count : Nat}
    (queued : awaiting server net = some count) :
    server.deprecating.lookup net = some count ∨
      (server.deprecating.lookup net = none ∧ count = deprecateResends) := by
  unfold awaiting at queued
  split at queued
  · cases pending : server.deprecating.lookup net with
    | none =>
        rw [pending] at queued
        exact Or.inr ⟨rfl, (Option.some.inj queued).symm⟩
    | some left =>
        rw [pending] at queued
        exact Or.inl queued
  · exact Or.inl queued

theorem awaiting_of_pending {server : RAServer} {net : Prefix} {count : Nat}
    (pending : server.deprecating.lookup net = some count) : awaiting server net = some count := by
  unfold awaiting
  rw [pending]
  split <;> rfl

section Update

variable {world : AdvertWorld} {who : Advertiser} {dst : Destination} {served : List Prefix}
  {net : Prefix}

theorem UnderWay.before_update (underWay : UnderWay world)
    (looked : world.stage who = .looked dst served) (gone : ¬ Live world.served net)
    (unreached : ¬ ReachedAll net world.trace) {left : Nat}
    (pending : world.server.deprecating.lookup net = some left) :
    left = 2 ∧ ∃ other, other ≠ who ∧ Carries world other net := by
  have idle : ¬ AtWrite world who := not_atWrite_of_stage looked (by simp)
  rcases underWay net left pending gone unreached with ⟨two, other, carries⟩ | ⟨_, both⟩
  · refine ⟨two, other, ?_, carries⟩
    intro same
    rw [same] at carries
    exact idle carries.atWrite
  · exact absurd (both who).atWrite idle

theorem advertiser_cases {first second : Advertiser} (different : first ≠ second)
    (third : Advertiser) : third = first ∨ third = second := by
  cases first <;> cases second <;> cases third <;> simp_all

theorem UnderWay.update (underWay : UnderWay world) (orders : PrefixOrders)
    (looked : world.stage who = .looked dst served)
    (current : ∀ net, Live served net ↔ Live world.served net) :
    UnderWay ({ world with server := (currentPrefixes orders served world.server).1 }.move who
      (.ready dst (currentPrefixes orders served world.server).2
        (seconds16 world.server.cfg.routerLifetime))) := by
  intro net left pending gone unreached
  change (currentPrefixes orders served world.server).1.deprecating.lookup net = some left at pending
  change ¬ Live world.served net at gone
  change ¬ ReachedAll net world.trace at unreached
  have notLive : ¬ Live served net := fun live => gone ((current net).mp live)
  rw [currentPrefixes_deprecate, if_neg notLive] at pending
  obtain ⟨count, queued, rest⟩ := Option.bind_eq_some_iff.mp pending
  have reported : (currentPrefixes orders served world.server).2.lookup net = some false := by
    rw [currentPrefixes_reports, if_neg notLive, queued]
    rfl
  have carriesHere : Carries
      ({ world with server := (currentPrefixes orders served world.server).1 }.move who
        (.ready dst (currentPrefixes orders served world.server).2
          (seconds16 world.server.cfg.routerLifetime))) who net :=
    ⟨dst, _, _, Function.update_self who _ world.stage, reported⟩
  rcases awaiting_cases queued with counted | ⟨_, fresh⟩
  · obtain ⟨two, other, different, carries⟩ :=
      underWay.before_update looked gone unreached counted
    rw [two] at rest
    refine Or.inr ⟨(Option.some.inj rest).symm, ?_⟩
    intro third
    rcases advertiser_cases different third with isOther | isWho
    · rw [isOther]
      exact carries.of_stage (AdvertWorld.move_stage_of_ne _ different _)
    · rw [isWho]
      exact carriesHere
  · rw [fresh] at rest
    exact Or.inl ⟨(Option.some.inj rest).symm, who, carriesHere⟩

end Update

theorem UnderWay.step {world : AdvertWorld} (underWay : UnderWay world) {input : AdvertInput}
    (spreads : Spreads world input) : UnderWay (world.step input) := by
  rcases step_cases spreads with ⟨prefixes, served⟩ | ⟨who, orders, dst, served, updates, looked, next⟩ |
      continues
  · subst served
    exact underWay.serve spreads
  · subst updates
    rw [next]
    exact underWay.update orders looked (spreads dst served looked)
  · exact underWay.continues continues

theorem UnderWay.leavesReached {world : AdvertWorld} (underWay : UnderWay world)
    {input : AdvertInput} (spreads : Spreads world input) : LeavesReached world input := by
  intro net held left gone _
  obtain ⟨count, pending⟩ := Option.isSome_iff_exists.mp held
  rcases step_cases spreads with ⟨prefixes, served⟩ | ⟨who, orders, dst, served, updates, looked, next⟩ |
      continues
  · subst served
    change world.server.deprecating.lookup net = none at left
    rw [pending] at left
    cases left
  · subst updates
    by_contra unreached
    -- The other goroutine still has the first report before it, so this is the second.
    have counted := (underWay.before_update looked gone unreached pending).1
    have notLive : ¬ Live served net :=
      fun live => gone ((spreads dst served looked net).mp live)
    rw [next] at left
    change (currentPrefixes orders served world.server).1.deprecating.lookup net = none at left
    rw [currentPrefixes_deprecate, if_neg notLive, awaiting_of_pending pending, counted] at left
    cases left
  · rw [continues.server, pending] at left
    cases left

/-! ### Every run -/

/-- A prefix that an advertisement carries alive and that the next update finds withdrawn
is reported withdrawn by it, and is to be reported twice more. -/
theorem withdrawn_after_alive {world : AdvertWorld} {first second : Advertiser}
    {dst later : Destination} {served remaining : List Prefix} {net : Prefix}
    (looked : world.stage first = .looked dst served) (live : Live served net)
    (orders nextOrders : PrefixOrders) {between : List AdvertInput}
    (quiet : ∀ input ∈ between, ∀ who order, input ≠ .update who order)
    (lookedAgain : (run AdvertWorld.step (world.step (.update first orders)) between).stage second =
      .looked later remaining) (gone : ¬ Live remaining net) :
    let next := (run AdvertWorld.step (world.step (.update first orders)) between).step
      (.update second nextOrders)
    (∃ prefixes lifetime, (world.step (.update first orders)).stage first =
      .ready dst prefixes lifetime ∧ prefixes.lookup net = some true) ∧
    Carries next second net ∧ next.server.deprecating.lookup net = some 2 := by
  intro next
  obtain ⟨updated, ready⟩ := AdvertWorld.step_update looked orders
  obtain ⟨counted, told⟩ := AdvertWorld.step_update lookedAgain nextOrders
  have kept : (run AdvertWorld.step (world.step (.update first orders)) between).server =
      (currentPrefixes orders served world.server).1 :=
    run_invariant AdvertWorld.step
      (fun state => state.server = (currentPrefixes orders served world.server).1)
      (fun _ input => ∀ who order, input ≠ .update who order)
      (fun _ _ still same => (AdvertWorld.step_server still).trans same) _ between updated
      (throughout_of_forall AdvertWorld.step quiet)
  have due : awaiting (currentPrefixes orders served world.server).1 net = some 3 := by
    unfold awaiting
    rw [if_pos ((mem_currentPrefixes_last orders served world.server net).mpr live),
      currentPrefixes_deprecate, if_pos live]
    rfl
  rw [kept] at counted told
  refine ⟨⟨_, _, ready, ?_⟩, ⟨later, _, _, told, ?_⟩, ?_⟩
  · rw [currentPrefixes_reports, if_pos live]
  · rw [currentPrefixes_reports, if_neg gone, due]
    rfl
  · rw [counted, currentPrefixes_deprecate, if_neg gone, due]
    rfl

/-- A withdrawn prefix leaves the countdown only after all nodes were told. -/
theorem withdrawal_reaches_all (cfg : RAConfig) (served : List Prefix) (inputs : List AdvertInput)
    (spreads : Throughout AdvertWorld.step Spreads (AdvertWorld.start cfg served) inputs)
    (before after : List AdvertInput) (input : AdvertInput)
    (split : inputs = before ++ input :: after) :
    LeavesReached (run AdvertWorld.step (AdvertWorld.start cfg served) before) input := by
  have initially : UnderWay (AdvertWorld.start cfg served) := by
    intro net left pending
    cases pending
  rw [split] at spreads
  have underWay := run_invariant AdvertWorld.step UnderWay Spreads
    (fun _ _ allowed holds => holds.step allowed) _ before initially (spreads.left AdvertWorld.step)
  exact underWay.leavesReached (spreads before input after rfl)

def sampleRA : RAConfig where
  enabled := true
  autonomous := true
  managed := false
  other := false
  interval := 0
  routerLifetime := 0
  validLifetime := 0
  preferredLife := 0
  dns := []

theorem sampleServed_addrValid : (Addr.v6 0x20010db8000000000000000000000000#128).isValid = true := rfl

theorem sampleServed_bitsFit : 64 ≤ (Addr.v6 0x20010db8000000000000000000000000#128).bitLen := by
  decide

def sampleServed : Prefix where
  addr := .v6 0x20010db8000000000000000000000000#128
  bits := 64
  addrValid := sampleServed_addrValid
  bitsFit := sampleServed_bitsFit

def sampleOrders : PrefixOrders where
  overLive := .stored
  overDeprecate := .stored
  overLast := .stored

def sampleSolicit : Ingress where
  srcMAC := [2, 0, 0, 0, 0, 2]
  isUDP4 := false
  isUDP6 := false
  isICMP6 := true
  srcIP := [0xfe, 0x80, 0, 0, 0, 0, 0, 0, 0, 0, 0, 0, 0, 0, 0, 2]
  dstIP := allNodesIP6
  srcPort := 0
  dstPort := 0
  icmpTyp := icmpv6TypeRouterSolicit
  payload := []

def sampleSend (who : Advertiser) : List AdvertInput := [.look who, .update who sampleOrders]

def sampleWrite (who : Advertiser) (written : Bool) : AdvertInput :=
  .transmit who (.v6 0xfe800000000000000000000000000001#128) [2, 0, 0, 0, 0, 1] .stored written

/-- The prefix is sent alive and withdrawn; two advertisements follow and a third one
is begun. -/
def sampleWithdrawn (who : Advertiser) (wakes : AdvertInput) (written : Bool) : List AdvertInput :=
  sampleSend .loop ++ [sampleWrite .loop true, .serve []] ++
    [wakes] ++ sampleSend who ++ [sampleWrite who written] ++
    [wakes] ++ sampleSend who ++ [sampleWrite who written] ++ [wakes, .look who]

def spreadsTest (world : AdvertWorld) : AdvertInput → Bool
  | .serve _ => world.server.deprecating.entries.isEmpty
  | .update who _ =>
      match world.stage who with
      | .looked _ served => served = world.served
      | _ => true
  | .transmit who linkLocal _ _ written =>
      match world.stage who with
      | .ready dst _ _ => dst = allNodes && linkLocal.isValid && written
      | _ => true
  | _ => true

theorem spreads_of_test {world : AdvertWorld} {input : AdvertInput}
    (tested : spreadsTest world input = true) : Spreads world input := by
  cases input with
  | serve prefixes =>
      intro net _ _
      have empty : world.server.deprecating = ∅ :=
        AList.ext (List.isEmpty_iff.mp tested)
      rw [empty, AList.lookup_empty]
  | update who orders =>
      intro dst served looked net
      simp only [spreadsTest, looked, decide_eq_true_eq] at tested
      rw [tested]
  | transmit who linkLocal mac order written =>
      intro dst prefixes routerLifetime ready net _
      simp only [spreadsTest, ready, Bool.and_eq_true, decide_eq_true_eq] at tested
      exact ⟨tested.1.1, tested.1.2, tested.2⟩
  | kick => trivial
  | close => trivial
  | select wake => trivial
  | frame pkt => trivial
  | look who => trivial

/-- The loop's own advertisements spread the withdrawal. -/
theorem withdrawal_reaches_all_periodic :
    LeavesReached
      (run AdvertWorld.step (AdvertWorld.start sampleRA [sampleServed])
        (sampleWithdrawn .loop (.select .timer) true))
      (.update .loop sampleOrders) :=
  withdrawal_reaches_all sampleRA [sampleServed]
    (sampleWithdrawn .loop (.select .timer) true ++ [.update .loop sampleOrders])
    (throughout_of_check AdvertWorld.step (fun _ _ => spreads_of_test) (by decide +kernel))
    (sampleWithdrawn .loop (.select .timer) true) [] (.update .loop sampleOrders) rfl

/-- After three answers to a single host, and after three advertisements that are not
written, the prefix is not in the countdown any more and no other host was told. -/
theorem withdrawal_missed :
    ¬ LeavesReached
        (run AdvertWorld.step (AdvertWorld.start sampleRA [sampleServed])
          (sampleWithdrawn .reader (.frame sampleSolicit) true))
        (.update .reader sampleOrders) ∧
      ¬ LeavesReached
        (run AdvertWorld.step (AdvertWorld.start sampleRA [sampleServed])
          (sampleWithdrawn .loop (.select .timer) false))
        (.update .loop sampleOrders) := by
  constructor
  · intro leaves
    exact absurd
      (leaves sampleServed (by decide +kernel) (by decide +kernel) (by decide +kernel)
        (by decide +kernel))
      (by decide +kernel)
  · intro leaves
    exact absurd
      (leaves sampleServed (by decide +kernel) (by decide +kernel) (by decide +kernel)
        (by decide +kernel))
      (by decide +kernel)

end BridgeDhcp.Server
