/-
The settings of the router advertisements along every run of the goroutines.

The server completes its settings once and keeps them.  Whatever the interleaving,
every message therefore carries the lifetimes of the completed settings, and there are
messages only if advertising is enabled.
-/

import BridgeDhcp.Server.AdvertLoops

set_option autoImplicit false

namespace BridgeDhcp.Server

open Netip GoTime GoMap StepRun

/-! ### Completing the settings -/

/-- A lifetime that is not set to a positive duration is the default. -/
def orDefault (given default : Duration) : Duration := if given ≤ 0 then default else given

theorem orDefault_pos {given default : Duration} (positive : 0 < default) :
    0 < orDefault given default := by
  unfold orDefault
  split
  · exact positive
  · next set => exact Int.not_le.mp set

theorem orDefault_orDefault {given default : Duration} (positive : 0 < default) :
    orDefault (orDefault given default) default = orDefault given default :=
  if_neg (Int.not_le.mpr (orDefault_pos positive))

theorem normalize_normalize (cfg : RAConfig) : cfg.normalize.normalize = cfg.normalize := by
  have interval : 0 < defaultRAInterval := by decide
  have router : 0 < defaultRouterLifetime := by decide
  have valid : 0 < defaultValidLifetime := by decide
  have preferred : 0 < defaultPreferredLifetime := by decide
  unfold RAConfig.normalize
  simp only [RAConfig.mk.injEq, true_and, and_true]
  exact ⟨orDefault_orDefault interval, orDefault_orDefault router, orDefault_orDefault valid,
    orDefault_orDefault preferred⟩

/-! ### Every run of the server -/

/-- A goroutine is about to write the advertisement, from `send` or from `sendFinal`. -/
inductive Transmits (world : AdvertWorld) (prefixes : Map Prefix Bool) (advert : Advert) :
    (final : Bool) → Prop
  | send {who : Advertiser} {dst : Destination} {routerLifetime : UInt16} {linkLocal : Addr}
      {mac : List UInt8} {order : RangeOrder (Prefix × Bool)}
      (ready : world.stage who = .ready dst prefixes routerLifetime)
      (sent : transmitRA world.server.cfg linkLocal mac order dst prefixes routerLifetime =
        some advert) :
      Transmits world prefixes advert false
  | sendFinal {who : Advertiser} {linkLocal : Addr} {mac : List UInt8}
      {order : RangeOrder (Prefix × Bool)} (ready : world.stage who = .readyFinal prefixes)
      (sent : transmitRA world.server.cfg linkLocal mac order allNodes prefixes 0 = some advert) :
      Transmits world prefixes advert true

def Staged (Fits : AdvertStage → Prop) (world : AdvertWorld) : Prop :=
  ∀ who, Fits (world.stage who)

section Staged

variable {Fits : AdvertStage → Prop} {world : AdvertWorld}

theorem Staged.move (staged : Staged Fits world) (who : Advertiser) {next : AdvertStage}
    (fits : Fits next) : Staged Fits (world.move who next) := by
  intro other
  by_cases same : other = who
  · subst same
    unfold AdvertWorld.move
    simp only [Function.update_self]
    exact fits
  · rw [world.move_stage_of_ne same]
    exact staged other

theorem Staged.write (staged : Staged Fits world) (advert : Option Advert) (written : Bool) :
    Staged Fits (world.write advert written) := by
  unfold Staged
  rw [world.write_stage]
  exact staged

theorem Staged.wake (staged : Staged Fits world) (turn : Fits (loopTurn world.server.cfg))
    (final : Fits (if world.server.cfg.enabled then .calledFinal else .returned)) (wake : Wake) :
    Staged Fits (world.wake wake) := by
  cases wake with
  | done =>
      unfold AdvertWorld.wake
      by_cases done : world.done = true
      · simp only [done, if_true]
        exact staged.move .loop final
      · simp only [done]
        exact staged
  | kick =>
      unfold AdvertWorld.wake
      by_cases kicked : world.kicked = true
      · simp only [kicked, if_true]
        have idle : Staged Fits { world with kicked := false } := staged
        exact idle.move .loop turn
      · simp only [kicked]
        exact staged
  | timer => exact staged.move .loop turn

end Staged

/-- The stages of a server with these settings: it advertises only if it is enabled, and then with
its router lifetime. -/
def StageFits (cfg : RAConfig) : AdvertStage → Prop
  | .waiting => True
  | .returned => True
  | .ready _ _ routerLifetime =>
      cfg.enabled = true ∧ routerLifetime = seconds16 cfg.routerLifetime
  | .called _ => cfg.enabled = true
  | .looked _ _ => cfg.enabled = true
  | .calledFinal => cfg.enabled = true
  | .readyFinal _ => cfg.enabled = true

structure Steady (cfg : RAConfig) (world : AdvertWorld) : Prop where
  settings : world.server.cfg = cfg
  stages : Staged (StageFits cfg) world

section Steady

variable {cfg : RAConfig} {world : AdvertWorld}

theorem Steady.move (steady : Steady cfg world) (who : Advertiser) {next : AdvertStage}
    (fits : StageFits cfg next) : Steady cfg (world.move who next) :=
  ⟨steady.settings, steady.stages.move who fits⟩

theorem Steady.write (steady : Steady cfg world) (advert : Option Advert) (written : Bool) :
    Steady cfg (world.write advert written) := by
  refine ⟨?_, steady.stages.write advert written⟩
  rw [world.write_server]
  exact steady.settings

theorem loopTurn_fits (cfg : RAConfig) : StageFits cfg (loopTurn cfg) := by
  unfold loopTurn
  split
  · next enabled => exact enabled
  · trivial

theorem Steady.wake (steady : Steady cfg world) (wake : Wake) : Steady cfg (world.wake wake) := by
  refine ⟨?_, steady.stages.wake ?_ ?_ wake⟩
  · rw [(world.wake_server wake).1]
    exact steady.settings
  · rw [steady.settings]
    exact loopTurn_fits cfg
  · rw [steady.settings]
    split
    · next enabled => exact enabled
    · trivial

theorem enabled_of_solicited {pkt : Packet.Ingress} {dst : Destination}
    (solicited : (handleSolicit cfg pkt).2 = some dst) : cfg.enabled = true := by
  unfold handleSolicit at solicited
  split at solicited
  · cases solicited
  · split at solicited
    · cases solicited
    · next enabled => exact Bool.eq_true_of_not_eq_false enabled

theorem Steady.step (steady : Steady cfg world) (input : AdvertInput) :
    Steady cfg (world.step input) := by
  cases input with
  | serve prefixes => exact ⟨steady.settings, steady.stages⟩
  | kick => exact ⟨steady.settings, steady.stages⟩
  | close => exact ⟨steady.settings, steady.stages⟩
  | select wake =>
      simp only [AdvertWorld.step]
      split
      · exact steady.wake wake
      · exact steady
  | frame pkt =>
      simp only [AdvertWorld.step]
      split
      · next solicited =>
          refine steady.move .reader ?_
          rw [steady.settings] at solicited
          exact enabled_of_solicited solicited
      · exact steady
  | look who =>
      have here := steady.stages who
      simp only [AdvertWorld.step]
      split
      · next called =>
          rw [called] at here
          exact steady.move who here
      · next called =>
          rw [called] at here
          exact steady.move who here
      · exact steady
  | update who orders =>
      have here := steady.stages who
      simp only [AdvertWorld.step]
      split
      · next dst served looked =>
          rw [looked] at here
          have updated : Steady cfg
              { world with server := (currentPrefixes orders served world.server).1 } :=
            ⟨steady.settings, steady.stages⟩
          refine updated.move who ⟨here, ?_⟩
          rw [steady.settings]
      · exact steady
  | transmit who linkLocal mac order written =>
      simp only [AdvertWorld.step]
      split
      · exact (steady.write _ written).move who trivial
      · exact (steady.write _ written).move who trivial
      · exact steady

end Steady

theorem steady_run {cfg : RAConfig} (complete : cfg.normalize = cfg) (served : List Prefix)
    (inputs : List AdvertInput) :
    Steady cfg (run AdvertWorld.step (AdvertWorld.start cfg served) inputs) := by
  have initially : Steady cfg (AdvertWorld.start cfg served) := by
    refine ⟨complete, ?_⟩
    intro who
    cases who with
    | loop =>
        change StageFits cfg (loopTurn cfg.normalize)
        rw [complete]
        exact loopTurn_fits cfg
    | reader => trivial
  exact run_invariant AdvertWorld.step (Steady cfg) (fun _ _ => True)
    (fun _ input _ steady => steady.step input) _ inputs initially (fun _ _ _ _ => trivial)

/-! ### Where live prefixes come from -/

/-- Every prefix that a goroutine is about to transmit as live was among prefixes that
were served. -/
def StageBacked (Served : List Prefix → Prop) : AdvertStage → Prop
  | .looked _ served => Served served
  | .ready _ prefixes _ =>
      ∀ net, prefixes.lookup net = some true → ∃ served, Served served ∧ Live served net
  | .readyFinal prefixes => ∀ net, prefixes.lookup net ≠ some true
  | _ => True

structure Backed (Served : List Prefix → Prop) (world : AdvertWorld) : Prop where
  served : Served world.served
  stages : Staged (StageBacked Served) world

theorem lookup_finalPrefixes (served : List Prefix) (net : Prefix) :
    (finalPrefixes served).lookup net ≠ some true := by
  have loop : ∀ (nets : List Prefix) (map : Map Prefix Bool), map.lookup net ≠ some true →
      (nets.foldl (fun prefixes own => prefixes.insert own.masked false) map).lookup net ≠
        some true := by
    intro nets
    induction nets with
    | nil => exact fun _ none => none
    | cons own rest ih =>
        intro map before
        apply ih
        rw [lookup_insert_cases]
        split
        · simp
        · exact before
  exact loop _ ∅ (by simp)

section Backed

variable {Served : List Prefix → Prop} {world : AdvertWorld}

theorem Backed.move (backed : Backed Served world) (who : Advertiser) {next : AdvertStage}
    (fits : StageBacked Served next) : Backed Served (world.move who next) :=
  ⟨backed.served, backed.stages.move who fits⟩

theorem Backed.write (backed : Backed Served world) (advert : Option Advert) (written : Bool) :
    Backed Served (world.write advert written) := by
  refine ⟨?_, backed.stages.write advert written⟩
  rw [world.write_served]
  exact backed.served

theorem loopTurn_backed (cfg : RAConfig) : StageBacked Served (loopTurn cfg) := by
  unfold loopTurn
  split <;> trivial

theorem Backed.wake (backed : Backed Served world) (wake : Wake) :
    Backed Served (world.wake wake) := by
  refine ⟨?_, backed.stages.wake (loopTurn_backed _) ?_ wake⟩
  · rw [(world.wake_server wake).2]
    exact backed.served
  · split <;> trivial

theorem Backed.step (backed : Backed Served world) (input : AdvertInput)
    (allowed : ∀ prefixes, input = .serve prefixes → Served prefixes) :
    Backed Served (world.step input) := by
  cases input with
  | serve prefixes => exact ⟨allowed prefixes rfl, backed.stages⟩
  | kick => exact ⟨backed.served, backed.stages⟩
  | close => exact ⟨backed.served, backed.stages⟩
  | select wake =>
      simp only [AdvertWorld.step]
      split
      · exact backed.wake wake
      · exact backed
  | frame pkt =>
      simp only [AdvertWorld.step]
      split
      · exact backed.move .reader trivial
      · exact backed
  | look who =>
      simp only [AdvertWorld.step]
      split
      · exact backed.move who backed.served
      · exact backed.move who (lookup_finalPrefixes world.served)
      · exact backed
  | update who orders =>
      have here := backed.stages who
      simp only [AdvertWorld.step]
      split
      · next dst served looked =>
          rw [looked] at here
          have updated : Backed Served
              { world with server := (currentPrefixes orders served world.server).1 } :=
            ⟨backed.served, backed.stages⟩
          apply updated.move who
          intro net live
          rw [currentPrefixes_reports] at live
          split at live
          · next isLive => exact ⟨served, here, isLive⟩
          · cases awaited : awaiting world.server net <;> simp [awaited] at live
      · exact backed
  | transmit who linkLocal mac order written =>
      simp only [AdvertWorld.step]
      split
      · exact (backed.write _ written).move who trivial
      · exact (backed.write _ written).move who trivial
      · exact backed

end Backed

theorem backed_run {Served : List Prefix → Prop} (cfg : RAConfig) {served : List Prefix}
    (initial : Served served) {inputs : List AdvertInput}
    (later : ∀ prefixes, AdvertInput.serve prefixes ∈ inputs → Served prefixes) :
    Backed Served (run AdvertWorld.step (AdvertWorld.start cfg served) inputs) := by
  have initially : Backed Served (AdvertWorld.start cfg served) := by
    refine ⟨initial, ?_⟩
    intro who
    cases who with
    | loop => exact loopTurn_backed _
    | reader => trivial
  apply run_invariant AdvertWorld.step (Backed Served)
    (fun _ input => ∀ prefixes, input = .serve prefixes → Served prefixes)
    (fun _ input allowed backed => backed.step input allowed) _ inputs initially
  intro before input after split prefixes isServe
  apply later prefixes
  rw [split, ← isServe]
  exact List.mem_append_right before List.mem_cons_self

/-! ### What is transmitted -/

structure AdvertContents (cfg : RAConfig) (prefixes : Map Prefix Bool) (advert : Advert) :
    Prop where
  dns : advert.dns = cfg.dns
  dnsLifetime : advert.dnsLifetime = seconds32 cfg.routerLifetime
  mem_iff : ∀ info, info ∈ advert.prefixes ↔
    ∃ alive, prefixes.lookup info.net = some alive ∧ info = prefixInfo cfg (info.net, alive)

theorem transmitRA_contents {cfg : RAConfig} {linkLocal : Addr} {mac : List UInt8}
    {order : RangeOrder (Prefix × Bool)} {dst : Destination} {prefixes : Map Prefix Bool}
    {routerLifetime : UInt16} {advert : Advert}
    (sent : transmitRA cfg linkLocal mac order dst prefixes routerLifetime = some advert) :
    AdvertContents cfg prefixes advert ∧ advert.routerLifetime = routerLifetime := by
  unfold transmitRA at sent
  split at sent
  · cases sent
    refine ⟨⟨rfl, rfl, ?_⟩, rfl⟩
    intro info
    constructor
    · intro member
      obtain ⟨⟨net, alive⟩, visited, same⟩ := List.mem_map.mp member
      rw [order.mem_arrange, mem_pairs_iff] at visited
      subst same
      exact ⟨alive, visited, rfl⟩
    · rintro ⟨alive, found, same⟩
      refine List.mem_map.mpr ⟨(info.net, alive), ?_, same.symm⟩
      rw [order.mem_arrange, mem_pairs_iff]
      exact found
  · cases sent

section Transmitted

variable {cfg : RAConfig} {world : AdvertWorld} {prefixes : Map Prefix Bool} {advert : Advert}

theorem Transmits.contents {final : Bool} (transmits : Transmits world prefixes advert final)
    (steady : Steady cfg world) : cfg.enabled = true ∧ AdvertContents cfg prefixes advert := by
  cases transmits with
  | @send who _ _ _ _ _ ready sent =>
      have fits := steady.stages who
      rw [ready] at fits
      rw [steady.settings] at sent
      exact ⟨fits.1, (transmitRA_contents sent).1⟩
  | @sendFinal who _ _ _ ready sent =>
      have fits := steady.stages who
      rw [ready] at fits
      rw [steady.settings] at sent
      exact ⟨fits, (transmitRA_contents sent).1⟩

theorem Transmits.routerLifetime (transmits : Transmits world prefixes advert false)
    (steady : Steady cfg world) : advert.routerLifetime = seconds16 cfg.routerLifetime := by
  cases transmits with
  | @send who _ _ _ _ _ ready sent =>
      have fits := steady.stages who
      rw [ready] at fits
      rw [(transmitRA_contents sent).2]
      exact fits.2

theorem Transmits.live_served {Served : List Prefix → Prop} {final : Bool}
    (transmits : Transmits world prefixes advert final) (backed : Backed Served world) {net : Prefix}
    (alive : prefixes.lookup net = some true) : ∃ served, Served served ∧ Live served net := by
  cases transmits with
  | @send who _ _ _ _ _ ready sent =>
      have fits := backed.stages who
      rw [ready] at fits
      exact fits net alive
  | @sendFinal who _ _ _ ready sent =>
      have fits := backed.stages who
      rw [ready] at fits
      exact absurd alive (fits net)

theorem stage_of_called {who : Advertiser} {dst : Destination}
    (called : world.stage who = .called dst) (orders : PrefixOrders) :
    (run AdvertWorld.step world [.look who, .update who orders]).stage who =
      .ready dst (currentPrefixes orders world.served world.server).2
        (seconds16 world.server.cfg.routerLifetime) := by
  have looked : world.step (.look who) = world.move who (.looked dst world.served) := by
    simp only [AdvertWorld.step, called]
  have stage : (world.move who (.looked dst world.served)).stage who = .looked dst world.served :=
    Function.update_self who _ world.stage
  rw [run_cons, run_cons, run_nil, looked]
  simp only [AdvertWorld.step, stage]
  exact Function.update_self who _ _

theorem transmits_live (complete : cfg.normalize = cfg) (enabled : cfg.enabled = true)
    {net : Prefix} (long : net.bits = 64) (orders : PrefixOrders) :
    ∃ prefixes advert,
      Transmits
        (run AdvertWorld.step (AdvertWorld.start cfg [net]) [.look .loop, .update .loop orders])
        prefixes advert false ∧
      prefixes.lookup net.masked = some true ∧
      advert.routerLifetime = seconds16 cfg.routerLifetime ∧
      AdvertContents cfg prefixes advert := by
  have called : (AdvertWorld.start cfg [net]).stage .loop = .called allNodes := by
    change loopTurn cfg.normalize = _
    rw [complete]
    exact if_pos enabled
  have live : Live [net] net.masked := ⟨net, List.mem_singleton.mpr rfl, long, rfl⟩
  have steady := steady_run complete [net] [.look .loop, .update .loop orders]
  obtain ⟨advert, sent⟩ : ∃ advert, transmitRA
      (run AdvertWorld.step (AdvertWorld.start cfg [net])
        [.look .loop, .update .loop orders]).server.cfg (.v6 1) [] .stored allNodes
      (currentPrefixes orders [net] (newRAServer cfg)).2
      (seconds16 (newRAServer cfg).cfg.routerLifetime) = some advert := ⟨_, if_pos rfl⟩
  have transmits := Transmits.send (stage_of_called called orders) sent
  refine ⟨_, advert, transmits, ?_, transmits.routerLifetime steady, (transmits.contents steady).2⟩
  rw [currentPrefixes_reports]
  exact if_pos live

end Transmitted

end BridgeDhcp.Server
