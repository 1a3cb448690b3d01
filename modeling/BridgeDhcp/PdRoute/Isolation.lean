/-
Bridges that share a host keep to their own tables.

The configuration file gives every bridge in routed-prefix mode a table of its own,
none of them reserved.  Each operation changes only its own table, and what it adds is
marked, so that no bridge takes another one's mirrored route for a route of the uplink.
-/

import BridgeDhcp.PdRoute.TableContents
import BridgeDhcp.Server.ComposePd

set_option autoImplicit false

namespace BridgeDhcp.PdRoute

open Netip Netlink StepRun Kernel Server

/-! ### What the operations add -/

def MarksAdditions (before after : Kernel) : Prop :=
  ∀ route ∈ after.routes, route ∈ before.routes ∨ route.protocol = routeProto

namespace MarksAdditions

variable {first second third : Kernel}

theorem refl (kernel : Kernel) : MarksAdditions kernel kernel := fun _ member => Or.inl member

theorem trans (one : MarksAdditions first second) (two : MarksAdditions second third) :
    MarksAdditions first third := by
  intro route member
  rcases two route member with inSecond | marked
  · exact one route inSecond
  · exact Or.inr marked

end MarksAdditions

theorem respects_marksAdditions (cfg : Config) : Respects cfg MarksAdditions where
  refl := MarksAdditions.refl
  trans := MarksAdditions.trans
  ruleAdd kernel rule _ := by
    unfold Kernel.ruleAdd
    split
    · exact MarksAdditions.refl kernel
    · exact fun _ member => Or.inl member
  deleteRules kernel deletes := by
    rw [deleteRules_eq]
    exact fun _ member => Or.inl member
  deleteRoutes kernel deletes := by
    rw [deleteRoutes_eq kernel cfg.table cfg.tableSet]
    exact fun _ member => Or.inl (List.mem_filter.mp member).1
  storeRoute kernel route _ marked := by
    intro other member
    rcases List.mem_cons.mp member with same | old
    · rw [same]
      exact Or.inr marked
    · exact Or.inl (List.mem_filter.mp old).1

/-! ### The tables of a configuration -/

def instances (readies : List IfaceConfig) : List Config := readies.filterMap IfaceConfig.routes

theorem routes_table {cfg ready : IfaceConfig} (normalized : cfg.normalize = .ok ready) :
    ready.routes.map Config.table = Config.routedTable cfg := by
  have completed := (IfaceConfig.completedFrom normalized).pd
  unfold IfaceConfig.normalizePD at completed
  unfold IfaceConfig.routes Config.routedTable
  cases raw : cfg.pd with
  | none =>
      rw [raw] at completed
      rw [← Except.ok.inj completed]
      rfl
  | some pd =>
      rw [raw] at completed
      obtain ⟨done, same, last⟩ := GoError.bind_eq_ok completed
      have tables := (PDConfig.normalize_routeTable same).1
      rw [← Except.ok.inj last]
      by_cases zero : pd.routeTable = 0
      · simp [tables, zero]
      · simp [tables, zero]

theorem instances_tables {cfgs readies : List IfaceConfig}
    (normalized : List.Forall₂ (fun cfg ready => cfg.normalize = .ok ready) cfgs readies) :
    (instances readies).map Config.table = cfgs.filterMap Config.routedTable := by
  induction normalized with
  | nil => rfl
  | cons first _ ih =>
      have table := routes_table first
      unfold instances at ih ⊢
      cases made : IfaceConfig.routes _ with
      | none =>
          rw [made] at table
          rw [List.filterMap_cons_none made, List.filterMap_cons_none table.symm]
          exact ih
      | some routes =>
          rw [made] at table
          rw [List.filterMap_cons_some made, List.filterMap_cons_some table.symm, List.map_cons, ih]

theorem instances_admissible {parsing : Config.Parsing} {file : Config.File}
    {cfgs readies : List IfaceConfig} (built : file.buildIfaceConfigs parsing = .ok cfgs)
    (managed : newManager [] cfgs = .ok readies) :
    (∀ cfg ∈ instances readies, Config.AdmissibleTable cfg.table) ∧
      (instances readies).Pairwise (fun first second => first.table ≠ second.table) := by
  obtain ⟨admissible, distinct⟩ := Config.buildAll_tables built
  have tables := instances_tables (newManager_normalized managed)
  constructor
  · intro cfg member
    have listed : cfg.table ∈ cfgs.filterMap Config.routedTable := by
      rw [← tables]
      exact List.mem_map.mpr ⟨cfg, member, rfl⟩
    obtain ⟨original, present, routed⟩ := List.mem_filterMap.mp listed
    exact (admissible original present cfg.table routed).1
  · rw [← List.pairwise_map (f := Config.table) (R := (· ≠ ·)), tables, List.pairwise_filterMap]
    refine distinct.imp ?_
    intro first second apart table routed other routedOther same
    rw [same] at routed
    exact apart other routed routedOther

/-! ### Interleavings -/

structure Bridges where
  kernel : Kernel
  routes : Nat → Routes
  /-- The routes that the bridges have added. -/
  placed : List Route

def Bridges.start (kernel : Kernel) : Bridges where
  kernel := kernel
  routes _ := new
  placed := []

inductive BridgeInput where
  | call (index : Nat) (call : Call)
  /-- Others change the kernel's state. -/
  | change (after : Kernel)

def added (before after : Kernel) : List Route :=
  after.routes.filter (fun route => route ∉ before.routes)

def bridgeStep (bridges : List Config) (world : Bridges) : BridgeInput → Bridges
  | .call index call =>
      match bridges[index]? with
      | none => world
      | some cfg =>
          let after := perform cfg call ⟨world.kernel, world.routes index⟩
          { kernel := after.kernel
            routes := Function.update world.routes index after.routes
            placed := added world.kernel after.kernel ++ world.placed }
  | .change after => { world with kernel := after }

def mirrorSource (cfg : Config) (kernel : Kernel) : Option Route :=
  (kernel.linkByName cfg.uplink).bind
    (fun uplink => bestDefault cfg uplink (kernel.routeList 0))

def copied (cfg : Config) (host : Host) : Call → Option Route
  | .install net =>
      if host.routes.stopped = true then none
      else
        let begun := ensureStartedLocked cfg host
        (begun.kernel.linkByName cfg.iface).bind
          (fun index => mirrorSource cfg (plumb cfg index net begun.kernel))
  | .resync => if host.routes.held.isSome = true then mirrorSource cfg host.kernel else none
  | _ => none

structure Isolated (bridges : List Config) (world : Bridges) (index : Nat) (cfg : Config)
    (call : Call) : Prop where
  others : ∀ (other : Nat) (second : Config), bridges[other]? = some second → other ≠ index →
    (bridgeStep bridges world (.call index call)).kernel.rulesOn second.table =
        world.kernel.rulesOn second.table ∧
      (bridgeStep bridges world (.call index call)).kernel.routesOn second.table =
        world.kernel.routesOn second.table
  reserved : ∀ table : Int, table ∈ ([253, 254, 255, 97, 98, 99] : List Int) →
    (bridgeStep bridges world (.call index call)).kernel.rulesOn table =
        world.kernel.rulesOn table ∧
      (bridgeStep bridges world (.call index call)).kernel.routesOn table =
        world.kernel.routesOn table
  sources : ∀ source, copied cfg ⟨world.kernel, world.routes index⟩ call = some source →
    source ∉ world.placed ∧
      ∃ uplink, world.kernel.linkByName cfg.uplink = some uplink ∧
        (world.kernel.isUp uplink = true → mirrorRoute cfg uplink source.gw ∈
          (bridgeStep bridges world (.call index call)).kernel.routes)

/-- The route is no bridge's own, and its gateway is copied unless `RouteReplace` fails. -/
def CopiedTo (cfg : Config) (before after : Kernel) (source : Route) : Prop :=
  source.protocol ≠ routeProto ∧
    ∃ uplink, before.linkByName cfg.uplink = some uplink ∧
      (before.isUp uplink = true → mirrorRoute cfg uplink source.gw ∈ after.routes)

theorem CopiedTo.earlier {cfg : Config} {first second after : Kernel} {source : Route}
    (copiedTo : CopiedTo cfg second after source) (same : SameOutside cfg.table first second) :
    CopiedTo cfg first after source := by
  obtain ⟨unmarked, uplink, link, present⟩ := copiedTo
  refine ⟨unmarked, uplink, ?_, ?_⟩
  · unfold Kernel.linkByName at link ⊢
    rw [← same.links]
    exact link
  · intro up
    apply present
    unfold Kernel.isUp at up ⊢
    rw [same.up]
    exact up

theorem mirrorSource_unmarked {cfg : Config} {kernel : Kernel} {source : Route}
    (found : mirrorSource cfg kernel = some source) :
    CopiedTo cfg kernel (syncDefaultLocked cfg kernel) source := by
  obtain ⟨uplink, link, best⟩ := Option.bind_eq_some_iff.mp found
  have candidate := ((bestDefault_spec cfg uplink _).1 source best).2.1
  constructor
  · exact ((mirrorable_iff cfg uplink source).mp candidate).unmarked
  · refine ⟨uplink, link, ?_⟩
    intro up
    unfold syncDefaultLocked
    rw [link]
    dsimp only
    rw [best]
    dsimp only
    rw [replaceRoute_of_up up]
    exact List.mem_cons_self

theorem copied_unmarked {cfg : Config} {host : Host} {call : Call} {source : Route}
    (found : copied cfg host call = some source) :
    CopiedTo cfg host.kernel (perform cfg call host).kernel source := by
  cases call with
  | install net =>
      simp only [copied] at found
      simp only [perform, install]
      split at found
      · cases found
      · next running =>
          obtain ⟨index, link, best⟩ := Option.bind_eq_some_iff.mp found
          rw [if_neg running]
          dsimp only
          rw [link]
          have begun := (respects_sameOutside cfg).ensureStarted host
          have plumbed := (respects_sameOutside cfg).plumb (ensureStartedLocked cfg host).kernel
            index net
          exact (mirrorSource_unmarked best).earlier (begun.trans plumbed)
  | resync =>
      simp only [copied] at found
      simp only [perform, resync]
      split at found
      · next held =>
          rw [if_pos held]
          exact mirrorSource_unmarked found
      · cases found
  | start => cases found
  | clear => cases found
  | stop => cases found

theorem placed_marked (bridges : List Config) (kernel : Kernel) (inputs : List BridgeInput) :
    ∀ route ∈ (run (bridgeStep bridges) (Bridges.start kernel) inputs).placed,
      route.protocol = routeProto := by
  refine run_invariant (bridgeStep bridges)
    (fun world => ∀ route ∈ world.placed, route.protocol = routeProto) (fun _ _ => True) ?_ _ inputs
    (fun route absent => by cases absent) (fun _ _ _ _ => trivial)
  intro world input _ marked
  cases input with
  | change after => exact marked
  | call index call =>
      simp only [bridgeStep]
      split
      · exact marked
      · next cfg _ =>
          intro route member
          rcases List.mem_append.mp member with new | old
          · obtain ⟨present, absent⟩ := List.mem_filter.mp new
            rcases (respects_marksAdditions cfg).perform call ⟨world.kernel, world.routes index⟩
              route present with before | isMarked
            · exact absurd before (of_decide_eq_true absent)
            · exact isMarked
          · exact marked route old

/-! ### Every accepted configuration -/

/-- An operation of one bridge leaves the tables of the others and the reserved ones
alone, and copies no route that a bridge added. -/
theorem bridges_isolated (parsing : Config.Parsing) (file : Config.File)
    (cfgs readies : List IfaceConfig) (built : file.buildIfaceConfigs parsing = .ok cfgs)
    (managed : newManager [] cfgs = .ok readies) (kernel : Kernel)
    (inputs : List BridgeInput) (index : Nat) (cfg : Config) (call : Call)
    (bridge : (instances readies)[index]? = some cfg) :
    Isolated (instances readies)
      (run (bridgeStep (instances readies)) (Bridges.start kernel) inputs) index cfg call := by
  obtain ⟨admissible, distinct⟩ := instances_admissible built managed
  have marked := placed_marked (instances readies) kernel inputs
  generalize run (bridgeStep (instances readies)) (Bridges.start kernel) inputs = world at marked ⊢
  have outside := (respects_sameOutside cfg).perform call ⟨world.kernel, world.routes index⟩
  have next : (bridgeStep (instances readies) world (.call index call)).kernel =
      (perform cfg call ⟨world.kernel, world.routes index⟩).kernel := by
    simp only [bridgeStep, bridge]
  refine ⟨?_, ?_, ?_⟩
  · intro other second found different
    have apart : second.table ≠ cfg.table := by
      obtain ⟨insideOther, isSecond⟩ := List.getElem?_eq_some_iff.mp found
      obtain ⟨insideIndex, isCfg⟩ := List.getElem?_eq_some_iff.mp bridge
      rw [← isSecond, ← isCfg]
      have ordered := List.pairwise_iff_getElem.mp distinct
      rcases Nat.lt_or_gt_of_ne different with less | greater
      · exact ordered other index insideOther insideIndex less
      · exact (ordered index other insideIndex insideOther greater).symm
    rw [next]
    exact ⟨outside.rules second.table apart, outside.routes second.table apart⟩
  · intro table reserved
    have apart : table ≠ cfg.table := by
      intro own
      have free := (admissible cfg (List.mem_of_getElem? bridge)).unreserved
      rw [← own] at free
      have taken : Config.reservedTable table = true := by
        simp only [Config.reservedTable, decide_eq_true_eq]
        exact List.mem_cons_of_mem 0 reserved
      rw [taken] at free
      cases free
    rw [next]
    exact ⟨outside.rules table apart, outside.routes table apart⟩
  · intro source found
    obtain ⟨unmarked, uplink, link, present⟩ := copied_unmarked found
    refine ⟨?_, uplink, link, ?_⟩
    · intro member
      exact unmarked (marked source member)
    · rw [next]
      exact present

def sampleBridges : Config.File where
  interfaces := [sampleFileIface "br0" 64 1000, sampleFileIface "br1" 64 1001]

def sampleBridge (name : String) (routeTable : Int) : IfaceConfig :=
  { sampleIface 64 with
    name := name
    pd := some { samplePD 64 with suffix := .invalid, routeTable := routeTable } }

def sampleBridgeReady (name : String) (routeTable : Int) : IfaceConfig :=
  { sampleReady 64 with
    name := name
    pd := some { samplePD 64 with routeTable := routeTable, rulePriority := 5000 } }

/-- The second bridge installs a prefix after the first one. -/
theorem bridges_isolated_second :
    Isolated (instances [sampleBridgeReady "br0" 1000, sampleBridgeReady "br1" 1001])
      (run (bridgeStep (instances [sampleBridgeReady "br0" 1000, sampleBridgeReady "br1" 1001]))
        (Bridges.start (sampleKernel (some (.v6 1)))) [.call 0 (.install sampleNet)])
      1 { sampleRouted with iface := "br1", table := 1001, tableSet := by decide }
      (.install sampleNet) :=
  bridges_isolated sampleParsing sampleBridges
    [sampleBridge "br0" 1000, sampleBridge "br1" 1001]
    [sampleBridgeReady "br0" 1000, sampleBridgeReady "br1" 1001]
    (by decide +kernel) (by decide +kernel) (sampleKernel (some (.v6 1)))
    [.call 0 (.install sampleNet)] 1
    { sampleRouted with iface := "br1", table := 1001, tableSet := by decide }
    (.install sampleNet) (by decide +kernel)

end BridgeDhcp.PdRoute
