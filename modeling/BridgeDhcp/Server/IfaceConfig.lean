/-
The settings of one served interface and how they are completed.

`normalize` rejects settings that cannot be served and fills in the defaults.  The
invalid address and the invalid prefix are the absent ones.
-/

import BridgeDhcp.GoError
import BridgeDhcp.GoText
import BridgeDhcp.GoTime
import BridgeDhcp.PdRoute.Routes
import BridgeDhcp.Server.AddressSelection

set_option autoImplicit false

namespace BridgeDhcp.Server

open Netip GoText GoTime GoError

/-! ### Router advertisements -/

structure RAConfig where
  enabled : Bool
  autonomous : Bool
  managed : Bool
  other : Bool
  interval : Duration
  routerLifetime : Duration
  validLifetime : Duration
  preferredLife : Duration
  dns : List Addr
  deriving DecidableEq, Repr

def defaultRAInterval : Duration := 200 * second
def defaultRouterLifetime : Duration := 1800 * second
def defaultValidLifetime : Duration := 30 * 24 * 60 * minute
def defaultPreferredLifetime : Duration := 7 * 24 * 60 * minute

def RAConfig.normalize (cfg : RAConfig) : RAConfig :=
  { cfg with
    interval := if cfg.interval ≤ 0 then defaultRAInterval else cfg.interval
    routerLifetime :=
      if cfg.routerLifetime ≤ 0 then defaultRouterLifetime else cfg.routerLifetime
    validLifetime := if cfg.validLifetime ≤ 0 then defaultValidLifetime else cfg.validLifetime
    preferredLife :=
      if cfg.preferredLife ≤ 0 then defaultPreferredLifetime else cfg.preferredLife }

/-! ### Prefix delegation -/

structure PDConfig where
  uplink : String
  duid : List UInt8
  iaid : UInt32
  suffix : Addr
  prefixLen : Int
  /-- Zero unless the delegated prefix is routed through a table of its own. -/
  routeTable : Int
  rulePriority : Int
  initialTimeout : Duration
  maxTimeout : Duration
  attempts : Int
  deriving DecidableEq, Repr

/-- The part of `IfaceConfig.normalize` for prefix delegation. -/
def PDConfig.normalize (name : String) (pd : PDConfig) : Except String PDConfig :=
  if pd.uplink = "" then .error s!"{name}: pd needs an uplink"
  else if pd.duid.length < 2 then .error s!"{name}: pd needs a duid"
  else
    .ok
      { pd with
        prefixLen := if pd.prefixLen ≤ 0 ∨ 128 < pd.prefixLen then 64 else pd.prefixLen
        suffix := if pd.suffix.isValid then pd.suffix else .v6 1
        rulePriority :=
          if pd.routeTable ≠ 0 ∧ pd.rulePriority = 0 then 5000 else pd.rulePriority }

/-- What is known of settings that were built from a file and completed. -/
structure PDConfig.Completed (pd : PDConfig) : Prop where
  lenPositive : 1 ≤ pd.prefixLen
  lenFits : pd.prefixLen ≤ 128
  suffix6 : pd.suffix.is6 = true

def PDConfig.SuffixFits (pd : PDConfig) : Prop := pd.suffix.isValid = true → pd.suffix.is6 = true

theorem PDConfig.normalize_prefixLen {name : String} {pd ready : PDConfig}
    (accepted : pd.normalize name = .ok ready) : 1 ≤ ready.prefixLen ∧ ready.prefixLen ≤ 128 := by
  unfold PDConfig.normalize at accepted
  split at accepted
  · cases accepted
  · split at accepted
    · cases accepted
    · cases accepted
      dsimp only
      split <;> omega

theorem PDConfig.normalize_completed {name : String} {pd ready : PDConfig}
    (fits : pd.SuffixFits) (accepted : pd.normalize name = .ok ready) : ready.Completed := by
  obtain ⟨positive, small⟩ := normalize_prefixLen accepted
  refine ⟨positive, small, ?_⟩
  unfold PDConfig.normalize at accepted
  split at accepted
  · cases accepted
  · split at accepted
    · cases accepted
    · cases accepted
      dsimp only
      split
      · next valid => exact fits valid
      · rfl

theorem PDConfig.normalize_routeTable {name : String} {pd ready : PDConfig}
    (accepted : pd.normalize name = .ok ready) :
    ready.routeTable = pd.routeTable ∧ ready.uplink = pd.uplink := by
  unfold PDConfig.normalize at accepted
  split at accepted
  · cases accepted
  · split at accepted
    · cases accepted
    · cases accepted
      exact ⟨rfl, rfl⟩

/-! ### Interfaces -/

structure DNSConfig where
  port : Int
  redirect53 : Bool
  upstream : String
  upstreams : List String
  deriving DecidableEq, Repr

structure IfaceConfig where
  name : String
  tag : String
  prefix4 : Option Prefix
  prefix6 : Option Prefix
  dhcp4 : DHCP4Config
  dhcp6 : DHCP6Config
  slaac : Bool
  ra : RAConfig
  pd : Option PDConfig
  dns : Option DNSConfig
  deriving DecidableEq, Repr

def IfaceConfig.advertised (cfg : IfaceConfig) : RAConfig :=
  { cfg.ra with
    enabled := cfg.slaac || cfg.dhcp6.enabled
    autonomous := cfg.slaac
    managed := cfg.dhcp6.enabled
    other := cfg.dhcp6.enabled || cfg.dns.isSome }.normalize

def DNSConfig.normalize (dns : DNSConfig) : DNSConfig :=
  { dns with port := if dns.port ≤ 0 then 53 else dns.port }

def IfaceConfig.normalizePD (cfg : IfaceConfig) : Except String (Option PDConfig) :=
  match cfg.pd with
  | none => .ok none
  | some pd => do
      let ready ← pd.normalize cfg.name
      .ok (some ready)

def IfaceConfig.normalize (cfg : IfaceConfig) : Except String IfaceConfig :=
  if cfg.name = "" then .error "interface needs a name"
  else do
    let dhcp4 ← within cfg.name cfg.dhcp4.normalize
    let dhcp6 ← within cfg.name cfg.dhcp6.normalize
    let pd ← cfg.normalizePD
    .ok
      { cfg with
        dhcp4 := dhcp4
        dhcp6 := dhcp6
        ra := cfg.advertised
        pd := pd
        dns := cfg.dns.map DNSConfig.normalize }

structure IfaceConfig.CompletedFrom (cfg ready : IfaceConfig) : Prop where
  name : ready.name = cfg.name
  dhcp4 : cfg.dhcp4.normalize = .ok ready.dhcp4
  dhcp6 : cfg.dhcp6.normalize = .ok ready.dhcp6
  ra : ready.ra = cfg.advertised
  pd : cfg.normalizePD = .ok ready.pd
  dns : ready.dns = cfg.dns.map DNSConfig.normalize

theorem IfaceConfig.completedFrom {cfg ready : IfaceConfig}
    (accepted : cfg.normalize = .ok ready) : cfg.CompletedFrom ready := by
  unfold IfaceConfig.normalize at accepted
  split at accepted
  · cases accepted
  · obtain ⟨dhcp4, accepted4, after4⟩ := bind_eq_ok accepted
    obtain ⟨dhcp6, accepted6, after6⟩ := bind_eq_ok after4
    obtain ⟨result, normalized, last⟩ := bind_eq_ok after6
    cases last
    exact ⟨rfl, within_eq_ok accepted4, within_eq_ok accepted6, rfl, normalized, rfl⟩

theorem IfaceConfig.normalize_pools {cfg ready : IfaceConfig}
    (accepted : cfg.normalize = .ok ready) : ready.dhcp4.Normalized ∧ ready.dhcp6.Normalized := by
  have completed := completedFrom accepted
  exact ⟨PoolConfig.normalizeAs_normalized completed.dhcp4,
    PoolConfig.normalizeAs_normalized completed.dhcp6⟩

theorem PDConfig.normalize_isOk_iff (name : String) (pd : PDConfig) :
    (∃ ready, pd.normalize name = .ok ready) ↔ pd.uplink ≠ "" ∧ 2 ≤ pd.duid.length := by
  unfold PDConfig.normalize
  split
  · next unset => simp [unset]
  · next named =>
      split
      · next short => simp only [reduceCtorEq, exists_false, false_iff]; omega
      · next long =>
          have enough : 2 ≤ pd.duid.length := by omega
          simp [named, enough]

structure IfaceConfig.Completable (cfg : IfaceConfig) : Prop where
  named : cfg.name ≠ ""
  pool4 : cfg.dhcp4.Servable
  pool6 : cfg.dhcp6.Servable
  pd : ∀ pd ∈ cfg.pd, pd.uplink ≠ "" ∧ 2 ≤ pd.duid.length

theorem IfaceConfig.normalize_isOk_iff (cfg : IfaceConfig) :
    (∃ ready, cfg.normalize = .ok ready) ↔ cfg.Completable := by
  have delegation : (∃ result, cfg.normalizePD = .ok result) ↔
      ∀ pd ∈ cfg.pd, pd.uplink ≠ "" ∧ 2 ≤ pd.duid.length := by
    unfold IfaceConfig.normalizePD
    cases cfg.pd with
    | none => simp
    | some pd =>
        dsimp only
        rw [bind_isOk_iff]
        simp only [Option.mem_def, Option.some.injEq, forall_eq']
        rw [← PDConfig.normalize_isOk_iff cfg.name pd]
        simp
  unfold IfaceConfig.normalize
  split
  · next unnamed =>
      constructor
      · rintro ⟨ready, accepted⟩
        cases accepted
      · intro completable
        exact absurd unnamed completable.named
  · next named =>
      rw [bind_isOk_iff]
      constructor
      · rintro ⟨dhcp4, accepted4, after4⟩
        obtain ⟨dhcp6, accepted6, after6⟩ := (bind_isOk_iff _ _).mp after4
        obtain ⟨result, completed, _⟩ := (bind_isOk_iff _ _).mp after6
        exact ⟨named, (PoolConfig.normalizeAs_isOk_iff _ _).mp ⟨dhcp4, within_eq_ok accepted4⟩,
          (PoolConfig.normalizeAs_isOk_iff _ _).mp ⟨dhcp6, within_eq_ok accepted6⟩,
          delegation.mp ⟨result, completed⟩⟩
      · intro completable
        obtain ⟨dhcp4, accepted4⟩ := (PoolConfig.normalizeAs_isOk_iff "dhcp4" _).mpr completable.pool4
        obtain ⟨dhcp6, accepted6⟩ := (PoolConfig.normalizeAs_isOk_iff "dhcp6" _).mpr completable.pool6
        obtain ⟨result, completed⟩ := delegation.mpr completable.pd
        refine ⟨dhcp4, congrArg (within cfg.name) accepted4, (bind_isOk_iff _ _).mpr ?_⟩
        refine ⟨dhcp6, congrArg (within cfg.name) accepted6, (bind_isOk_iff _ _).mpr ?_⟩
        exact ⟨result, completed, _, rfl⟩

theorem IfaceConfig.normalize_pd {cfg ready : IfaceConfig} {pd : PDConfig}
    (accepted : cfg.normalize = .ok ready) (delegates : ready.pd = some pd) :
    ∃ before, cfg.pd = some before ∧ before.normalize cfg.name = .ok pd := by
  have normalized := (completedFrom accepted).pd
  rw [delegates] at normalized
  unfold IfaceConfig.normalizePD at normalized
  cases before : cfg.pd with
  | none =>
      rw [before] at normalized
      cases normalized
  | some raw =>
      rw [before] at normalized
      obtain ⟨done, completed, same⟩ := bind_eq_ok normalized
      cases same
      exact ⟨raw, rfl, completed⟩

def IfaceConfig.routes (cfg : IfaceConfig) : Option PdRoute.Config :=
  cfg.pd.bind (fun pd =>
    if set : pd.routeTable ≠ 0 then
      some
        { iface := cfg.name
          uplink := pd.uplink
          table := pd.routeTable
          rulePriority := pd.rulePriority
          tableSet := set }
    else none)

theorem IfaceConfig.routes_iface {cfg : IfaceConfig} {routes : PdRoute.Config}
    (routed : routes ∈ cfg.routes) : routes.iface = cfg.name := by
  unfold IfaceConfig.routes at routed
  obtain ⟨pd, _, made⟩ := Option.bind_eq_some_iff.mp routed
  split at made
  · cases made
    rfl
  · cases made

/-- The loop of `NewManager` over the settings, given the names it has seen. -/
def newManager (names : List String) :
    List IfaceConfig → Except String (List IfaceConfig)
  | [] => .ok []
  | cfg :: rest => do
      let ready ← cfg.normalize
      let quoted := quote ready.name
      if ready.name ∈ names then .error s!"duplicate interface {quoted}"
      else
        let others ← newManager (ready.name :: names) rest
        .ok (ready :: others)

theorem newManager_normalized {names : List String}
    {cfgs readies : List IfaceConfig} (managed : newManager names cfgs = .ok readies) :
    List.Forall₂ (fun cfg ready => cfg.normalize = .ok ready) cfgs readies := by
  induction cfgs generalizing names readies with
  | nil =>
      cases managed
      exact List.Forall₂.nil
  | cons cfg rest ih =>
      obtain ⟨ready, normalized, afterFirst⟩ := bind_eq_ok managed
      dsimp only at afterFirst
      split at afterFirst
      · cases afterFirst
      · obtain ⟨others, managedRest, same⟩ := bind_eq_ok afterFirst
        cases same
        exact List.Forall₂.cons normalized (ih managedRest)

end BridgeDhcp.Server
