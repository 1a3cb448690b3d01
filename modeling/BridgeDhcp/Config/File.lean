/-
The configuration file and the settings built from it.

Parsing addresses belongs to another package and stays a parameter.  What the file's own
code decides is here: which texts are parsed as what, which values are refused and
with which error, and what the settings become.
-/

import BridgeDhcp.GoMapRange
import BridgeDhcp.HexText
import BridgeDhcp.Server.IfaceConfig

set_option autoImplicit false

namespace BridgeDhcp.Config

open Netip GoTime GoMap GoError GoText HexText Server

/-- The functions of the package `netip` that the file's code calls. -/
structure Parsing where
  parsePrefix : String → Option Prefix
  parseAddr : String → Except String Addr

/-! ### The file -/

structure Pool where
  poolOffsetStart : UInt64
  poolOffsetEnd : UInt64
  leaseTime : Duration
  dns : List String
  deriving DecidableEq, Repr

structure PD where
  uplink : String
  duid : String
  iaid : UInt32
  suffix : String
  prefixLen : Int
  routeTable : Int
  rulePriority : Int
  initialTimeout : Duration
  maxTimeout : Duration
  attempts : Int
  deriving DecidableEq, Repr

structure DNS where
  port : Int
  redirect53 : Bool
  upstream : String
  upstreams : List String
  deriving DecidableEq, Repr

structure RAOpts where
  interval : Duration
  routerLifetime : Duration
  validLifetime : Duration
  preferredLife : Duration
  dns : List String
  deriving DecidableEq, Repr

structure Iface where
  name : String
  tag : String
  prefix4 : String
  prefix6 : String
  dhcp4 : Option Pool
  dhcp6 : Option Pool
  slaac : Bool
  pd : Option PD
  dns : Option DNS
  ra : Option RAOpts
  statics4 : List StaticBinding := []
  statics6 : List StaticBinding := []
  deriving DecidableEq, Repr

structure File where
  apiSocket : String := ""
  apiKey : String := ""
  apiKeyFile : String := ""
  stateFile : String := ""
  interfaces : List Iface
  deriving DecidableEq, Repr

/-! ### Building the settings -/

section Building

variable (parsing : Parsing)

/-- Kernel-reserved table ids and Android's local network range. -/
def reservedTable (table : Int) : Bool := table ∈ [0, 253, 254, 255, 97, 98, 99]

def parseAddrs (texts : List String) (what : String) : Except String (List Addr) :=
  texts.mapM (fun text =>
    let quoted := quote text
    within s!"{what} {quoted}" (parsing.parseAddr (trimSpace text)))

def without (text : String) (dropped : Char) : String :=
  String.ofList (text.toList.filter (· ≠ dropped))

def parseDUID (text : String) : Except String (List UInt8) :=
  let digits := without (without (trimSpace text) ':') '-'
  let quoted := quote digits
  if digits.utf8ByteSize < 4 ∨ digits.utf8ByteSize % 2 ≠ 0 then .error s!"bad duid {quoted}"
  else
    match scanHex digits with
    | none => .error s!"bad duid {quoted}"
    | some bytes => .ok bytes

def buildPrefix (name field : String) (ofFamily : Addr → Bool) (text : String) :
    Except String (Option Prefix) :=
  let quoted := quote text
  if text = "" then .ok none
  else
    match parsing.parsePrefix (trimSpace text) with
    | none => .error s!"{name}: {field} {quoted} invalid"
    | some net =>
        if ofFamily net.addr then .ok (some net)
        else .error s!"{name}: {field} {quoted} invalid"

def buildPool (name what : String) : Option Pool → Except String PoolConfig
  | none =>
      .ok
        { enabled := false
          poolOffsetStart := 0
          poolOffsetEnd := 0
          leaseTime := 0
          dns := [] }
  | some pool => do
      let dns ← within name (parseAddrs parsing pool.dns what)
      .ok
        { enabled := true
          poolOffsetStart := pool.poolOffsetStart
          poolOffsetEnd := pool.poolOffsetEnd
          leaseTime := pool.leaseTime
          dns := dns }

def buildRA (name : String) : Option RAOpts → Except String RAConfig
  | none =>
      .ok
        { enabled := false
          autonomous := false
          managed := false
          other := false
          interval := 0
          routerLifetime := 0
          validLifetime := 0
          preferredLife := 0
          dns := [] }
  | some ra => do
      let dns ← within name (parseAddrs parsing ra.dns "ra dns")
      .ok
        { enabled := false
          autonomous := false
          managed := false
          other := false
          interval := ra.interval
          routerLifetime := ra.routerLifetime
          validLifetime := ra.validLifetime
          preferredLife := ra.preferredLife
          dns := dns }

/-- The tables in use after this interface, with the interface that uses each. -/
def checkRouteTable (tables : Map Int String) (name : String) (pd : PD) :
    Except String (Map Int String) :=
  let table := pd.routeTable
  let priority := pd.rulePriority
  if table ≠ 0 then
    if table < 0 ∨ 0xfffffffe < table ∨ reservedTable table = true then
      .error s!"{name}: pd route_table {table} is reserved or out of range"
    else
      match tables.lookup table with
      | some previous => .error s!"{name}: pd route_table {table} already used by {previous}"
      | none =>
          if priority < 0 ∨ 32765 < priority then
            .error s!"{name}: pd rule_priority {priority} out of range (0-32765)"
          else .ok (tables.insert table name)
  else if priority ≠ 0 then .error s!"{name}: pd rule_priority needs route_table"
  else .ok tables

def buildSuffix (name text : String) : Except String Addr :=
  let quoted := quote text
  if text = "" then .ok .invalid
  else
    match parsing.parseAddr text with
    | .error _ => .error s!"{name}: pd suffix {quoted} invalid"
    | .ok suffix =>
        if suffix.is6 then .ok suffix else .error s!"{name}: pd suffix {quoted} invalid"

def buildPD (tables : Map Int String) (name : String) (pd : PD) :
    Except String (Map Int String × PDConfig) := do
  let duid ← within s!"{name}: pd duid" (parseDUID pd.duid)
  let used ← checkRouteTable tables name pd
  let suffix ← buildSuffix parsing name pd.suffix
  .ok
    (used,
      { uplink := pd.uplink
        duid := duid
        iaid := if pd.iaid = 0 then 1 else pd.iaid
        suffix := suffix
        prefixLen := pd.prefixLen
        routeTable := pd.routeTable
        rulePriority := pd.rulePriority
        initialTimeout := pd.initialTimeout
        maxTimeout := pd.maxTimeout
        attempts := pd.attempts })

def buildDelegation (tables : Map Int String) (ic : Iface) :
    Except String (Map Int String × Option PDConfig) :=
  match ic.pd with
  | none => .ok (tables, none)
  | some pd => do
      let (used, built) ← buildPD parsing tables ic.name pd
      .ok (used, some built)

def buildDNS (dns : DNS) : DNSConfig where
  port := dns.port
  redirect53 := dns.redirect53
  upstream := dns.upstream
  upstreams := dns.upstreams

/-- One turn of the loop of `BuildIfaceConfigs`. -/
def buildIface (tables : Map Int String) (ic : Iface) :
    Except String (Map Int String × IfaceConfig) := do
  let prefix4 ← buildPrefix parsing ic.name "prefix4" Addr.is4 ic.prefix4
  let prefix6 ← buildPrefix parsing ic.name "prefix6" Addr.is6 ic.prefix6
  let dhcp4 ← buildPool parsing ic.name "dhcp4 dns" ic.dhcp4
  let dhcp6 ← buildPool parsing ic.name "dhcp6 dns" ic.dhcp6
  let ra ← buildRA parsing ic.name ic.ra
  let (used, pd) ← buildDelegation parsing tables ic
  .ok
    (used,
      { name := ic.name
        tag := ic.tag
        prefix4 := prefix4
        prefix6 := prefix6
        dhcp4 := dhcp4
        dhcp6 := dhcp6
        slaac := ic.slaac
        ra := ra
        pd := pd
        dns := ic.dns.map buildDNS })

def buildAll : Map Int String → List Iface → Except String (List IfaceConfig)
  | _, [] => .ok []
  | tables, ic :: rest => do
      let (used, cfg) ← buildIface parsing tables ic
      let later ← buildAll used rest
      .ok (cfg :: later)

def File.buildIfaceConfigs (file : File) : Except String (List IfaceConfig) :=
  buildAll parsing ∅ file.interfaces

end Building

/-! ### What accepted settings have in common -/

section Accepted

variable {parsing : Parsing}

theorem buildSuffix_is6 {name text : String} {suffix : Addr}
    (built : buildSuffix parsing name text = .ok suffix) :
    suffix.isValid = true → suffix.is6 = true := by
  unfold buildSuffix at built
  dsimp only at built
  split at built
  · cases built
    exact Bool.noConfusion
  · split at built
    · cases built
    · split at built
      · next is6 =>
          cases built
          exact fun _ => is6
      · cases built

structure AdmissibleTable (table : Int) : Prop where
  positive : 0 < table
  fits : table ≤ 0xfffffffe
  unreserved : reservedTable table = false

theorem checkRouteTable_cases {tables used : Map Int String} {name : String} {pd : PD}
    (accepted : checkRouteTable tables name pd = .ok used) :
    (pd.routeTable = 0 ∧ used = tables) ∨
      (AdmissibleTable pd.routeTable ∧ tables.lookup pd.routeTable = none ∧
        used = tables.insert pd.routeTable name) := by
  unfold checkRouteTable at accepted
  dsimp only at accepted
  split at accepted
  · next nonzero =>
      split at accepted
      · cases accepted
      · next inside =>
          obtain ⟨notNegative, rest⟩ := not_or.mp inside
          obtain ⟨notAbove, notReserved⟩ := not_or.mp rest
          split at accepted
          · cases accepted
          · next unused =>
              split at accepted
              · cases accepted
              · cases accepted
                refine Or.inr ⟨⟨by omega, by omega, ?_⟩, unused, rfl⟩
                exact eq_false_of_ne_true notReserved
  · next zero =>
      split at accepted
      · cases accepted
      · cases accepted
        exact Or.inl ⟨not_not.mp zero, rfl⟩

/-- The table through which an interface routes its delegated prefix, if it does. -/
def routedTable (cfg : IfaceConfig) : Option Int :=
  cfg.pd.bind (fun pd => if pd.routeTable = 0 then none else some pd.routeTable)

variable (parsing) in
structure BuiltFrom (tables used : Map Int String) (ic : Iface) (cfg : IfaceConfig) : Prop where
  name : cfg.name = ic.name
  dhcp4 : buildPool parsing ic.name "dhcp4 dns" ic.dhcp4 = .ok cfg.dhcp4
  dhcp6 : buildPool parsing ic.name "dhcp6 dns" ic.dhcp6 = .ok cfg.dhcp6
  slaac : cfg.slaac = ic.slaac
  ra : buildRA parsing ic.name ic.ra = .ok cfg.ra
  pd : buildDelegation parsing tables ic = .ok (used, cfg.pd)

theorem builtFrom {tables used : Map Int String} {ic : Iface} {cfg : IfaceConfig}
    (built : buildIface parsing tables ic = .ok (used, cfg)) :
    BuiltFrom parsing tables used ic cfg := by
  obtain ⟨prefix4, _, after4⟩ := bind_eq_ok built
  obtain ⟨prefix6, _, after6⟩ := bind_eq_ok after4
  obtain ⟨dhcp4, built4, afterPool4⟩ := bind_eq_ok after6
  obtain ⟨dhcp6, built6, afterPool6⟩ := bind_eq_ok afterPool4
  obtain ⟨ra, builtRA, afterRA⟩ := bind_eq_ok afterPool6
  obtain ⟨⟨now, pd⟩, delegated, last⟩ := bind_eq_ok afterRA
  cases last
  exact ⟨rfl, built4, built6, rfl, builtRA, delegated⟩

theorem buildIface_cases {tables used : Map Int String} {ic : Iface} {cfg : IfaceConfig}
    (built : buildIface parsing tables ic = .ok (used, cfg)) :
    (∀ pd ∈ cfg.pd, pd.SuffixFits) ∧
      ((routedTable cfg = none ∧ used = tables) ∨
        ∃ table, routedTable cfg = some table ∧ AdmissibleTable table ∧
          tables.lookup table = none ∧ used = tables.insert table ic.name) := by
  have delegated := (builtFrom built).pd
  unfold buildDelegation at delegated
  unfold routedTable
  generalize cfg.pd = delegation at delegated ⊢
  cases settings : ic.pd with
  | none =>
      rw [settings] at delegated
      cases delegated
      refine ⟨?_, Or.inl ⟨rfl, rfl⟩⟩
      intro pd absent
      cases absent
  | some raw =>
      rw [settings] at delegated
      obtain ⟨⟨checked, result⟩, builtPD, same⟩ := bind_eq_ok delegated
      cases same
      obtain ⟨duid, _, afterDuid⟩ := bind_eq_ok builtPD
      obtain ⟨after, accepted, afterTable⟩ := bind_eq_ok afterDuid
      obtain ⟨suffix, suffixed, done⟩ := bind_eq_ok afterTable
      cases done
      constructor
      · intro pd present
        cases present
        exact buildSuffix_is6 suffixed
      · rcases checkRouteTable_cases accepted with ⟨zero, unchanged⟩ | ⟨fits, unused, inserted⟩
        · exact Or.inl ⟨if_pos zero, unchanged⟩
        · refine Or.inr ⟨raw.routeTable, if_neg ?_, fits, unused, inserted⟩
          intro zero
          change raw.routeTable = 0 at zero
          have positive := fits.positive
          omega

theorem buildAll_cons {tables : Map Int String} {ic : Iface} {rest : List Iface}
    {cfgs : List IfaceConfig} (built : buildAll parsing tables (ic :: rest) = .ok cfgs) :
    ∃ used cfg later, buildIface parsing tables ic = .ok (used, cfg) ∧
      buildAll parsing used rest = .ok later ∧ cfgs = cfg :: later := by
  obtain ⟨⟨used, cfg⟩, first, afterFirst⟩ := bind_eq_ok built
  obtain ⟨later, others, same⟩ := bind_eq_ok afterFirst
  cases same
  exact ⟨used, cfg, later, first, others, rfl⟩

theorem buildAll_tables {tables : Map Int String} {ifaces : List Iface} {cfgs : List IfaceConfig}
    (built : buildAll parsing tables ifaces = .ok cfgs) :
    (∀ cfg ∈ cfgs, ∀ table ∈ routedTable cfg,
      AdmissibleTable table ∧ tables.lookup table = none) ∧
      cfgs.Pairwise (fun earlier later =>
        ∀ table ∈ routedTable earlier, table ∉ routedTable later) := by
  induction ifaces generalizing tables cfgs with
  | nil =>
      cases built
      refine ⟨?_, List.Pairwise.nil⟩
      intro cfg absent
      cases absent
  | cons ic rest ih =>
      obtain ⟨used, cfg, later, first, others, rfl⟩ := buildAll_cons built
      obtain ⟨admissible, distinct⟩ := ih others
      rcases (buildIface_cases first).2 with ⟨unrouted, unchanged⟩ | ⟨table, routed, fits, unused, inserted⟩
      · rw [unchanged] at admissible
        refine ⟨?_, List.pairwise_cons.mpr ⟨?_, distinct⟩⟩
        · intro current member table routed
          rcases List.mem_cons.mp member with here | inside
          · rw [here, unrouted] at routed
            cases routed
          · exact admissible current inside table routed
        · intro current _ table routed
          rw [unrouted] at routed
          cases routed
      · -- The later tables were free after this one was taken.
        have free : ∀ current ∈ later, ∀ other ∈ routedTable current,
            other ≠ table ∧ AdmissibleTable other ∧ tables.lookup other = none := by
          intro current inside other routedOther
          obtain ⟨fitsOther, unusedOther⟩ := admissible current inside other routedOther
          rw [inserted, lookup_insert_cases] at unusedOther
          split at unusedOther
          · cases unusedOther
          · next different => exact ⟨different, fitsOther, unusedOther⟩
        refine ⟨?_, List.pairwise_cons.mpr ⟨?_, distinct⟩⟩
        · intro current member other routedOther
          rcases List.mem_cons.mp member with here | inside
          · rw [here, routed] at routedOther
            cases routedOther
            exact ⟨fits, unused⟩
          · exact (free current inside other routedOther).2
        · intro current inside other routedHere routedLater
          rw [routed] at routedHere
          cases routedHere
          exact (free current inside table routedLater).1 rfl

theorem buildAll_suffixFits {tables : Map Int String} {ifaces : List Iface}
    {cfgs : List IfaceConfig} (built : buildAll parsing tables ifaces = .ok cfgs) :
    ∀ cfg ∈ cfgs, ∀ pd ∈ cfg.pd, pd.SuffixFits := by
  induction ifaces generalizing tables cfgs with
  | nil =>
      cases built
      intro cfg absent
      cases absent
  | cons ic rest ih =>
      obtain ⟨used, cfg, later, first, others, rfl⟩ := buildAll_cons built
      intro current member
      rcases List.mem_cons.mp member with here | inside
      · rw [here]
        exact (buildIface_cases first).1
      · exact ih others current inside

/-! ### What accepted settings take from the file -/

def Pool.Servable (pool : Pool) : Prop :=
  pool.poolOffsetStart ≠ 0 ∧ pool.poolOffsetStart ≤ pool.poolOffsetEnd

theorem buildPool_servable_iff {name what : String} {pool : Option Pool} {cfg : PoolConfig}
    (built : buildPool parsing name what pool = .ok cfg) :
    cfg.Servable ↔ ∀ given ∈ pool, given.Servable := by
  cases pool with
  | none =>
      cases built
      simp [PoolConfig.Servable]
  | some given =>
      obtain ⟨dns, _, done⟩ := bind_eq_ok built
      cases done
      simp [PoolConfig.Servable, Pool.Servable]

/-- What the delegation of an interface needs beyond what building it checks: an uplink, and a
DUID of which at least two bytes are read. -/
structure PD.Completable (pd : PD) : Prop where
  uplink : pd.uplink ≠ ""
  duid : ∀ bytes, parseDUID pd.duid = .ok bytes → 2 ≤ bytes.length

theorem buildDelegation_completable_iff {tables used : Map Int String} {ic : Iface}
    {result : Option PDConfig} (built : buildDelegation parsing tables ic = .ok (used, result)) :
    (∀ pd ∈ result, pd.uplink ≠ "" ∧ 2 ≤ pd.duid.length) ↔
      ∀ pd ∈ ic.pd, pd.Completable := by
  unfold buildDelegation at built
  cases settings : ic.pd with
  | none =>
      rw [settings] at built
      cases built
      simp
  | some raw =>
      rw [settings] at built
      obtain ⟨⟨checked, pd⟩, builtPD, same⟩ := bind_eq_ok built
      cases same
      obtain ⟨duid, parsed, afterDuid⟩ := bind_eq_ok builtPD
      obtain ⟨after, _, afterTable⟩ := bind_eq_ok afterDuid
      obtain ⟨suffix, _, done⟩ := bind_eq_ok afterTable
      cases done
      have bytes := within_eq_ok parsed
      simp only [Option.mem_def, Option.some.injEq, forall_eq']
      constructor
      · rintro ⟨uplink, long⟩
        refine ⟨uplink, ?_⟩
        intro other same
        cases bytes.symm.trans same
        exact long
      · intro completable
        exact ⟨completable.uplink, completable.duid duid bytes⟩

/-- What an interface of the file needs beyond what building its settings checks. -/
structure Iface.Completable (ic : Iface) : Prop where
  named : ic.name ≠ ""
  pool4 : ∀ pool ∈ ic.dhcp4, pool.Servable
  pool6 : ∀ pool ∈ ic.dhcp6, pool.Servable
  pd : ∀ pd ∈ ic.pd, pd.Completable

theorem buildIface_completable_iff {tables used : Map Int String} {ic : Iface} {cfg : IfaceConfig}
    (built : buildIface parsing tables ic = .ok (used, cfg)) :
    cfg.name = ic.name ∧ (cfg.Completable ↔ ic.Completable) := by
  have parts := builtFrom built
  refine ⟨parts.name, ?_⟩
  have pool4 := buildPool_servable_iff parts.dhcp4
  have pool6 := buildPool_servable_iff parts.dhcp6
  have delegation := buildDelegation_completable_iff parts.pd
  constructor
  · intro completable
    exact ⟨parts.name ▸ completable.named, pool4.mp completable.pool4, pool6.mp completable.pool6,
      delegation.mp completable.pd⟩
  · intro completable
    exact ⟨parts.name.symm ▸ completable.named, pool4.mpr completable.pool4,
      pool6.mpr completable.pool6, delegation.mpr completable.pd⟩

theorem buildAll_completable_iff {tables : Map Int String} {ifaces : List Iface}
    {cfgs : List IfaceConfig} (built : buildAll parsing tables ifaces = .ok cfgs) :
    cfgs.map IfaceConfig.name = ifaces.map Iface.name ∧
      ((∀ cfg ∈ cfgs, cfg.Completable) ↔ ∀ ic ∈ ifaces, ic.Completable) := by
  induction ifaces generalizing tables cfgs with
  | nil =>
      cases built
      simp
  | cons ic rest ih =>
      obtain ⟨used, cfg, later, first, others, rfl⟩ := buildAll_cons built
      obtain ⟨name, here⟩ := buildIface_completable_iff first
      obtain ⟨names, there⟩ := ih others
      rw [List.map_cons, List.map_cons, name, names]
      simp only [List.forall_mem_cons, here, there, and_self]

end Accepted

end BridgeDhcp.Config
