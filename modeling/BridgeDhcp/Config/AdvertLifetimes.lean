/-
The lifetimes of a configuration file and those of the router advertisements.

The file sets a lifetime as a duration or leaves it out, and each missing one is
completed on its own.  On its way into a message the number of whole seconds is cut to
sixteen or to thirty-two bits, so that a lifetime that does not fit arrives as its
remainder.
-/

import BridgeDhcp.Server.AdvertSettings
import BridgeDhcp.Server.ComposePd
import BridgeDhcp.Server.WithdrawalReach

set_option autoImplicit false

namespace BridgeDhcp.Config

open Netip GoTime GoMap GoError Server StepRun

/-! ### What the file says -/

structure Lifetimes where
  router : Duration
  valid : Duration
  preferred : Duration
  deriving DecidableEq, Repr

def noOpts : RAOpts where
  interval := 0
  routerLifetime := 0
  validLifetime := 0
  preferredLife := 0
  dns := []

namespace Iface

def raOpts (ic : Iface) : RAOpts := ic.ra.getD noOpts

def lifetimes (ic : Iface) : Lifetimes where
  router := orDefault ic.raOpts.routerLifetime defaultRouterLifetime
  valid := orDefault ic.raOpts.validLifetime defaultValidLifetime
  preferred := orDefault ic.raOpts.preferredLife defaultPreferredLifetime

/-- Hosts are told of the interface: they configure themselves, or by DHCPv6. -/
def advertises (ic : Iface) : Bool := ic.slaac || ic.dhcp6.isSome

end Iface

structure Follows (ic : Iface) (ra : RAConfig) : Prop where
  enabled : ra.enabled = ic.advertises
  router : ra.routerLifetime = ic.lifetimes.router
  valid : ra.validLifetime = ic.lifetimes.valid
  preferred : ra.preferredLife = ic.lifetimes.preferred
  dns : ra.dns = [] ↔ ic.raOpts.dns = []

section Accepted

variable {parsing : Parsing}

theorem parseAddrs_eq_nil_iff {texts : List String} {what : String} {addrs : List Addr}
    (parsed : parseAddrs parsing texts what = .ok addrs) : addrs = [] ↔ texts = [] := by
  unfold parseAddrs at parsed
  cases texts with
  | nil =>
      cases parsed
      simp
  | cons text rest =>
      rw [List.mapM_cons] at parsed
      obtain ⟨first, _, after⟩ := bind_eq_ok parsed
      obtain ⟨others, _, last⟩ := bind_eq_ok after
      cases last
      simp

theorem buildRA_eq {name : String} {opts : Option RAOpts} {ra : RAConfig}
    (built : buildRA parsing name opts = .ok ra) :
    ra.routerLifetime = (opts.getD noOpts).routerLifetime ∧
      ra.validLifetime = (opts.getD noOpts).validLifetime ∧
      ra.preferredLife = (opts.getD noOpts).preferredLife ∧
      (ra.dns = [] ↔ (opts.getD noOpts).dns = []) := by
  cases opts with
  | none =>
      cases built
      exact ⟨rfl, rfl, rfl, iff_of_true rfl rfl⟩
  | some given =>
      obtain ⟨dns, parsed, last⟩ := bind_eq_ok built
      cases last
      exact ⟨rfl, rfl, rfl, parseAddrs_eq_nil_iff (within_eq_ok parsed)⟩

theorem buildPool_enabled {name what : String} {pool : Option Pool} {cfg : PoolConfig}
    (built : buildPool parsing name what pool = .ok cfg) : cfg.enabled = pool.isSome := by
  cases pool with
  | none =>
      cases built
      rfl
  | some given =>
      obtain ⟨dns, _, done⟩ := bind_eq_ok built
      cases done
      rfl

theorem buildIface_follows {tables used : Map Int String} {ic : Iface} {cfg : IfaceConfig}
    (built : buildIface parsing tables ic = .ok (used, cfg)) : Follows ic cfg.advertised := by
  have parts := builtFrom built
  obtain ⟨router, valid, preferred, dns⟩ := buildRA_eq parts.ra
  refine ⟨?_, ?_, ?_, ?_, dns⟩
  · change (cfg.slaac || cfg.dhcp6.enabled) = _
    rw [parts.slaac, buildPool_enabled parts.dhcp6]
    rfl
  · change orDefault cfg.ra.routerLifetime defaultRouterLifetime = _
    rw [router]
    rfl
  · change orDefault cfg.ra.validLifetime defaultValidLifetime = _
    rw [valid]
    rfl
  · change orDefault cfg.ra.preferredLife defaultPreferredLifetime = _
    rw [preferred]
    rfl

theorem buildAll_follows {tables : Map Int String} {ifaces : List Iface} {cfgs : List IfaceConfig}
    (built : buildAll parsing tables ifaces = .ok cfgs) {ic : Iface} {cfg : IfaceConfig}
    (paired : (ic, cfg) ∈ ifaces.zip cfgs) : Follows ic cfg.advertised := by
  induction ifaces generalizing tables cfgs with
  | nil => cases paired
  | cons first rest ih =>
      obtain ⟨used, made, later, builtFirst, others, rfl⟩ := buildAll_cons built
      rw [List.zip_cons_cons] at paired
      rcases List.mem_cons.mp paired with here | there
      · cases here
        exact buildIface_follows builtFirst
      · exact ih others there

end Accepted

theorem Follows.positive {ic : Iface} {ra : RAConfig} (follows : Follows ic ra) :
    0 < ra.routerLifetime ∧ 0 < ra.validLifetime ∧ 0 < ra.preferredLife := by
  rw [follows.router, follows.valid, follows.preferred]
  exact ⟨orDefault_pos (by decide), orDefault_pos (by decide), orDefault_pos (by decide)⟩

/-! ### Lifetimes that fit -/

/-- The low bits of the number are the number, or the largest there is. -/
def Unwrapped (width seconds : Nat) : Prop :=
  seconds < 2 ^ width ∨ seconds % 2 ^ width = 2 ^ width - 1

instance (width seconds : Nat) : Decidable (Unwrapped width seconds) :=
  inferInstanceAs (Decidable (_ ∨ _))

theorem unwrapped_iff (width seconds : Nat) :
    seconds % 2 ^ width = min seconds (2 ^ width - 1) ↔ Unwrapped width seconds := by
  have positive : 0 < 2 ^ width := Nat.two_pow_pos width
  unfold Unwrapped
  by_cases small : seconds < 2 ^ width
  · rw [Nat.mod_eq_of_lt small]
    omega
  · rw [Nat.min_eq_right (by omega)]
    exact (or_iff_right small).symm

/-- Every lifetime in the message is the given one in whole seconds, or the largest one that can
be written if it does not fit. -/
structure Kept (lifetimes : Lifetimes) (prefixes : Map Prefix Bool) (advert : Advert) : Prop where
  router : advert.routerLifetime.toNat = min (wholeSeconds lifetimes.router) (2 ^ 16 - 1)
  valid : ∀ info ∈ advert.prefixes, prefixes.lookup info.net = some true →
    info.validLifetime.toNat = min (wholeSeconds lifetimes.valid) (2 ^ 32 - 1)
  preferred : ∀ info ∈ advert.prefixes, prefixes.lookup info.net = some true →
    info.preferredLifetime.toNat = min (wholeSeconds lifetimes.preferred) (2 ^ 32 - 1)
  dns : advert.dns ≠ [] →
    advert.dnsLifetime.toNat = min (wholeSeconds lifetimes.router) (2 ^ 32 - 1)

structure Iface.LifetimesFit (ic : Iface) : Prop where
  router : Unwrapped 16 (wholeSeconds ic.lifetimes.router)
  valid : Unwrapped 32 (wholeSeconds ic.lifetimes.valid)
  preferred : Unwrapped 32 (wholeSeconds ic.lifetimes.preferred)
  dns : ic.raOpts.dns ≠ [] → Unwrapped 32 (wholeSeconds ic.lifetimes.router)

section Fields

variable {ic : Iface} {cfg : RAConfig} {prefixes : Map Prefix Bool} {advert : Advert}

theorem live_toNat (contents : AdvertContents cfg prefixes advert) (follows : Follows ic cfg)
    {info : PrefixInfo} (member : info ∈ advert.prefixes)
    (alive : prefixes.lookup info.net = some true) :
    info.validLifetime.toNat = wholeSeconds ic.lifetimes.valid % 2 ^ 32 ∧
      info.preferredLifetime.toNat = wholeSeconds ic.lifetimes.preferred % 2 ^ 32 := by
  obtain ⟨_, validPositive, preferredPositive⟩ := follows.positive
  obtain ⟨known, found, same⟩ := (contents.mem_iff info).mp member
  rw [alive] at found
  cases found
  rw [same, ← follows.valid, ← follows.preferred]
  exact ⟨toNat_seconds32 (Int.le_of_lt validPositive),
    toNat_seconds32 (Int.le_of_lt preferredPositive)⟩

theorem dns_toNat (contents : AdvertContents cfg prefixes advert) (follows : Follows ic cfg) :
    advert.dnsLifetime.toNat = wholeSeconds ic.lifetimes.router % 2 ^ 32 := by
  rw [contents.dnsLifetime, toNat_seconds32 (Int.le_of_lt follows.positive.1), follows.router]

theorem routerLifetime_toNat (follows : Follows ic cfg)
    (router : advert.routerLifetime = seconds16 cfg.routerLifetime) :
    advert.routerLifetime.toNat = wholeSeconds ic.lifetimes.router % 2 ^ 16 := by
  rw [router, toNat_seconds16 (Int.le_of_lt follows.positive.1), follows.router]

theorem resolvers_iff (contents : AdvertContents cfg prefixes advert) (follows : Follows ic cfg) :
    advert.dns = [] ↔ ic.raOpts.dns = [] := by
  rw [contents.dns]
  exact follows.dns

theorem kept_of_fit (contents : AdvertContents cfg prefixes advert) (follows : Follows ic cfg)
    (router : advert.routerLifetime = seconds16 cfg.routerLifetime) (fit : ic.LifetimesFit) :
    Kept ic.lifetimes prefixes advert := by
  refine ⟨?_, ?_, ?_, ?_⟩
  · rw [routerLifetime_toNat follows router]
    exact (unwrapped_iff 16 _).mpr fit.router
  · intro info member alive
    rw [(live_toNat contents follows member alive).1]
    exact (unwrapped_iff 32 _).mpr fit.valid
  · intro info member alive
    rw [(live_toNat contents follows member alive).2]
    exact (unwrapped_iff 32 _).mpr fit.preferred
  · intro some
    rw [dns_toNat contents follows]
    exact (unwrapped_iff 32 _).mpr
      (fit.dns (fun none => some ((resolvers_iff contents follows).mpr none)))

theorem fit_of_kept (contents : AdvertContents cfg prefixes advert) (follows : Follows ic cfg)
    (router : advert.routerLifetime = seconds16 cfg.routerLifetime) {net : Prefix}
    (alive : prefixes.lookup net = some true) (kept : Kept ic.lifetimes prefixes advert) :
    ic.LifetimesFit := by
  have member : prefixInfo cfg (net, true) ∈ advert.prefixes :=
    (contents.mem_iff _).mpr ⟨true, alive, rfl⟩
  obtain ⟨validField, preferredField⟩ := live_toNat contents follows member alive
  refine ⟨?_, ?_, ?_, ?_⟩
  · rw [← unwrapped_iff, ← routerLifetime_toNat follows router]
    exact kept.router
  · rw [← unwrapped_iff, ← validField]
    exact kept.valid _ member alive
  · rw [← unwrapped_iff, ← preferredField]
    exact kept.preferred _ member alive
  · intro some
    rw [← unwrapped_iff, ← dns_toNat contents follows]
    exact kept.dns (fun none => some ((resolvers_iff contents follows).mp none))

end Fields

/-! ### Every accepted file -/

section EveryFile

variable {parsing : Parsing} {file : File} {cfgs : List IfaceConfig} {ic : Iface}
  {cfg ready : IfaceConfig}

theorem follows_of_accepted (built : file.buildIfaceConfigs parsing = .ok cfgs)
    (paired : (ic, cfg) ∈ file.interfaces.zip cfgs) (completed : cfg.normalize = .ok ready) :
    Follows ic ready.ra ∧ ready.ra.normalize = ready.ra := by
  rw [(IfaceConfig.completedFrom completed).ra]
  exact ⟨buildAll_follows built paired, normalize_normalize _⟩

end EveryFile

/-- The messages of an interface carry the lifetimes of the file exactly if these fit into their
fields, or if the interface advertises nothing. -/
theorem lifetimes_kept_iff (parsing : Parsing) (file : File) (cfgs : List IfaceConfig) (ic : Iface)
    (cfg ready : IfaceConfig) (built : file.buildIfaceConfigs parsing = .ok cfgs)
    (paired : (ic, cfg) ∈ file.interfaces.zip cfgs) (completed : cfg.normalize = .ok ready) :
    (∀ served inputs prefixes advert,
      Transmits (run AdvertWorld.step (AdvertWorld.start ready.ra served) inputs)
        prefixes advert false →
      Kept ic.lifetimes prefixes advert) ↔
    (ic.advertises = true → ic.LifetimesFit) := by
  obtain ⟨follows, complete⟩ := follows_of_accepted built paired completed
  constructor
  · intro always advertises
    obtain ⟨prefixes, advert, transmits, alive, router, contents⟩ := transmits_live complete
      (follows.enabled.trans advertises) (rfl : sampleServed.bits = 64) sampleOrders
    exact fit_of_kept contents follows router alive (always _ _ prefixes advert transmits)
  · intro fit served inputs prefixes advert transmits
    have steady := steady_run complete served inputs
    obtain ⟨enabled, contents⟩ := transmits.contents steady
    exact kept_of_fit contents follows (transmits.routerLifetime steady)
      (fit (follows.enabled.symm.trans enabled))

/-- The default lifetimes are kept. -/
theorem lifetimes_kept_default :
    (sampleFile 64).buildIfaceConfigs sampleParsing = .ok [sampleIface 64] ∧
      (sampleFileIface "br0" 64 0).advertises = true ∧
      ∀ served inputs prefixes advert,
        Transmits (run AdvertWorld.step (AdvertWorld.start (sampleReady 64).ra served) inputs)
          prefixes advert false →
        Kept (sampleFileIface "br0" 64 0).lifetimes prefixes advert := by
  refine ⟨sampleFile_accepted.1, rfl, ?_⟩
  exact (lifetimes_kept_iff sampleParsing (sampleFile 64) [sampleIface 64]
    (sampleFileIface "br0" 64 0) (sampleIface 64) (sampleReady 64) sampleFile_accepted.1
    (List.mem_singleton.mpr rfl) sampleIface_normalized.1).mpr
    (fun _ => ⟨by decide, by decide, by decide, by decide⟩)

/-! ### Lifetimes that do not fit -/

theorem sample64_addrValid : (Addr.v6 0x20010db8000000000000000000000001#128).isValid = true := rfl

theorem sample64_bitsFit : 64 ≤ (Addr.v6 0x20010db8000000000000000000000001#128).bitLen := by
  decide

def sample64 : Prefix where
  addr := .v6 0x20010db8000000000000000000000001#128
  bits := 64
  addrValid := sample64_addrValid
  bitsFit := sample64_bitsFit

def parsing64 : Parsing :=
  { sampleParsing with
    parsePrefix := fun text => if text = "2001:db8::1/64" then some sample64 else none }

def ifaceOf (opts : RAOpts) : Iface :=
  { sampleFileIface "br0" 64 0 with
    prefix6 := "2001:db8::1/64"
    pd := none
    ra := some opts }

def fileOf (opts : RAOpts) : File where
  interfaces := [ifaceOf opts]

def settingsOf (opts : RAOpts) : IfaceConfig :=
  { sampleIface 64 with
    prefix6 := some sample64
    pd := none
    ra :=
      { (sampleIface 64).ra with
        interval := opts.interval
        routerLifetime := opts.routerLifetime
        validLifetime := opts.validLifetime
        preferredLife := opts.preferredLife } }

def readyFrom (opts : RAOpts) : IfaceConfig :=
  { settingsOf opts with ra := (settingsOf opts).advertised }

def longRouter : RAOpts := { noOpts with routerLifetime := 65536 * second }

/-- With a router lifetime of 65536 seconds the router is not a default router. -/
theorem router_lifetime_wraps :
    (fileOf longRouter).buildIfaceConfigs parsing64 = .ok [settingsOf longRouter] ∧
      (settingsOf longRouter).normalize = .ok (readyFrom longRouter) ∧
      wholeSeconds (ifaceOf longRouter).lifetimes.router = 65536 ∧
      envV6All (readyFrom longRouter) none = [sample64] ∧
      ∃ prefixes advert,
        Transmits
          (run AdvertWorld.step
            (AdvertWorld.start (readyFrom longRouter).ra (envV6All (readyFrom longRouter) none))
            [.look .loop, .update .loop sampleOrders])
          prefixes advert false ∧
        advert.routerLifetime = 0 ∧ ¬ Kept (ifaceOf longRouter).lifetimes prefixes advert := by
  obtain ⟨prefixes, advert, transmits, _, router, _⟩ :=
    transmits_live (normalize_normalize _ : (readyFrom longRouter).ra.normalize = _) rfl
      (rfl : sample64.bits = 64) sampleOrders
  have zero : advert.routerLifetime = 0 := by
    rw [router]
    decide
  refine ⟨by decide +kernel, by decide +kernel, by decide, rfl, prefixes, advert, transmits, zero,
    ?_⟩
  intro kept
  have field := kept.router
  rw [zero] at field
  revert field
  decide

/-! ### Preferred and valid lifetimes -/

/-- Whenever `v6all` is called it returns what the interface has then. -/
def ServesOnly (cfg : IfaceConfig) (served : List Prefix) (inputs : List AdvertInput) : Prop :=
  MayServe cfg served ∧ ∀ prefixes, AdvertInput.serve prefixes ∈ inputs → MayServe cfg prefixes

/-- Hosts ignore an option with a preferred lifetime beyond its valid one (RFC 4862, 5.5.3).  Of a
live prefix they take the option exactly if the interface never serves a /64 or the seconds that
arrive are in order. -/
theorem preferred_le_valid_iff (parsing : Parsing) (file : File) (cfgs : List IfaceConfig)
    (ic : Iface) (cfg ready : IfaceConfig) (built : file.buildIfaceConfigs parsing = .ok cfgs)
    (paired : (ic, cfg) ∈ file.interfaces.zip cfgs) (completed : cfg.normalize = .ok ready) :
    (∀ served inputs prefixes advert final, ServesOnly ready served inputs →
      Transmits (run AdvertWorld.step (AdvertWorld.start ready.ra served) inputs)
        prefixes advert final →
      ∀ info ∈ advert.prefixes, prefixes.lookup info.net = some true →
        info.preferredLifetime ≤ info.validLifetime) ↔
    (ic.advertises = true → ServesSlash64 ready →
      wholeSeconds ic.lifetimes.preferred % 2 ^ 32 ≤ wholeSeconds ic.lifetimes.valid % 2 ^ 32) := by
  obtain ⟨follows, complete⟩ := follows_of_accepted built paired completed
  constructor
  · intro always advertises slash64
    obtain ⟨served, may, net, member, long⟩ := (servesSlash64_iff ready).mp slash64
    have only : served = [net] := may.eq_singleton member
    rw [only] at may
    obtain ⟨prefixes, advert, transmits, alive, _, contents⟩ := transmits_live complete
      (follows.enabled.trans advertises) long sampleOrders
    have member : prefixInfo ready.ra (net.masked, true) ∈ advert.prefixes :=
      (contents.mem_iff _).mpr ⟨true, alive, rfl⟩
    obtain ⟨validField, preferredField⟩ := live_toNat contents follows member alive
    have serves : ServesOnly ready [net] [.look .loop, .update .loop sampleOrders] := by
      refine ⟨may, ?_⟩
      intro later impossible
      simp at impossible
    rw [← validField, ← preferredField]
    exact always _ _ prefixes advert false serves transmits _ member alive
  · intro ordered served inputs prefixes advert final serves transmits info member alive
    have steady := steady_run complete served inputs
    have backed := backed_run ready.ra serves.1 serves.2
    obtain ⟨enabled, contents⟩ := transmits.contents steady
    obtain ⟨validField, preferredField⟩ := live_toNat contents follows member alive
    obtain ⟨then_, may, own, inServed, long, _⟩ := transmits.live_served backed alive
    have slash64 : ServesSlash64 ready := (servesSlash64_iff ready).mpr ⟨then_, may, own, inServed, long⟩
    rw [UInt32.le_iff_toNat_le, validField, preferredField]
    exact ordered (follows.enabled.symm.trans enabled) slash64

/-- The defaults are in order, for an interface that serves a /64 of its delegation. -/
theorem preferred_le_valid_default :
    (sampleFile 64).buildIfaceConfigs sampleParsing = .ok [sampleIface 64] ∧
      (sampleFileIface "br0" 64 0).advertises = true ∧ ServesSlash64 (sampleReady 64) ∧
      ∀ served inputs prefixes advert final, ServesOnly (sampleReady 64) served inputs →
        Transmits (run AdvertWorld.step (AdvertWorld.start (sampleReady 64).ra served) inputs)
          prefixes advert final →
        ∀ info ∈ advert.prefixes, prefixes.lookup info.net = some true →
          info.preferredLifetime ≤ info.validLifetime := by
  refine ⟨sampleFile_accepted.1, rfl, rfl, ?_⟩
  exact (preferred_le_valid_iff sampleParsing (sampleFile 64) [sampleIface 64]
    (sampleFileIface "br0" 64 0) (sampleIface 64) (sampleReady 64) sampleFile_accepted.1
    (List.mem_singleton.mpr rfl) sampleIface_normalized.1).mpr (fun _ _ => by decide)

def shortValid : RAOpts := { noOpts with validLifetime := 60 * minute }

/-- The default preferred lifetime of a week goes out with a valid lifetime of an hour, for the
/64 of the file. -/
theorem preferred_exceeds_valid :
    (fileOf shortValid).buildIfaceConfigs parsing64 = .ok [settingsOf shortValid] ∧
      (settingsOf shortValid).normalize = .ok (readyFrom shortValid) ∧
      envV6All (readyFrom shortValid) none = [sample64] ∧
      ∃ prefixes advert info,
        Transmits
          (run AdvertWorld.step
            (AdvertWorld.start (readyFrom shortValid).ra (envV6All (readyFrom shortValid) none))
            [.look .loop, .update .loop sampleOrders])
          prefixes advert false ∧
        info ∈ advert.prefixes ∧ prefixes.lookup info.net = some true ∧
        info.net = sample64.masked ∧
        info.validLifetime = 3600 ∧ info.preferredLifetime = 604800 ∧
        ¬ info.preferredLifetime ≤ info.validLifetime := by
  obtain ⟨prefixes, advert, transmits, alive, _, contents⟩ :=
    transmits_live (normalize_normalize _ : (readyFrom shortValid).ra.normalize = _) rfl
      (rfl : sample64.bits = 64) sampleOrders
  refine ⟨by decide +kernel, by decide +kernel, rfl, prefixes, advert,
    prefixInfo (readyFrom shortValid).ra (sample64.masked, true), transmits, ?_, alive, rfl, ?_, ?_,
    ?_⟩
  · exact (contents.mem_iff _).mpr ⟨true, alive, rfl⟩
  · decide
  · decide
  · decide

end BridgeDhcp.Config
