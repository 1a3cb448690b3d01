/-
The network that is served for a delegated prefix.

`composePD` takes the bits of the delegation, adds those of the configured suffix
and gives the result the configured length.  Neither the suffix nor the length is
compared with the delegation, so the served network may reach beyond it: when the
delegation is longer than the configured length, when the suffix has bits inside
it, and when its mask is no mask at all and is taken to be of length zero.
-/

import BridgeDhcp.Config.File
import BridgeDhcp.Pd.StateMachine

set_option autoImplicit false

namespace BridgeDhcp.Server

open Netip Packet GoTime

/-- The address bits of a delegation, all zero for the invalid prefix. -/
def delegatedBits (delegated : Option Prefix) : BitVec 128 :=
  (delegated.map (fun net => net.masked.addr.as16)).getD 0

def composePD (pd : PDConfig) (delegated : Option Prefix) : Option Prefix :=
  prefixFrom (.v6 (delegatedBits delegated ||| pd.suffix.as16)) pd.prefixLen

theorem composePD_valid {pd : PDConfig} (fits : 1 ≤ pd.prefixLen ∧ pd.prefixLen ≤ 128)
    (delegated : Option Prefix) :
    ∃ served, composePD pd delegated = some served ∧
      served.addr = .v6 (delegatedBits delegated ||| pd.suffix.as16) ∧
      served.bits = pd.prefixLen.toNat := by
  have valid : (Addr.v6 (delegatedBits delegated ||| pd.suffix.as16)).isValid = true ∧
      0 ≤ pd.prefixLen ∧ pd.prefixLen ≤ (128 : Nat) := ⟨rfl, by omega, fits.2⟩
  exact ⟨_, dif_pos valid, rfl, rfl⟩

/-- The network for IPv6 clients: that of the delegation when there is a PD client, else
that of the file. -/
def envV6 (cfg : IfaceConfig) (pdAddr : Option Prefix) : Option Prefix :=
  if cfg.pd.isSome then pdAddr else cfg.prefix6

def envV6All (cfg : IfaceConfig) (pdAddr : Option Prefix) : List Prefix :=
  (envV6 cfg pdAddr).toList

/-- `pdAddr` is the zero prefix or what `composePD` has made of some delegation. -/
def MayServe (cfg : IfaceConfig) (served : List Prefix) : Prop :=
  ∃ pdAddr, (∀ addr ∈ pdAddr, ∃ pd ∈ cfg.pd, ∃ delegated, composePD pd delegated = some addr) ∧
    served = envV6All cfg pdAddr

theorem MayServe.eq_singleton {cfg : IfaceConfig} {served : List Prefix}
    (may : MayServe cfg served) {net : Prefix} (member : net ∈ served) : served = [net] := by
  obtain ⟨pdAddr, _, same⟩ := may
  rw [same] at member ⊢
  unfold envV6All at member ⊢
  rw [Option.mem_toList.mp member]
  rfl

/-- The interface serves a /64, by its file or once it has a delegation. -/
def ServesSlash64 (cfg : IfaceConfig) : Prop :=
  match cfg.pd with
  | some pd => pd.prefixLen = 64
  | none => ∃ net ∈ cfg.prefix6, net.bits = 64

theorem bits_of_composePD {pd : PDConfig} {delegated : Option Prefix} {served : Prefix}
    (composed : composePD pd delegated = some served) : (served.bits : Int) = pd.prefixLen := by
  unfold composePD prefixFrom at composed
  split at composed
  · next fits =>
      cases composed
      exact Int.toNat_of_nonneg fits.2.1
  · cases composed

/-- A /64 is served at some time exactly if the settings are those of one. -/
theorem servesSlash64_iff (cfg : IfaceConfig) :
    ServesSlash64 cfg ↔ ∃ served, MayServe cfg served ∧ ∃ net ∈ served, net.bits = 64 := by
  unfold ServesSlash64 MayServe envV6All envV6
  cases cfg.pd with
  | some pd =>
      constructor
      · intro long
        change pd.prefixLen = 64 at long
        obtain ⟨served, composed, _, bits⟩ := @composePD_valid pd ⟨by omega, by omega⟩ none
        refine ⟨[served], ⟨some served, ?_, rfl⟩, served, List.mem_singleton.mpr rfl, by omega⟩
        intro addr same
        cases same
        exact ⟨pd, rfl, none, composed⟩
      · intro ⟨served, ⟨pdAddr, composes, same⟩, net, member, long⟩
        rw [same] at member
        obtain ⟨own, isOwn, delegated, composed⟩ := composes net (Option.mem_toList.mp member)
        cases isOwn
        have bits := bits_of_composePD composed
        change pd.prefixLen = 64
        omega
  | none =>
      constructor
      · intro ⟨net, given, long⟩
        refine ⟨[net], ⟨none, ?_, ?_⟩, net, List.mem_singleton.mpr rfl, long⟩
        · intro addr impossible
          cases impossible
        · rw [Option.mem_def.mp given]
          rfl
      · intro ⟨served, ⟨_, _, same⟩, net, member, long⟩
        rw [same] at member
        exact ⟨net, Option.mem_toList.mp member, long⟩

/-! ### Delegated address space -/

def bitsOfBytes (bytes : List UInt8) : BitVec 128 := BitVec.ofNat 128 (natOfBytes bytes)

/-- The addresses that agree with the network's own address where its mask has
ones.  A network without a mask has none. -/
def Covers (net : IPNet) (value : BitVec 128) : Prop :=
  net.ip.length = 16 ∧ net.mask.length = 16 ∧
    value &&& bitsOfBytes net.mask = bitsOfBytes net.ip &&& bitsOfBytes net.mask

def Delegates (reply : Answer6) (net : IPNet) : Prop :=
  ∃ iapd, reply.iapd = some iapd ∧
    ∃ delegated ∈ iapd.prefixes, 0 < delegated.validLifetime ∧ delegated.net = some net

def RecordedFrom (reply : Answer6) (delegated : Prefix) : Prop :=
  ∃ lifetime, Pd.usablePrefix reply = some (delegated, lifetime)

/-- The network served for the recorded prefix lies in one of the networks that the
reply delegates. -/
def InsideDelegation (pd : PDConfig) (reply : Answer6) : Prop :=
  ∃ delegated served net, RecordedFrom reply delegated ∧
    composePD pd (some delegated) = some served ∧ Delegates reply net ∧
    ∀ value, served.masked.contains (.v6 value) = true → Covers net value

/-- The mask has no ones after the served length, and under the mask the composed
address is the network's own. -/
def FitsInto (pd : PDConfig) (delegated : Prefix) (net : IPNet) : Prop :=
  net.ip.length = 16 ∧ net.mask.length = 16 ∧
    (∀ index < 128 - pd.prefixLen.toNat, (bitsOfBytes net.mask).getLsbD index = false) ∧
    (delegatedBits (some delegated) ||| pd.suffix.as16) &&& bitsOfBytes net.mask =
      bitsOfBytes net.ip &&& bitsOfBytes net.mask

instance (pd : PDConfig) (delegated : Prefix) (net : IPNet) :
    Decidable (FitsInto pd delegated net) :=
  inferInstanceAs (Decidable (_ ∧ _ ∧ (∀ index < _, _ = false) ∧ _ = _))

/-- A network of which the low bits are free agrees with another one under a mask
exactly if the mask asks for none of the free bits. -/
theorem agree_under_mask_iff (free : Nat) (base own mask : BitVec 128) :
    (∀ value : BitVec 128, (∀ index, free ≤ index → value.getLsbD index = base.getLsbD index) →
      value &&& mask = own &&& mask) ↔
      (∀ index < free, mask.getLsbD index = false) ∧ base &&& mask = own &&& mask := by
  constructor
  · intro agree
    have atBase := agree base (fun _ _ => rfl)
    refine ⟨?_, atBase⟩
    intro index low
    by_contra one
    have isOne : mask.getLsbD index = true := Bool.not_eq_false _ ▸ one
    have inside : index < 128 := by
      by_contra outside
      rw [BitVec.getLsbD_of_ge mask index (by omega)] at isOne
      cases isOne
    -- The address with this one bit turned over is in the network as well.
    have turned := agree (base ^^^ BitVec.twoPow 128 index) (by
      intro other above
      have different : index ≠ other := by omega
      rw [BitVec.getLsbD_xor, BitVec.getLsbD_twoPow, decide_eq_false different, Bool.and_false,
        Bool.xor_false])
    have bit := congrArg (fun value => value.getLsbD index) (turned.trans atBase.symm)
    rw [BitVec.getLsbD_and, BitVec.getLsbD_and, BitVec.getLsbD_xor, BitVec.getLsbD_twoPow,
      isOne, decide_eq_true inside, decide_eq_true rfl, Bool.and_true, Bool.and_true,
      Bool.and_true, Bool.xor_true] at bit
    exact Bool.not_ne_self _ bit
  · rintro ⟨zeros, atBase⟩ value above
    rw [← atBase]
    apply BitVec.eq_of_getLsbD_eq
    intro index _
    rw [BitVec.getLsbD_and, BitVec.getLsbD_and]
    by_cases low : index < free
    · rw [zeros index low, Bool.and_false, Bool.and_false]
    · rw [above index (by omega)]

theorem insideDelegation_iff_fits {pd : PDConfig} (completed : pd.Completed) (reply : Answer6) :
    InsideDelegation pd reply ↔
      ∃ delegated net, RecordedFrom reply delegated ∧ Delegates reply net ∧
        FitsInto pd delegated net := by
  -- For a given delegation and network, containment is a matter of masks.
  have single : ∀ (delegated : Prefix) (net : IPNet),
      (∃ served, composePD pd (some delegated) = some served ∧
        ∀ value, served.masked.contains (.v6 value) = true → Covers net value) ↔
      FitsInto pd delegated net := by
    intro delegated net
    obtain ⟨served, composed, addr, bits⟩ :=
      composePD_valid ⟨completed.lenPositive, completed.lenFits⟩ (some delegated)
    have host : served.hostBits = 128 - pd.prefixLen.toNat := by
      unfold Prefix.hostBits
      rw [addr, bits]
      rfl
    have masks := agree_under_mask_iff served.hostBits
      (delegatedBits (some delegated) ||| pd.suffix.as16) (bitsOfBytes net.ip)
      (bitsOfBytes net.mask)
    rw [host] at masks
    constructor
    · rintro ⟨other, same, contained⟩
      rw [composed] at same
      cases same
      have inside : ∀ value : BitVec 128,
          (∀ index, 128 - pd.prefixLen.toNat ≤ index → value.getLsbD index =
            (delegatedBits (some delegated) ||| pd.suffix.as16).getLsbD index) →
          Covers net value := by
        intro value agrees
        apply contained value
        rw [Prefix.contains_masked, Prefix.contains_v6_iff addr, host]
        exact agrees
      have own := inside (delegatedBits (some delegated) ||| pd.suffix.as16) (fun _ _ => rfl)
      have fits := masks.mp (fun value agrees => (inside value agrees).2.2)
      exact ⟨own.1, own.2.1, fits.1, fits.2⟩
    · rintro ⟨ip, mask, zeros, same⟩
      refine ⟨served, composed, ?_⟩
      intro value contained
      rw [Prefix.contains_masked, Prefix.contains_v6_iff addr, host] at contained
      exact ⟨ip, mask, masks.mpr ⟨zeros, same⟩ value contained⟩
  constructor
  · rintro ⟨delegated, served, net, recorded, composed, delegates, contained⟩
    exact ⟨delegated, net, recorded, delegates,
      (single delegated net).mp ⟨served, composed, contained⟩⟩
  · rintro ⟨delegated, net, recorded, delegates, fits⟩
    obtain ⟨served, composed, contained⟩ := (single delegated net).mpr fits
    exact ⟨delegated, served, net, recorded, composed, delegates, contained⟩

theorem completed_of_accepted {parsing : Config.Parsing} {file : Config.File}
    {cfgs : List IfaceConfig} {cfg ready : IfaceConfig} {pd : PDConfig}
    (built : file.buildIfaceConfigs parsing = .ok cfgs) (member : cfg ∈ cfgs)
    (normalized : cfg.normalize = .ok ready) (delegates : ready.pd = some pd) : pd.Completed := by
  obtain ⟨before, settings, completed⟩ := IfaceConfig.normalize_pd normalized delegates
  have fits := Config.buildAll_suffixFits built cfg member before settings
  exact PDConfig.normalize_completed fits completed

/-! ### Every accepted configuration and every REPLY -/

/-- The served network lies in what the server delegated exactly if it fits into one
of the delegated networks. -/
theorem served_inside_delegation_iff (parsing : Config.Parsing) (file : Config.File)
    (cfgs : List IfaceConfig) (cfg ready : IfaceConfig) (pd : PDConfig) (reply : Answer6)
    (built : file.buildIfaceConfigs parsing = .ok cfgs) (member : cfg ∈ cfgs)
    (normalized : cfg.normalize = .ok ready) (delegates : ready.pd = some pd) :
    InsideDelegation pd reply ↔
      ∃ delegated net, RecordedFrom reply delegated ∧ Delegates reply net ∧
        FitsInto pd delegated net :=
  insideDelegation_iff_fits (completed_of_accepted built member normalized delegates) reply

def sampleParsing : Config.Parsing where
  parsePrefix := fun _ => none
  parseAddr := fun _ => .ok (.v6 1)

def sampleFilePD (prefixLen routeTable : Int) : Config.PD where
  uplink := "up0"
  duid := "0003"
  iaid := 0
  suffix := ""
  prefixLen := prefixLen
  routeTable := routeTable
  rulePriority := 0
  initialTimeout := 0
  maxTimeout := 0
  attempts := 0

def sampleFileIface (name : String) (prefixLen routeTable : Int) : Config.Iface where
  name := name
  tag := ""
  prefix4 := ""
  prefix6 := ""
  dhcp4 := none
  dhcp6 := none
  slaac := true
  pd := some (sampleFilePD prefixLen routeTable)
  dns := none
  ra := none

def sampleFile (prefixLen : Int) : Config.File where
  interfaces := [sampleFileIface "br0" prefixLen 0]

def samplePD (prefixLen : Int) : PDConfig where
  uplink := "up0"
  duid := [0, 3]
  iaid := 1
  suffix := .v6 1
  prefixLen := prefixLen
  routeTable := 0
  rulePriority := 0
  initialTimeout := 0
  maxTimeout := 0
  attempts := 0

def sampleIface (prefixLen : Int) : IfaceConfig where
  name := "br0"
  tag := ""
  prefix4 := none
  prefix6 := none
  dhcp4 := { enabled := false, poolOffsetStart := 0, poolOffsetEnd := 0, leaseTime := 0, dns := [] }
  dhcp6 := { enabled := false, poolOffsetStart := 0, poolOffsetEnd := 0, leaseTime := 0, dns := [] }
  slaac := true
  ra :=
    { enabled := false
      autonomous := false
      managed := false
      other := false
      interval := 0
      routerLifetime := 0
      validLifetime := 0
      preferredLife := 0
      dns := [] }
  pd := some { samplePD prefixLen with suffix := .invalid }
  dns := none

def sampleReady (prefixLen : Int) : IfaceConfig :=
  { sampleIface prefixLen with
    ra := (sampleIface prefixLen).advertised
    pd := some (samplePD prefixLen) }

theorem sampleFile_accepted :
    (sampleFile 64).buildIfaceConfigs sampleParsing = .ok [sampleIface 64] ∧
    (sampleFile 48).buildIfaceConfigs sampleParsing = .ok [sampleIface 48] := by
  decide +kernel

theorem sampleIface_normalized :
    (sampleIface 64).normalize = .ok (sampleReady 64) ∧
    (sampleIface 48).normalize = .ok (sampleReady 48) := by
  decide +kernel

theorem sampleNet_maskFits : (cidrMask 56).length ≤ 16 := by
  decide

def sampleNet : IPNet where
  ip := [32, 1, 13, 184, 0, 0, 0, 0, 0, 0, 0, 0, 0, 0, 0, 0]
  mask := cidrMask 56
  maskFits := sampleNet_maskFits

theorem sampleAnswer_recorded : RecordedFrom (Pd.sampleAnswer .reply) Pd.sampleBinding.net :=
  ⟨14400 * second, by decide +kernel⟩

theorem sampleAnswer_delegates (net : IPNet) :
    Delegates (Pd.sampleAnswer .reply) net ↔ net = sampleNet := by
  constructor
  · rintro ⟨iapd, same, delegated, member, _, isNet⟩
    cases same
    rw [List.mem_singleton.mp member] at isNet
    exact (Option.some.inj isNet).symm
  · intro same
    rw [same]
    exact ⟨_, rfl, _, List.mem_singleton.mpr rfl, by decide, rfl⟩

/-- A network of length 64 in a delegation of length 56. -/
theorem served_inside_delegation_longer :
    InsideDelegation (samplePD 64) (Pd.sampleAnswer .reply) :=
  (served_inside_delegation_iff sampleParsing (sampleFile 64) [sampleIface 64] (sampleIface 64)
    (sampleReady 64) (samplePD 64) (Pd.sampleAnswer .reply) sampleFile_accepted.1
    (List.mem_singleton.mpr rfl) sampleIface_normalized.1 rfl).mpr
    ⟨Pd.sampleBinding.net, sampleNet, sampleAnswer_recorded,
      (sampleAnswer_delegates sampleNet).mpr rfl, by decide +kernel⟩

/-- A network of length 48 is served although only one of length 56 was delegated. -/
theorem served_outside_delegation :
    (sampleFile 48).buildIfaceConfigs sampleParsing = .ok [sampleIface 48] ∧
      (sampleIface 48).normalize = .ok (sampleReady 48) ∧
      (sampleReady 48).pd = some (samplePD 48) ∧
      RecordedFrom (Pd.sampleAnswer .reply) Pd.sampleBinding.net ∧
      ¬ InsideDelegation (samplePD 48) (Pd.sampleAnswer .reply) := by
  refine ⟨sampleFile_accepted.2, sampleIface_normalized.2, rfl, sampleAnswer_recorded, ?_⟩
  intro inside
  have completed : (samplePD 48).Completed := ⟨by decide, by decide, rfl⟩
  obtain ⟨delegated, net, _, delegates, _, _, zeros, _⟩ :=
    (insideDelegation_iff_fits completed _).mp inside
  -- Bit 72 from below is the last one of the delegated network's mask.
  have one : (bitsOfBytes net.mask).getLsbD 72 = true := by
    rw [(sampleAnswer_delegates net).mp delegates]
    decide +kernel
  have zero := zeros 72 (by decide)
  rw [one] at zero
  cases zero

end BridgeDhcp.Server
