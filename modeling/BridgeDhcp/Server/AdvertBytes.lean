/-
The bytes of a router advertisement.

`transmitRA` lays the message out by hand: a header of sixteen bytes, and behind it the
options, each with its own length in units of eight bytes.  A host walks the options by
these lengths.
-/

import BridgeDhcp.GoBytes
import BridgeDhcp.OctetOptions
import BridgeDhcp.Packet.Parse
import BridgeDhcp.Server.RouterAdvert

set_option autoImplicit false

namespace BridgeDhcp.Server

open Netip GoTime GoMap GoBytes Packet OctetOptions

def ndpHopLimit : UInt8 := 255
def icmpv6TypeRouterAdvert : UInt8 := 134

/-! ### The body -/

def as16Bytes (addr : Addr) : List UInt8 := bytesOfNat 16 addr.as16.toNat

/-- The first sixteen bytes; reachable time and retransmission timer stay zero. -/
def advertHeader (cfg : RAConfig) (routerLifetime : UInt16) : List UInt8 :=
  let body := List.replicate 16 0
  let body := setByte 0 icmpv6TypeRouterAdvert body
  let body := setByte 4 64 body
  let body := if cfg.managed then setByte 5 (byteAt body 5 ||| 0x80) body else body
  let body := if cfg.other then setByte 5 (byteAt body 5 ||| 0x40) body else body
  putUint16 6 routerLifetime body

def linkLayerOption (mac : List UInt8) : List UInt8 :=
  let opt := List.replicate 8 0
  let opt := setByte 0 1 opt
  let opt := setByte 1 1 opt
  copyInto 2 8 mac opt

def prefixFields (cfg : RAConfig) (entry : Prefix × Bool) : List UInt8 :=
  let option := List.replicate 32 0
  let option := setByte 0 3 option
  let option := setByte 1 4 option
  let option := setByte 2 (UInt8.ofNat entry.1.bits) option
  let option := setByte 3 0x80 option
  let option :=
    if cfg.autonomous then setByte 3 (byteAt option 3 ||| 0x40) option else option
  if entry.2 then
    putUint32 8 (seconds32 cfg.preferredLife) (putUint32 4 (seconds32 cfg.validLifetime) option)
  else option

def prefixOption (cfg : RAConfig) (entry : Prefix × Bool) : List UInt8 :=
  copyInto 16 32 (as16Bytes entry.1.addr) (prefixFields cfg entry)

/-- Only configured servers are advertised. -/
def rdnss (cfg : RAConfig) : List Addr := cfg.dns

def copyServers (index : Nat) : List Addr → List UInt8 → List UInt8
  | [], option => option
  | server :: rest, option =>
      copyServers (index + 1) rest
        (copyInto (8 + 16 * index) option.length (as16Bytes server) option)

def rdnssOption (cfg : RAConfig) (dns : List Addr) : List UInt8 :=
  let option := List.replicate (8 + 16 * dns.length) 0
  let option := setByte 0 25 option
  let option := setByte 1 (UInt8.ofNat (1 + 2 * dns.length)) option
  let option := putUint32 4 (seconds32 cfg.routerLifetime) option
  copyServers 0 dns option

section Body

variable (cfg : RAConfig) (mac : List UInt8) (order : RangeOrder (Prefix × Bool))
  (prefixes : Map Prefix Bool) (routerLifetime : UInt16)

def advertBody : List UInt8 :=
  let body := advertHeader cfg routerLifetime
  let body := body ++ linkLayerOption mac
  let body :=
    (order.arrange (pairs prefixes)).foldl (fun body entry => body ++ prefixOption cfg entry) body
  let dns := rdnss cfg
  if 0 < dns.length then body ++ rdnssOption cfg dns else body

def advertFrame (linkLocal : Addr) (dst : Destination) : Option (List UInt8) :=
  if linkLocal.isValid then
    some
      (craftICMP6 mac dst.mac linkLocal.asSlice dst.ip
        (advertBody cfg mac order prefixes routerLifetime) ndpHopLimit)
  else none

end Body

/-! ### What a host reads -/

inductive NdpOption where
  | sourceLinkLayer (mac : List UInt8)
  | prefixInformation (bits : Nat) (onLink autonomous : Bool)
      (validLifetime preferredLifetime : UInt32) (address : List UInt8)
  | rdnss (lifetime : UInt32) (servers : List (List UInt8))
  | other (option : RawOption)
  deriving DecidableEq, Repr

def readOption (option : RawOption) : NdpOption :=
  let value := option.value
  if option.code = 1 then .sourceLinkLayer value
  else if option.code = 3 then
    .prefixInformation (byteAt value 0).toNat
      (byteAt value 1 &&& 0x80 ≠ 0) (byteAt value 1 &&& 0x40 ≠ 0)
      (uint32At value 2) (uint32At value 6) (slice 14 30 value)
  else if option.code = 25 then
    .rdnss (uint32At value 2) (blocks 16 ((value.length - 6) / 16) (value.drop 6))
  else .other option

structure HeardAdvert where
  managed : Bool
  other : Bool
  routerLifetime : UInt16
  options : List NdpOption
  deriving DecidableEq, Repr

/-- The options start at offset 16. -/
def readOptions (body : List UInt8) : Option (List NdpOption) :=
  (walk (body.drop 16)).map (fun options => options.map readOption)

def hear (body : List UInt8) : Option HeardAdvert :=
  if byteAt body 0 ≠ icmpv6TypeRouterAdvert then none
  else
    (readOptions body).map (fun options =>
      { managed := byteAt body 5 &&& 0x80 ≠ 0
        other := byteAt body 5 &&& 0x40 ≠ 0
        routerLifetime := uint16At body 6
        options := options })

/-! ### The options that are written -/

@[simp] theorem length_as16Bytes (addr : Addr) : (as16Bytes addr).length = 16 :=
  length_bytesOfNat 16 addr.as16.toNat

theorem seconds32_ne_zero {duration : Duration} (above : second ≤ duration)
    (below : duration ≤ (2 ^ 32 - 1) * second) : seconds32 duration ≠ 0 := by
  have positive : (0 : Int) ≤ duration := Int.le_trans (by decide) above
  have bounds := @wholeSeconds_bounds duration 1 (2 ^ 32 - 1) (by simpa using above)
    (by simpa using below)
  have number := toNat_seconds32 positive
  intro zero
  rw [zero] at number
  change 0 = _ at number
  omega

def headerFlags (cfg : RAConfig) : UInt8 :=
  (if cfg.managed then 0x80 else 0) ||| (if cfg.other then 0x40 else 0)

theorem advertHeader_eq (cfg : RAConfig) (routerLifetime : UInt16) :
    advertHeader cfg routerLifetime =
      [134, 0, 0, 0, 64, headerFlags cfg] ++
        (bytesOfUint16 routerLifetime ++ List.replicate 8 0) := by
  unfold advertHeader headerFlags
  cases cfg.managed <;> cases cfg.other <;> rfl

def rawLinkLayer (mac : List UInt8) : RawOption where
  code := 1
  value := field 6 mac

theorem linkLayerOption_eq (mac : List UInt8) :
    linkLayerOption mac = (rawLinkLayer mac).encode := by
  have zeros : setByte 1 1 (setByte 0 1 (List.replicate 8 0)) =
      [1, 1] ++ (List.replicate 6 0 ++ []) := rfl
  have length : (rawLinkLayer mac).value.length = 6 := length_field 6 mac
  unfold linkLayerOption RawOption.encode
  dsimp only
  rw [zeros, copyInto_zeros mac ?_ ?_, length, List.append_nil]
  · rfl
  · rfl
  · rfl

def rawPrefix (info : PrefixInfo) : RawOption where
  code := 3
  value :=
    [UInt8.ofNat info.net.bits, if info.autonomous then 0x80 ||| 0x40 else 0x80] ++
      (bytesOfUint32 info.validLifetime ++
        (bytesOfUint32 info.preferredLifetime ++ ([0, 0, 0, 0] ++ as16Bytes info.net.addr)))

theorem length_rawPrefix (info : PrefixInfo) : (rawPrefix info).value.length = 30 := by
  simp [rawPrefix]

theorem prefixFields_eq (cfg : RAConfig) (entry : Prefix × Bool) :
    prefixFields cfg entry =
      ([3, 4, UInt8.ofNat entry.1.bits, if cfg.autonomous then 0x80 ||| 0x40 else 0x80] ++
        (bytesOfUint32 (prefixInfo cfg entry).validLifetime ++
          (bytesOfUint32 (prefixInfo cfg entry).preferredLifetime ++ [0, 0, 0, 0]))) ++
        (List.replicate 16 0 ++ []) := by
  obtain ⟨net, alive⟩ := entry
  have zero : bytesOfUint32 0 = [0, 0, 0, 0] := by decide
  unfold prefixFields prefixInfo
  cases alive with
  | false =>
      simp only [Bool.false_eq_true, if_false, zero]
      cases cfg.autonomous <;> rfl
  | true => cases cfg.autonomous <;> rfl

theorem prefixOption_eq (cfg : RAConfig) (entry : Prefix × Bool) :
    prefixOption cfg entry = (rawPrefix (prefixInfo cfg entry)).encode := by
  have address : field 16 (as16Bytes entry.1.addr) = as16Bytes entry.1.addr :=
    field_of_length (length_as16Bytes entry.1.addr)
  unfold prefixOption RawOption.encode
  rw [prefixFields_eq, copyInto_zeros (as16Bytes entry.1.addr) ?_ ?_, address, length_rawPrefix,
    List.append_nil]
  · rfl
  · rfl
  · rfl

def rawRdnss (lifetime : UInt32) (dns : List Addr) : RawOption where
  code := 25
  value := [0, 0] ++ (bytesOfUint32 lifetime ++ dns.flatMap as16Bytes)

theorem length_flatMap_as16Bytes (dns : List Addr) :
    (dns.flatMap as16Bytes).length = 16 * dns.length := by
  induction dns with
  | nil => rfl
  | cons server rest ih =>
      rw [List.flatMap_cons, List.length_append, length_as16Bytes, ih, List.length_cons]
      omega

theorem length_rawRdnss (lifetime : UInt32) (dns : List Addr) :
    (rawRdnss lifetime dns).value.length = 6 + 16 * dns.length := by
  simp only [rawRdnss, List.length_append, length_bytesOfUint32, length_flatMap_as16Bytes,
    List.length_cons, List.length_nil]
  omega

theorem copyServers_zeros {left : List UInt8} {index : Nat} (begins : left.length = 8 + 16 * index)
    (dns : List Addr) :
    copyServers index dns (left ++ (List.replicate (16 * dns.length) 0 ++ [])) =
      left ++ dns.flatMap as16Bytes := by
  induction dns generalizing left index with
  | nil => simp [copyServers]
  | cons server rest ih =>
      have first : field (16 * (rest.length + 1)) (as16Bytes server) =
          as16Bytes server ++ List.replicate (16 * rest.length) 0 := by
        rw [field, length_as16Bytes, List.take_of_length_le (by rw [length_as16Bytes]; omega)]
        congr 2
      have longer : (left ++ as16Bytes server).length = 8 + 16 * (index + 1) := by
        rw [List.length_append, begins, length_as16Bytes]
        omega
      have later := ih longer
      rw [List.append_assoc] at later
      rw [copyServers, List.length_cons, copyInto_zeros (as16Bytes server) begins ?_, first,
        List.append_assoc, later, List.flatMap_cons, List.append_assoc]
      simp only [List.length_append, List.length_replicate, List.length_nil, begins]
      rfl

theorem rdnssOption_eq (cfg : RAConfig) (dns : List Addr) :
    rdnssOption cfg dns = (rawRdnss (seconds32 cfg.routerLifetime) dns).encode := by
  have zeros : List.replicate (8 + 16 * dns.length) (0 : UInt8) =
      [0, 0, 0, 0, 0, 0, 0, 0] ++ (List.replicate (16 * dns.length) 0 ++ []) := by
    rw [List.replicate_add, List.append_nil]
    rfl
  have units : (6 + 16 * dns.length + 2) / 8 = 1 + 2 * dns.length := by omega
  unfold rdnssOption RawOption.encode
  dsimp only
  rw [zeros, length_rawRdnss, units]
  exact @copyServers_zeros ([25, UInt8.ofNat (1 + 2 * dns.length), 0, 0] ++
    bytesOfUint32 (seconds32 cfg.routerLifetime)) 0 rfl dns

def rawOptions (mac : List UInt8) (infos : List PrefixInfo) (lifetime : UInt32)
    (dns : List Addr) : List RawOption :=
  [rawLinkLayer mac] ++ infos.map rawPrefix ++ if dns = [] then [] else [rawRdnss lifetime dns]

theorem advertBody_eq (cfg : RAConfig) (mac : List UInt8) (order : RangeOrder (Prefix × Bool))
    (prefixes : Map Prefix Bool) (routerLifetime : UInt16) :
    advertBody cfg mac order prefixes routerLifetime =
      advertHeader cfg routerLifetime ++
        (rawOptions mac ((order.arrange (pairs prefixes)).map (prefixInfo cfg))
          (seconds32 cfg.routerLifetime) cfg.dns).flatMap RawOption.encode := by
  have options : prefixOption cfg = fun entry => (rawPrefix (prefixInfo cfg entry)).encode :=
    funext (prefixOption_eq cfg)
  unfold advertBody rawOptions rdnss
  dsimp only
  rw [List.foldl_append_eq_append, options, linkLayerOption_eq, rdnssOption_eq, List.flatMap_append,
    List.flatMap_append, List.flatMap_singleton, List.map_map, List.flatMap_map, ← List.flatMap_def]
  cases cfg.dns with
  | nil => simp
  | cons server rest => simp

section Options

variable (mac : List UInt8) (infos : List PrefixInfo) (lifetime : UInt32) {dns : List Addr}

theorem rawOptions_fit (few : dns.length ≤ 127) :
    ∀ option ∈ rawOptions mac infos lifetime dns, option.Fits := by
  intro option member
  rcases List.mem_append.mp member with member | isRdnss
  · rcases List.mem_append.mp member with isLinkLayer | isPrefix
    · have length : option.value.length = 6 := by
        rw [List.mem_singleton.mp isLinkLayer]
        exact length_field 6 mac
      exact ⟨by rw [length], by rw [length]; omega⟩
    · obtain ⟨info, _, same⟩ := List.mem_map.mp isPrefix
      have length : option.value.length = 30 := by
        rw [← same]
        exact length_rawPrefix info
      exact ⟨by rw [length], by rw [length]; omega⟩
  · split at isRdnss
    · cases isRdnss
    · have length : option.value.length = 6 + 16 * dns.length := by
        rw [List.mem_singleton.mp isRdnss]
        exact length_rawRdnss lifetime dns
      exact ⟨by rw [length]; omega, by rw [length]; omega⟩

/-! ### What is heard of them -/

theorem readOption_rawLinkLayer :
    readOption (rawLinkLayer mac) = .sourceLinkLayer (field 6 mac) := rfl

theorem toNat_bitsByte (net : Prefix) : (UInt8.ofNat net.bits).toNat = net.bits := by
  have fits := net.bitsFit
  have small : net.addr.bitLen ≤ 128 := by cases net.addr <;> simp [Addr.bitLen]
  rw [UInt8.toNat_ofNat']
  omega

def PrefixInfo.heard (info : PrefixInfo) : NdpOption :=
  .prefixInformation info.net.bits true info.autonomous info.validLifetime info.preferredLifetime
    (as16Bytes info.net.addr)

theorem readOption_rawPrefix (info : PrefixInfo) : readOption (rawPrefix info) = info.heard := by
  have valid : uint32At (rawPrefix info).value 2 = info.validLifetime :=
    uint32At_append info.validLifetime rfl
  have preferred : uint32At (rawPrefix info).value 6 = info.preferredLifetime :=
    @uint32At_append
      ([UInt8.ofNat info.net.bits, if info.autonomous then 0x80 ||| 0x40 else 0x80] ++
        bytesOfUint32 info.validLifetime) ([0, 0, 0, 0] ++ as16Bytes info.net.addr) 6
      info.preferredLifetime rfl
  have address : slice 14 30 (rawPrefix info).value = as16Bytes info.net.addr := by
    have parts : (rawPrefix info).value =
        ([UInt8.ofNat info.net.bits, if info.autonomous then 0x80 ||| 0x40 else 0x80] ++
          (bytesOfUint32 info.validLifetime ++
            (bytesOfUint32 info.preferredLifetime ++ [0, 0, 0, 0]))) ++
          (as16Bytes info.net.addr ++ []) := by
      simp only [rawPrefix, List.append_assoc, List.append_nil]
    rw [parts]
    exact slice_append rfl (by rw [length_as16Bytes]; rfl)
  have kind : readOption (rawPrefix info) =
      .prefixInformation (UInt8.ofNat info.net.bits).toNat
        (decide ((if info.autonomous then 0x80 ||| 0x40 else 0x80 : UInt8) &&& 0x80 ≠ 0))
        (decide ((if info.autonomous then 0x80 ||| 0x40 else 0x80 : UInt8) &&& 0x40 ≠ 0))
        (uint32At (rawPrefix info).value 2) (uint32At (rawPrefix info).value 6)
        (slice 14 30 (rawPrefix info).value) := rfl
  rw [kind, valid, preferred, address, toNat_bitsByte, PrefixInfo.heard]
  cases info.autonomous <;> rfl

theorem readOption_rawRdnss (dns : List Addr) :
    readOption (rawRdnss lifetime dns) = .rdnss lifetime (dns.map as16Bytes) := by
  have given : uint32At (rawRdnss lifetime dns).value 2 = lifetime := uint32At_append lifetime rfl
  have count : ((rawRdnss lifetime dns).value.length - 6) / 16 = dns.length := by
    rw [length_rawRdnss]
    omega
  have kind : readOption (rawRdnss lifetime dns) =
      .rdnss (uint32At (rawRdnss lifetime dns).value 2)
        (blocks 16 (((rawRdnss lifetime dns).value.length - 6) / 16) (dns.flatMap as16Bytes)) := rfl
  rw [kind, given, count, blocks_flatMap as16Bytes length_as16Bytes]

theorem map_readOption_rawOptions :
    (rawOptions mac infos lifetime dns).map readOption =
      [.sourceLinkLayer (field 6 mac)] ++ infos.map PrefixInfo.heard ++
        if dns = [] then [] else [.rdnss lifetime (dns.map as16Bytes)] := by
  unfold rawOptions
  rw [List.map_append, List.map_append, List.map_singleton, List.map_map, readOption_rawLinkLayer]
  congr 2
  · exact List.map_congr_left (fun info _ => readOption_rawPrefix info)
  · split
    · rfl
    · rw [List.map_singleton, readOption_rawRdnss]

end Options

def Advert.heard (advert : Advert) : HeardAdvert where
  managed := advert.managed
  other := advert.other
  routerLifetime := advert.routerLifetime
  options :=
    [.sourceLinkLayer (field 6 advert.srcMAC)] ++ advert.prefixes.map PrefixInfo.heard ++
      if advert.dns = [] then [] else [.rdnss advert.dnsLifetime (advert.dns.map as16Bytes)]

section Heard

variable {cfg : RAConfig} (few : cfg.dns.length ≤ 127) (mac : List UInt8)
  (order : RangeOrder (Prefix × Bool)) (prefixes : Map Prefix Bool) (routerLifetime : UInt16)

include few

theorem readOptions_advertBody :
    readOptions (advertBody cfg mac order prefixes routerLifetime) =
      some
        ([.sourceLinkLayer (field 6 mac)] ++
          ((order.arrange (pairs prefixes)).map (prefixInfo cfg)).map PrefixInfo.heard ++
          if cfg.dns = [] then []
          else [.rdnss (seconds32 cfg.routerLifetime) (cfg.dns.map as16Bytes)]) := by
  have walked := (walk_eq_some_iff _ _).mpr
    ⟨rawOptions_fit mac ((order.arrange (pairs prefixes)).map (prefixInfo cfg))
      (seconds32 cfg.routerLifetime) few, rfl⟩
  have header : (advertHeader cfg routerLifetime).length = 16 := by
    rw [advertHeader_eq]
    rfl
  rw [readOptions, advertBody_eq, List.drop_left' header, walked, Option.map_some,
    map_readOption_rawOptions]

theorem hear_advertBody {linkLocal : Addr} {dst : Destination} {advert : Advert}
    (sent : transmitRA cfg linkLocal mac order dst prefixes routerLifetime = some advert) :
    hear (advertBody cfg mac order prefixes routerLifetime) = some advert.heard := by
  have options := readOptions_advertBody few mac order prefixes routerLifetime
  have body := advertBody_eq cfg mac order prefixes routerLifetime
  rw [advertHeader_eq, List.append_assoc, List.append_assoc] at body
  have kind : byteAt (advertBody cfg mac order prefixes routerLifetime) 0 =
      icmpv6TypeRouterAdvert := by
    rw [body]
    rfl
  have flags : byteAt (advertBody cfg mac order prefixes routerLifetime) 5 = headerFlags cfg := by
    rw [body]
    rfl
  have lifetime : uint16At (advertBody cfg mac order prefixes routerLifetime) 6 =
      routerLifetime := by
    rw [body]
    exact uint16At_append routerLifetime rfl
  have managed : decide (headerFlags cfg &&& 0x80 ≠ 0) = cfg.managed := by
    unfold headerFlags
    cases cfg.managed <;> cases cfg.other <;> rfl
  have other : decide (headerFlags cfg &&& 0x40 ≠ 0) = cfg.other := by
    unfold headerFlags
    cases cfg.managed <;> cases cfg.other <;> rfl
  unfold transmitRA at sent
  split at sent
  · cases sent
    unfold hear
    rw [options, kind, flags, lifetime, managed, other, if_neg (not_not.mpr rfl)]
    rfl
  · cases sent

end Heard

theorem hear_checksummed {body : List UInt8} (long : 4 ≤ body.length) (csum : UInt16) :
    hear (body.take 2 ++ (bytesOfUint16 csum ++ body.drop 4)) = hear body := by
  obtain ⟨kind, code, first, second, rest, rfl⟩ := exists_icmpParts long
  rfl

theorem advertFrame_heard {cfg : RAConfig} (few : cfg.dns.length ≤ 127) {linkLocal : Addr}
    {mac : List UInt8} {order : RangeOrder (Prefix × Bool)} {dst : Destination}
    {prefixes : Map Prefix Bool} {routerLifetime : UInt16} {advert : Advert}
    (sent : transmitRA cfg linkLocal mac order dst prefixes routerLifetime = some advert)
    (srcSix : mac.length = 6) (dstSix : dst.mac.length = 6) (srcIs6 : linkLocal.is6 = true)
    (dstIs6 : dst.ip.length = 16)
    (fits : (advertBody cfg mac order prefixes routerLifetime).length ≤ 65535) :
    ∃ frame pkt, advertFrame cfg mac order prefixes routerLifetime linkLocal dst = some frame ∧
      parse frame = some pkt ∧ pkt.isICMP6 = true ∧ hear pkt.payload = some advert.heard := by
  have heard := hear_advertBody few mac order prefixes routerLifetime sent
  have long : 4 ≤ (advertBody cfg mac order prefixes routerLifetime).length := by
    rw [advertBody_eq, advertHeader_eq, List.length_append, List.length_append]
    exact Nat.le_trans (by decide) (Nat.le_trans (Nat.le_add_right 6 _) (Nat.le_add_right _ _))
  have source : (to16 linkLocal.asSlice).length = 16 := by
    cases linkLocal with
    | invalid => cases srcIs6
    | v4 value => cases srcIs6
    | v6 value => simp [to16, Addr.asSlice]
  have valid : linkLocal.isValid = true := by
    cases linkLocal with
    | invalid => cases srcIs6
    | v4 value => rfl
    | v6 value => rfl
  have destination : (to16 dst.ip).length = 16 := by simp [to16, dstIs6]
  obtain ⟨csum, parsed⟩ :=
    parse_craftICMP6 srcSix dstSix source destination ndpHopLimit long fits []
  rw [List.append_nil] at parsed
  refine ⟨_, _, if_pos valid, parsed, rfl, ?_⟩
  rw [← heard]
  exact hear_checksummed long csum

/-- Walking the options of the message consumes it exactly.  It gives the link-layer address, one
prefix information option for each entry of the map, and the servers if there are any. -/
theorem advertBody_options (cfg : RAConfig) (mac : List UInt8)
    (order : RangeOrder (Prefix × Bool)) (prefixes : Map Prefix Bool) (routerLifetime : UInt16)
    (few : cfg.dns.length ≤ 127) :
    (∃ entries : List (Prefix × Bool),
      (entries.map Prod.fst).Nodup ∧
      (∀ net alive, (net, alive) ∈ entries ↔ prefixes.lookup net = some alive) ∧
      readOptions (advertBody cfg mac order prefixes routerLifetime) =
        some
          ([.sourceLinkLayer (field 6 mac)] ++
            entries.map (fun entry =>
              .prefixInformation entry.1.bits true cfg.autonomous
                (prefixInfo cfg entry).validLifetime (prefixInfo cfg entry).preferredLifetime
                (as16Bytes entry.1.addr)) ++
            if cfg.dns = [] then []
            else [.rdnss (seconds32 cfg.routerLifetime) (cfg.dns.map as16Bytes)])) ∧
    (mac.length = 6 → field 6 mac = mac) ∧
    (second ≤ cfg.validLifetime → cfg.validLifetime ≤ (2 ^ 32 - 1) * second →
      second ≤ cfg.preferredLife → cfg.preferredLife ≤ (2 ^ 32 - 1) * second →
      ∀ entry : Prefix × Bool,
        ((prefixInfo cfg entry).validLifetime = 0 ↔ entry.2 = false) ∧
          ((prefixInfo cfg entry).preferredLifetime = 0 ↔ entry.2 = false)) := by
  refine ⟨⟨order.arrange (pairs prefixes), nodup_arrange_pairs order prefixes, ?_, ?_⟩,
    field_of_length, ?_⟩
  · intro net alive
    rw [order.mem_arrange, mem_pairs_iff]
  · rw [readOptions_advertBody few, List.map_map]
    rfl
  · intro validAbove validBelow preferredAbove preferredBelow entry
    obtain ⟨net, alive⟩ := entry
    cases alive with
    | false => simp [prefixInfo]
    | true =>
        have valid := seconds32_ne_zero validAbove validBelow
        have preferred := seconds32_ne_zero preferredAbove preferredBelow
        simp [prefixInfo, valid, preferred]

def resolverRA : RAConfig :=
  RAConfig.normalize
    { enabled := true
      autonomous := true
      managed := false
      other := false
      interval := 0
      routerLifetime := 0
      validLifetime := 0
      preferredLife := 0
      dns := [.v6 1] }

theorem resolverNet_addrValid : (Addr.v6 0x20010db8000000000000000000000000#128).isValid = true := rfl

theorem resolverNet_bitsFit : 64 ≤ (Addr.v6 0x20010db8000000000000000000000000#128).bitLen := by
  decide

def resolverNet : Prefix where
  addr := .v6 0x20010db8000000000000000000000000#128
  bits := 64
  addrValid := resolverNet_addrValid
  bitsFit := resolverNet_bitsFit

/-- A message with a live prefix and a resolver. -/
theorem advertBody_options_resolver :
    resolverRA.dns.length ≤ 127 ∧
      (prefixInfo resolverRA (resolverNet, true)).validLifetime ≠ 0 ∧
      ∃ options,
        readOptions (advertBody resolverRA [2, 0, 0, 0, 0, 1] .stored
          ((∅ : Map Prefix Bool).insert resolverNet true) 1800) = some options ∧
        NdpOption.sourceLinkLayer [2, 0, 0, 0, 0, 1] ∈ options ∧
        NdpOption.prefixInformation 64 true true 2592000 604800 (as16Bytes resolverNet.addr) ∈
          options ∧
        NdpOption.rdnss 1800 [as16Bytes (.v6 1)] ∈ options := by
  obtain ⟨⟨entries, _, listed, read⟩, whole, lifetimes⟩ :=
    advertBody_options resolverRA [2, 0, 0, 0, 0, 1] .stored
      ((∅ : Map Prefix Bool).insert resolverNet true) 1800 (by decide)
  have entry : (resolverNet, true) ∈ entries :=
    (listed resolverNet true).mpr (AList.lookup_insert ∅)
  have alive := (lifetimes (by decide) (by decide) (by decide) (by decide) (resolverNet, true)).1
  rw [whole rfl] at read
  refine ⟨by decide, fun zero => Bool.noConfusion (alive.mp zero), _, read, ?_, ?_, ?_⟩
  · simp
  · exact List.mem_append_left _ (List.mem_append_right _
      (List.mem_map.mpr ⟨(resolverNet, true), entry, rfl⟩))
  · refine List.mem_append_right _ ?_
    decide

end BridgeDhcp.Server
