/-
The socket filter of a served interface, and its agreement with the parser.

The filter is the source's instruction list with its relative jumps.
-/

import BridgeDhcp.ClassicBpf
import BridgeDhcp.Packet.Parse
import BridgeDhcp.Server.Dhcp4Server
import BridgeDhcp.Server.Dhcp6Server
import BridgeDhcp.Server.RouterAdvert
import Mathlib.Tactic.Common

set_option autoImplicit false

namespace BridgeDhcp.Transport

open GoBytes ClassicBpf Packet

def acceptLen : UInt32 := 0x40000

def filterProgram : List Instruction :=
  [ .loadVLANTagPresent,                      -- -2
    .jumpIf .notEqual 0 18 0,                 -- -1: tagged -> drop
    .loadAbsolute 12 .half,                   -- 0: ethertype
    .jumpIf .equal 0x86DD 0 7,                -- 1
    .loadAbsolute 20 .byte,                   -- 2: next header
    .jumpIf .equal 17 0 2,                    -- 3
    .loadAbsolute 56 .half,                   -- 4: UDP dst port
    .jumpIf .equal 547 11 12,                 -- 5
    .jumpIf .equal 58 0 11,                   -- 6
    .loadAbsolute 54 .byte,                   -- 7: ICMPv6 type
    .jumpIf .equal 133 8 9,                   -- 8
    .jumpIf .equal 0x0800 0 8,                -- 9
    .loadAbsolute 23 .byte,                   -- 10: protocol
    .jumpIf .equal 17 0 6,                    -- 11
    .loadAbsolute 20 .half,                   -- 12: flags and fragment offset
    .jumpIf .bitsSet 0x1FFF 4 0,              -- 13
    .loadMemShift 14,                         -- 14: IPv4 header length
    .loadIndirect 16 .half,                   -- 15: UDP dst port
    .jumpIf .equal 67 0 1,                    -- 16
    .retConstant acceptLen,                   -- 17
    .retConstant 0 ]                          -- 18

/-! ### Which frames are admitted -/

def Admitted6 (frame : List UInt8) : Prop :=
  21 ≤ frame.length ∧
    (byteAt frame 20 = 17 ∧ 58 ≤ frame.length ∧ uint16At frame 56 = 547 ∨
      byteAt frame 20 = 58 ∧ 55 ≤ frame.length ∧ byteAt frame 54 = 133)

def headerIndex (frame : List UInt8) : Nat := 4 * ((byteAt frame 14).toNat % 16)

def Admitted4 (frame : List UInt8) : Prop :=
  24 ≤ frame.length ∧ byteAt frame 23 = 17 ∧ uint16At frame 20 &&& (0x1FFF : UInt16) = 0 ∧
    headerIndex frame + 18 ≤ frame.length ∧ uint16At frame (headerIndex frame + 16) = 67

theorem filter_iff (skb : Skb) :
    admits filterProgram skb = true ↔
      skb.vlanTagPresent = false ∧ 14 ≤ skb.frame.length ∧
        (uint16At skb.frame 12 = etherTypeIPv6 ∧ Admitted6 skb.frame ∨
          uint16At skb.frame 12 = etherTypeIPv4 ∧ Admitted4 skb.frame) := by
  unfold admits filterProgram
  rw [bne_iff_ne]
  simp only [exec_loadVLANTagPresent, exec_jumpIf, exec_skip, exec_loadAbsolute_half,
    exec_loadAbsolute_byte, exec_loadIndirect_half, exec_loadMemShift, exec_retConstant, Cond.test]
  have tag : ((if skb.vlanTagPresent = true then 1 else 0 : UInt32) != 0) = skb.vlanTagPresent := by
    cases skb.vlanTagPresent <;> rfl
  have accepted : acceptLen ≠ 0 := by decide
  have ipv6 (half : UInt16) : half.toUInt32 = 0x86DD ↔ half = etherTypeIPv6 :=
    half_toUInt32_eq_iff half 0x86DD
  have ipv4 (half : UInt16) : half.toUInt32 = 0x0800 ↔ half = etherTypeIPv4 :=
    half_toUInt32_eq_iff half 0x0800
  have port6 (half : UInt16) : half.toUInt32 = 547 ↔ half = 547 := half_toUInt32_eq_iff half 547
  have port4 (half : UInt16) : half.toUInt32 = 67 ↔ half = 67 := half_toUInt32_eq_iff half 67
  have udp (byte : UInt8) : byte.toUInt32 = 17 ↔ byte = 17 := byte_toUInt32_eq_iff byte 17
  have icmp (byte : UInt8) : byte.toUInt32 = 58 ↔ byte = 58 := byte_toUInt32_eq_iff byte 58
  have solicit (byte : UInt8) : byte.toUInt32 = 133 ↔ byte = 133 := byte_toUInt32_eq_iff byte 133
  have fragment (half : UInt16) : half.toUInt32 &&& (0x1FFF : UInt32) = 0 ↔
      half &&& (0x1FFF : UInt16) = 0 := half_and_eq_zero_iff half 0x1FFF
  simp only [tag, toNat_memShift, ne_eq, not_true_eq_false, and_false, or_false, false_or,
    accepted, not_false_eq_true, and_true, beq_iff_eq, beq_eq_false_iff_ne, bne_eq_false_iff_eq,
    ipv6, ipv4, port6, port4, udp, icmp, solicit, fragment]
  unfold Admitted6 Admitted4 headerIndex
  have distinct : etherTypeIPv4 ≠ etherTypeIPv6 := by decide
  have protos : (58 : UInt8) ≠ 17 := by decide
  constructor
  · rintro ⟨untagged, long, ⟨ether, next, admitted⟩ | ⟨_, ether, admitted⟩⟩
    · rcases admitted with ⟨proto, port⟩ | ⟨_, proto, kind⟩
      · exact ⟨untagged, long, .inl ⟨ether, next, .inl ⟨proto, port⟩⟩⟩
      · exact ⟨untagged, long, .inl ⟨ether, next, .inr ⟨proto, kind⟩⟩⟩
    · rcases admitted with ⟨header, proto, _, whole, _, within, port⟩
      exact ⟨untagged, long, .inr ⟨ether, header, proto, whole, within, port⟩⟩
  · rintro ⟨untagged, long, ⟨ether, next, admitted⟩ | ⟨ether, header, proto, whole, within, port⟩⟩
    · refine ⟨untagged, long, .inl ⟨ether, next, ?_⟩⟩
      rcases admitted with ⟨proto, port⟩ | ⟨proto, kind⟩
      · exact .inl ⟨proto, port⟩
      · exact .inr ⟨by rw [proto]; exact protos, proto, kind⟩
    · refine ⟨untagged, long, .inr ⟨by rw [ether]; exact distinct, ether, header, proto, ?_, whole,
        ?_, within, port⟩⟩ <;> omega

/-! ### The parser reads the same bytes -/

theorem headerLength4_eq (frame : List UInt8) :
    headerLength4 (frame.drop ethHeaderSize) = headerIndex frame := by
  have low : ((byteAt frame 14) &&& (0x0F : UInt8)).toNat = (byteAt frame 14).toNat % 16 := by
    rw [UInt8.toNat_and]
    exact Nat.and_two_pow_sub_one_eq_mod (byteAt frame 14).toNat 4
  rw [headerLength4, byteAt_drop]
  change (byteAt frame 14 &&& (0x0F : UInt8)).toNat * 4 = _
  rw [low, headerIndex, Nat.mul_comm]

theorem offset_of_unfragmented {flags : UInt16} (unfragmented : flags &&& (0x3FFF : UInt16) = 0) :
    flags &&& (0x1FFF : UInt16) = 0 := by
  have narrower : (0x1FFF : UInt16) = 0x3FFF &&& 0x1FFF := by decide
  rw [narrower, ← UInt16.and_assoc, unfragmented]
  exact UInt16.zero_and

theorem parsed_ipv4 {frame srcMAC : List UInt8} {pkt : Ingress}
    (parsed : parseIPv4 srcMAC (frame.drop ethHeaderSize) = some pkt) :
    pkt.isUDP4 = true ∧ pkt.isUDP6 = false ∧ pkt.isICMP6 = false ∧
      pkt.dstPort = uint16At frame (headerIndex frame + 16) ∧ byteAt frame 23 = 17 ∧
      uint16At frame 20 &&& (0x1FFF : UInt16) = 0 ∧ 34 ≤ frame.length ∧
      headerIndex frame + 22 ≤ frame.length := by
  rcases (parseIPv4_eq_some_iff _ _ _).mp parsed with ⟨checks, rfl⟩
  have udpSize : udpHeaderSize = 8 := rfl
  have ethSize : ethHeaderSize = 14 := rfl
  have minSize : ipv4MinSize = 20 := rfl
  have header := checks.header
  have segment := checks.segment
  have total := checks.total
  have proto := checks.proto
  have flags := offset_of_unfragmented checks.unfragmented
  rw [List.length_drop] at total
  rw [headerLength4_eq] at header segment
  rw [byteAt_drop] at proto
  rw [uint16At_drop] at flags
  refine ⟨rfl, rfl, rfl, ?_, proto, flags, by omega, by omega⟩
  dsimp only
  rw [headerLength4_eq, uint16At_slice _ (by omega), uint16At_drop]
  congr 1
  omega

theorem parsed_ipv6 {frame srcMAC : List UInt8} {pkt : Ingress}
    (parsed : parseIPv6 srcMAC (frame.drop ethHeaderSize) = some pkt) :
    pkt.isUDP4 = false ∧ 54 ≤ frame.length ∧
      (pkt.isUDP6 = true ∧ pkt.isICMP6 = false ∧ pkt.dstPort = uint16At frame 56 ∧
          byteAt frame 20 = 17 ∧ 62 ≤ frame.length ∨
        pkt.isUDP6 = false ∧ pkt.isICMP6 = true ∧ pkt.icmpTyp = byteAt frame 54 ∧
          byteAt frame 20 = 58 ∧ 58 ≤ frame.length) := by
  have udpSize : udpHeaderSize = 8 := rfl
  have ethSize : ethHeaderSize = 14 := rfl
  have headerSize : ipv6HeaderSize = 40 := rfl
  rcases (parseIPv6_eq_some_iff _ _ _).mp parsed with ⟨checks, kinds⟩
  have total := checks.total
  rw [List.length_drop] at total
  rcases kinds with ⟨next, segment, rfl⟩ | ⟨next, segment, rfl⟩
  · rw [byteAt_drop] at next
    refine ⟨rfl, by omega, .inl ⟨rfl, rfl, ?_, next, by omega⟩⟩
    dsimp only
    rw [rest6, uint16At_slice _ (by omega), uint16At_drop]
    rfl
  · rw [byteAt_drop] at next
    refine ⟨rfl, by omega, .inr ⟨rfl, rfl, ?_, next, by omega⟩⟩
    dsimp only
    rw [rest6, byteAt_slice _ (by omega), byteAt_drop]
    rfl

/-! ### Which server claims a frame -/

section Claims

open Server

variable (env : Env) (orders : RangeOrders) (now : Int) (server : AddressServer) (pkt : Ingress)

theorem handleFrame4_consumed (lib : Library4) :
    (handleFrame4 lib env orders now server pkt).consumed =
      (pkt.isUDP4 && pkt.dstPort == dhcp4ServerPort) := by
  unfold handleFrame4
  dsimp only
  split
  · next other =>
    symm
    rw [← Bool.not_eq_true', Bool.not_and]
    exact other
  · next ours =>
    have mine : (pkt.isUDP4 && pkt.dstPort == dhcp4ServerPort) = true := by simpa using ours
    rw [mine]
    split
    · rfl
    · split
      · rfl
      · unfold replyToRequest
        split <;> rfl
      · rfl
      · rfl
      · rfl

theorem handleFrame6_consumed (lib : Library6) :
    (handleFrame6 lib env orders now server pkt).consumed =
      (pkt.isUDP6 && pkt.dstPort == dhcp6ServerPort) := by
  unfold handleFrame6
  dsimp only
  split
  · next other =>
    symm
    rw [← Bool.not_eq_true', Bool.not_and]
    exact other
  · next ours =>
    have mine : (pkt.isUDP6 && pkt.dstPort == dhcp6ServerPort) = true := by simpa using ours
    rw [mine]
    split
    · rfl
    · split <;> rfl

theorem handleSolicit_consumed (cfg : RAConfig) :
    (handleSolicit cfg pkt).1 = (pkt.isICMP6 && pkt.icmpTyp == icmpv6TypeRouterSolicit) := by
  unfold handleSolicit
  by_cases icmp : pkt.isICMP6 = true
  · by_cases solicit : pkt.icmpTyp = icmpv6TypeRouterSolicit
    · simp only [icmp, solicit, Bool.true_eq_false, ne_eq, not_true_eq_false, or_self, if_false]
      split
      · rfl
      · split <;> rfl
    · simp [icmp, solicit]
  · simp [icmp]

end Claims

def Wanted (pkt : Ingress) : Prop :=
  pkt.isUDP4 = true ∧ pkt.dstPort = 67 ∨ pkt.isUDP6 = true ∧ pkt.dstPort = 547 ∨
    pkt.isICMP6 = true ∧ pkt.icmpTyp = 133

theorem admits_of_wanted {frame : List UInt8} {pkt : Ingress} (parsed : parse frame = some pkt)
    (wanted : Wanted pkt) :
    admits filterProgram { frame, vlanTagPresent := false } = true := by
  rcases (parse_eq_some_iff frame pkt).mp parsed with ⟨long, ⟨ether, parsed4⟩ | ⟨ether, parsed6⟩⟩
  · rcases parsed_ipv4 parsed4 with ⟨_, not6, notICMP, port, proto, whole, header, within⟩
    have dhcp4 : pkt.dstPort = 67 := by
      rcases wanted with ⟨_, dhcp4⟩ | ⟨is6, _⟩ | ⟨isICMP, _⟩
      · exact dhcp4
      · rw [not6] at is6
        cases is6
      · rw [notICMP] at isICMP
        cases isICMP
    exact (filter_iff _).mpr ⟨rfl, long, .inr ⟨ether, show 24 ≤ frame.length by omega, proto, whole,
      show headerIndex frame + 18 ≤ frame.length by omega, port ▸ dhcp4⟩⟩
  · rcases parsed_ipv6 parsed6 with ⟨not4, header, kind⟩
    refine (filter_iff _).mpr ⟨rfl, long, .inl ⟨ether, show 21 ≤ frame.length by omega, ?_⟩⟩
    rcases kind with ⟨_, notICMP, port, next, within⟩ | ⟨not6, _, typ, next, within⟩
    · have dhcp6 : pkt.dstPort = 547 := by
        rcases wanted with ⟨is4, _⟩ | ⟨_, dhcp6⟩ | ⟨isICMP, _⟩
        · rw [not4] at is4
          cases is4
        · exact dhcp6
        · rw [notICMP] at isICMP
          cases isICMP
      exact .inl ⟨next, show 58 ≤ frame.length by omega, port ▸ dhcp6⟩
    · have solicit : pkt.icmpTyp = 133 := by
        rcases wanted with ⟨is4, _⟩ | ⟨is6, _⟩ | ⟨_, solicit⟩
        · rw [not4] at is4
          cases is4
        · rw [not6] at is6
          cases is6
        · exact solicit
      exact .inr ⟨next, show 55 ≤ frame.length by omega, typ ▸ solicit⟩

theorem claimed_once {frame : List UInt8} {pkt : Ingress}
    (admitted : admits filterProgram { frame, vlanTagPresent := false } = true)
    (parsed : parse frame = some pkt) :
    [pkt.isUDP4 && pkt.dstPort == 67, pkt.isUDP6 && pkt.dstPort == 547,
      pkt.isICMP6 && pkt.icmpTyp == 133].count true = 1 := by
  have distinct : etherTypeIPv4 ≠ etherTypeIPv6 := by decide
  have protos : (58 : UInt8) ≠ 17 := by decide
  rcases (filter_iff _).mp admitted with ⟨_, _, ⟨ether, _, admitted6⟩ | ⟨ether, admitted4⟩⟩
  · rcases (parse_eq_some_iff frame pkt).mp parsed with ⟨_, ⟨other, _⟩ | ⟨_, parsed6⟩⟩
    · exact absurd (other.symm.trans ether) distinct
    · rcases parsed_ipv6 parsed6 with ⟨not4, _, ⟨is6, notICMP, port, next, _⟩ |
        ⟨not6, isICMP, typ, next, _⟩⟩
      · rcases admitted6 with ⟨_, _, dhcp6⟩ | ⟨icmp, _, _⟩
        · simp [not4, is6, notICMP, port, dhcp6]
        · exact absurd (icmp.symm.trans next) protos
      · rcases admitted6 with ⟨udp, _, _⟩ | ⟨_, _, solicit⟩
        · exact absurd (next.symm.trans udp) protos
        · simp [not4, not6, isICMP, typ, solicit]
  · rcases (parse_eq_some_iff frame pkt).mp parsed with ⟨_, ⟨_, parsed4⟩ | ⟨other, _⟩⟩
    · rcases parsed_ipv4 parsed4 with ⟨is4, not6, notICMP, port, _⟩
      rcases admitted4 with ⟨_, _, _, _, dhcp4⟩
      simp [is4, not6, notICMP, port, dhcp4]
    · exact absurd (ether.symm.trans other) distinct

/-- The filter admits every untagged frame some server answers, every admitted frame that parses
is claimed by exactly one server, and no tagged frame is admitted. -/
theorem filter_agrees_with_parse (frame : List UInt8) :
    (∀ pkt, parse frame = some pkt → Wanted pkt →
      admits filterProgram { frame, vlanTagPresent := false } = true) ∧
    (∀ pkt, admits filterProgram { frame, vlanTagPresent := false } = true →
      parse frame = some pkt →
      ∀ (lib4 : Server.Library4) (lib6 : Server.Library6) (env : Server.Env)
        (orders4 orders6 : Server.RangeOrders) (now : Int) (d4 d6 : Server.AddressServer)
        (ra : Server.RAConfig),
      [(Server.handleFrame4 lib4 env orders4 now d4 pkt).consumed,
        (Server.handleFrame6 lib6 env orders6 now d6 pkt).consumed,
        (Server.handleSolicit ra pkt).1].count true = 1) ∧
    admits filterProgram { frame, vlanTagPresent := true } = false := by
  refine ⟨?_, ?_, ?_⟩
  · intro pkt parsed wanted
    exact admits_of_wanted parsed wanted
  · intro pkt admitted parsed lib4 lib6 env orders4 orders6 now d4 d6 ra
    rw [handleFrame4_consumed, handleFrame6_consumed, handleSolicit_consumed]
    exact claimed_once admitted parsed
  · apply Bool.eq_false_iff.mpr
    intro admitted
    exact Bool.noConfusion ((filter_iff _).mp admitted).1

/-- The smallest frame for the DHCPv4 server: a UDP segment without payload, sent to port 67. -/
def discoverFrame : List UInt8 :=
  craftUDP4 [2, 0, 0, 0, 0, 1] [255, 255, 255, 255, 255, 255] [0, 0, 0, 0] [255, 255, 255, 255]
    68 67 []

def discoverPacket : Ingress :=
  { srcMAC := [2, 0, 0, 0, 0, 1], isUDP4 := true, isUDP6 := false, isICMP6 := false
    srcIP := [0, 0, 0, 0], dstIP := [255, 255, 255, 255]
    srcPort := 68, dstPort := 67, icmpTyp := 0, payload := [] }

theorem parse_discoverFrame : parse discoverFrame = some discoverPacket := by
  have short : ([] : List UInt8).length ≤ 65507 := Nat.zero_le _
  rw [← List.append_nil discoverFrame]
  exact parse_craftUDP4 rfl rfl rfl rfl 68 67 short []

theorem filter_agrees_on_discover :
    admits filterProgram { frame := discoverFrame, vlanTagPresent := false } = true ∧
    (∀ (lib4 : Server.Library4) (lib6 : Server.Library6) (env : Server.Env)
        (orders4 orders6 : Server.RangeOrders) (now : Int) (d4 d6 : Server.AddressServer)
        (ra : Server.RAConfig),
      [(Server.handleFrame4 lib4 env orders4 now d4 discoverPacket).consumed,
        (Server.handleFrame6 lib6 env orders6 now d6 discoverPacket).consumed,
        (Server.handleSolicit ra discoverPacket).1].count true = 1) ∧
    admits filterProgram { frame := discoverFrame, vlanTagPresent := true } = false := by
  have agrees := filter_agrees_with_parse discoverFrame
  have admitted := agrees.1 discoverPacket parse_discoverFrame (.inl ⟨rfl, rfl⟩)
  exact ⟨admitted, agrees.2.1 discoverPacket admitted parse_discoverFrame, agrees.2.2⟩

end BridgeDhcp.Transport
