/-
The user-space parser, and that it undoes the three crafting functions.

`parse` is cut into the ethernet part and one part for each IP version.  For each
part one lemma says exactly when it succeeds and with what, so that the callers
never unfold the chain of checks again.
-/

import BridgeDhcp.Packet.Craft
import BridgeDhcp.Packet.Ingress
import Mathlib.Tactic.Common

set_option autoImplicit false

namespace BridgeDhcp.Packet

open GoBytes

/-! ### The parser -/

def headerLength4 (body : List UInt8) : Nat := (byteAt body 0 &&& (0x0F : UInt8)).toNat * 4

def parseIPv4 (srcMAC body : List UInt8) : Option Ingress :=
  if body.length < ipv4MinSize then none
  else if byteAt body 0 >>> 4 ≠ 4 then none
  else
    let ihl := headerLength4 body
    let totalLen := (uint16At body 2).toNat
    if ihl < ipv4MinSize ∨ totalLen < ihl ∨ totalLen > body.length then none
    -- MF flag or fragment offset: DHCP fits in one frame
    else if uint16At body 6 &&& (0x3FFF : UInt16) ≠ 0 then none
    else if byteAt body 9 ≠ protoUDP then none
    else
      let udp := slice ihl totalLen body
      if udp.length < udpHeaderSize then none
      else some
        { srcMAC, isUDP4 := true, isUDP6 := false, isICMP6 := false
          srcIP := slice 12 16 body
          dstIP := slice 16 20 body
          srcPort := uint16At udp 0
          dstPort := uint16At udp 2
          icmpTyp := 0
          payload := udp.drop udpHeaderSize }

def parseIPv6 (srcMAC body : List UInt8) : Option Ingress :=
  if body.length < ipv6HeaderSize then none
  else if byteAt body 0 >>> 4 ≠ 6 then none
  else
    let payloadLen := (uint16At body 4).toNat
    if ipv6HeaderSize + payloadLen > body.length then none
    else
      let rest := slice ipv6HeaderSize (ipv6HeaderSize + payloadLen) body
      -- next-header chains are not walked
      if byteAt body 6 = protoUDP then
        if rest.length < udpHeaderSize then none
        else some
          { srcMAC, isUDP4 := false, isUDP6 := true, isICMP6 := false
            srcIP := slice 8 24 body
            dstIP := slice 24 40 body
            srcPort := uint16At rest 0
            dstPort := uint16At rest 2
            icmpTyp := 0
            payload := rest.drop udpHeaderSize }
      else if byteAt body 6 = protoICMPv6 then
        if rest.length < 4 then none
        else some
          { srcMAC, isUDP4 := false, isUDP6 := false, isICMP6 := true
            srcIP := slice 8 24 body
            dstIP := slice 24 40 body
            srcPort := 0
            dstPort := 0
            icmpTyp := byteAt rest 0
            payload := rest }
      else none

/-- Dissects an untagged ethernet frame.  The second result of the source is whether the
packet is present. -/
def parse (frame : List UInt8) : Option Ingress :=
  if frame.length < ethHeaderSize then none
  else
    let srcMAC := slice 6 12 frame
    let etherType := uint16At frame 12
    let body := frame.drop ethHeaderSize
    if etherType = etherTypeIPv4 then parseIPv4 srcMAC body
    else if etherType = etherTypeIPv6 then parseIPv6 srcMAC body
    else none

/-! ### When the parts succeed -/

structure Wellformed4 (body : List UInt8) : Prop where
  long : ipv4MinSize ≤ body.length
  version : byteAt body 0 >>> 4 = 4
  header : ipv4MinSize ≤ headerLength4 body
  segment : headerLength4 body + udpHeaderSize ≤ (uint16At body 2).toNat
  total : (uint16At body 2).toNat ≤ body.length
  unfragmented : uint16At body 6 &&& (0x3FFF : UInt16) = 0
  proto : byteAt body 9 = protoUDP

theorem parseIPv4_eq_some_iff (srcMAC body : List UInt8) (pkt : Ingress) :
    parseIPv4 srcMAC body = some pkt ↔
      Wellformed4 body ∧ pkt =
        { srcMAC, isUDP4 := true, isUDP6 := false, isICMP6 := false
          srcIP := slice 12 16 body
          dstIP := slice 16 20 body
          srcPort := uint16At (slice (headerLength4 body) (uint16At body 2).toNat body) 0
          dstPort := uint16At (slice (headerLength4 body) (uint16At body 2).toNat body) 2
          icmpTyp := 0
          payload := (slice (headerLength4 body) (uint16At body 2).toNat body).drop udpHeaderSize } := by
  have size : udpHeaderSize = 8 := rfl
  unfold parseIPv4
  dsimp only
  constructor
  · intro parsed
    split at parsed
    · cases parsed
    · next long =>
      split at parsed
      · cases parsed
      · next version =>
        split at parsed
        · cases parsed
        · next lengths =>
          split at parsed
          · cases parsed
          · next unfragmented =>
            split at parsed
            · cases parsed
            · next proto =>
              split at parsed
              · cases parsed
              · next segment =>
                have total : (uint16At body 2).toNat ≤ body.length := by omega
                rw [length_slice _ _ _ total] at segment
                exact ⟨⟨by omega, not_not.mp version, by omega, by omega, total,
                  not_not.mp unfragmented, not_not.mp proto⟩, (Option.some.inj parsed).symm⟩
  · rintro ⟨checks, rfl⟩
    have segment := checks.segment
    have lengths : ¬ (headerLength4 body < ipv4MinSize ∨
        (uint16At body 2).toNat < headerLength4 body ∨
        (uint16At body 2).toNat > body.length) := by
      have header := checks.header
      have total := checks.total
      omega
    rw [if_neg (Nat.not_lt.mpr checks.long), if_neg (not_not.mpr checks.version), if_neg lengths,
      if_neg (not_not.mpr checks.unfragmented), if_neg (not_not.mpr checks.proto),
      length_slice _ _ _ checks.total, if_neg (by omega)]

/-- The checks an IPv6 packet passes before its next header is looked at. -/
structure Wellformed6 (body : List UInt8) : Prop where
  long : ipv6HeaderSize ≤ body.length
  version : byteAt body 0 >>> 4 = 6
  total : ipv6HeaderSize + (uint16At body 4).toNat ≤ body.length

def rest6 (body : List UInt8) : List UInt8 :=
  slice ipv6HeaderSize (ipv6HeaderSize + (uint16At body 4).toNat) body

theorem length_rest6 {body : List UInt8}
    (total : ipv6HeaderSize + (uint16At body 4).toNat ≤ body.length) :
    (rest6 body).length = (uint16At body 4).toNat := by
  rw [rest6, length_slice _ _ _ total, Nat.add_sub_cancel_left]

theorem parseIPv6_eq_some_iff (srcMAC body : List UInt8) (pkt : Ingress) :
    parseIPv6 srcMAC body = some pkt ↔
      Wellformed6 body ∧
        (byteAt body 6 = protoUDP ∧ udpHeaderSize ≤ (uint16At body 4).toNat ∧ pkt =
          { srcMAC, isUDP4 := false, isUDP6 := true, isICMP6 := false
            srcIP := slice 8 24 body
            dstIP := slice 24 40 body
            srcPort := uint16At (rest6 body) 0
            dstPort := uint16At (rest6 body) 2
            icmpTyp := 0
            payload := (rest6 body).drop udpHeaderSize } ∨
        byteAt body 6 = protoICMPv6 ∧ 4 ≤ (uint16At body 4).toNat ∧ pkt =
          { srcMAC, isUDP4 := false, isUDP6 := false, isICMP6 := true
            srcIP := slice 8 24 body
            dstIP := slice 24 40 body
            srcPort := 0
            dstPort := 0
            icmpTyp := byteAt (rest6 body) 0
            payload := rest6 body }) := by
  unfold parseIPv6
  dsimp only
  constructor
  · intro parsed
    split at parsed
    · cases parsed
    · next long =>
      split at parsed
      · cases parsed
      · next version =>
        split at parsed
        · cases parsed
        · next lengths =>
          have total := Nat.not_lt.mp lengths
          have restLength := length_rest6 total
          refine ⟨⟨Nat.not_lt.mp long, not_not.mp version, total⟩, ?_⟩
          split at parsed
          · next udp =>
            split at parsed
            · cases parsed
            · next segment =>
              exact .inl ⟨udp, restLength ▸ Nat.not_lt.mp segment, (Option.some.inj parsed).symm⟩
          · split at parsed
            · next icmp =>
              split at parsed
              · cases parsed
              · next segment =>
                exact .inr ⟨icmp, restLength ▸ Nat.not_lt.mp segment,
                  (Option.some.inj parsed).symm⟩
            · cases parsed
  · rintro ⟨checks, kinds⟩
    have restLength := length_rest6 checks.total
    unfold rest6 at restLength
    rw [if_neg (Nat.not_lt.mpr checks.long), if_neg (not_not.mpr checks.version),
      if_neg (Nat.not_lt.mpr checks.total), restLength]
    rcases kinds with ⟨udp, segment, rfl⟩ | ⟨icmp, segment, rfl⟩
    · rw [if_pos udp, if_neg (Nat.not_lt.mpr segment)]
      rfl
    · have notUDP : byteAt body 6 ≠ protoUDP := by
        rw [icmp]
        decide
      rw [if_neg notUDP, if_pos icmp, if_neg (Nat.not_lt.mpr segment)]
      rfl

theorem parse_eq_some_iff (frame : List UInt8) (pkt : Ingress) :
    parse frame = some pkt ↔
      ethHeaderSize ≤ frame.length ∧
        (uint16At frame 12 = etherTypeIPv4 ∧
          parseIPv4 (slice 6 12 frame) (frame.drop ethHeaderSize) = some pkt ∨
        uint16At frame 12 = etherTypeIPv6 ∧
          parseIPv6 (slice 6 12 frame) (frame.drop ethHeaderSize) = some pkt) := by
  unfold parse
  dsimp only
  by_cases short : frame.length < ethHeaderSize
  · simp only [if_pos short, reduceCtorEq, false_iff, not_and]
    intro long
    exact absurd long (Nat.not_le.mpr short)
  · rw [if_neg short]
    by_cases ipv4 : uint16At frame 12 = etherTypeIPv4
    · have notIPv6 : etherTypeIPv4 ≠ etherTypeIPv6 := by decide
      simp [ipv4, notIPv6, Nat.not_lt.mp short]
    · simp [ipv4, Nat.not_lt.mp short]

/-! ### Parsing what was crafted -/

theorem parse_ethernetHeader {srcMAC dstMAC : List UInt8} (srcSix : srcMAC.length = 6)
    (dstSix : dstMAC.length = 6) (etherType : UInt16) (body : List UInt8) (pkt : Ingress) :
    parse (ethernetHeader srcMAC dstMAC etherType ++ body) = some pkt ↔
      etherType = etherTypeIPv4 ∧ parseIPv4 srcMAC body = some pkt ∨
        etherType = etherTypeIPv6 ∧ parseIPv6 srcMAC body = some pkt := by
  have layout : ethernetHeader srcMAC dstMAC etherType ++ body =
      dstMAC ++ (srcMAC ++ (bytesOfUint16 etherType ++ body)) := by
    rw [ethernetHeader_eq, field_of_length dstSix, field_of_length srcSix]
    simp only [List.append_assoc, List.append_nil]
  have source : slice 6 12 (ethernetHeader srcMAC dstMAC etherType ++ body) = srcMAC := by
    rw [layout]
    exact slice_append dstSix (by rw [dstSix, srcSix])
  have kind : uint16At (ethernetHeader srcMAC dstMAC etherType ++ body) 12 = etherType := by
    rw [layout, ← List.append_assoc]
    exact uint16At_append etherType (by rw [List.length_append, dstSix, srcSix])
  have rest : (ethernetHeader srcMAC dstMAC etherType ++ body).drop ethHeaderSize = body :=
    List.drop_left' (length_ethernetHeader srcMAC dstMAC etherType)
  have long : ethHeaderSize ≤ (ethernetHeader srcMAC dstMAC etherType ++ body).length := by
    rw [List.length_append, length_ethernetHeader]
    exact Nat.le_add_right _ _
  rw [parse_eq_some_iff, source, kind, rest]
  exact and_iff_right long

section RoundTrip

variable {srcMAC dstMAC srcIP dstIP : List UInt8}

theorem udpSegment_read (src dst : List UInt8) (srcPort dstPort : UInt16) (payload : List UInt8) :
    uint16At (udpSegment src dst srcPort dstPort payload) 0 = srcPort ∧
      uint16At (udpSegment src dst srcPort dstPort payload) 2 = dstPort ∧
      (udpSegment src dst srcPort dstPort payload).drop udpHeaderSize = payload := by
  rw [udpSegment_eq]
  exact ⟨uint16_bytesOfUint16 srcPort, uint16_bytesOfUint16 dstPort, rfl⟩

theorem ipv4Header_read (udpLen : Nat) (src4 dst4 rest : List UInt8) :
    byteAt (ipv4Header udpLen src4 dst4 ++ rest) 0 = 0x45 ∧
      uint16At (ipv4Header udpLen src4 dst4 ++ rest) 2 = UInt16.ofNat (20 + udpLen) ∧
      uint16At (ipv4Header udpLen src4 dst4 ++ rest) 6 = 0 ∧
      byteAt (ipv4Header udpLen src4 dst4 ++ rest) 9 = protoUDP := by
  rw [ipv4Header_eq]
  have zero : uint16 0 0 = 0 := by decide
  exact ⟨rfl, uint16_bytesOfUint16 _, zero, rfl⟩

theorem ipv6Header_read (payloadLen : Nat) (nextHeader hopLimit : UInt8)
    (src6 dst6 rest : List UInt8) :
    byteAt (ipv6Header payloadLen nextHeader hopLimit src6 dst6 ++ rest) 0 = 0x60 ∧
      uint16At (ipv6Header payloadLen nextHeader hopLimit src6 dst6 ++ rest) 4 =
        UInt16.ofNat payloadLen ∧
      byteAt (ipv6Header payloadLen nextHeader hopLimit src6 dst6 ++ rest) 6 = nextHeader := by
  rw [ipv6Header_eq]
  exact ⟨rfl, uint16_bytesOfUint16 _, rfl⟩

variable (srcMAC) in
theorem parseIPv4_ipv4Header {src4 dst4 : List UInt8} (srcFour : src4.length = 4)
    (dstFour : dst4.length = 4) {udpLen : Nat} {segment : List UInt8}
    (size : segment.length = udpLen) (header : udpHeaderSize ≤ udpLen) (fits : udpLen ≤ 65515)
    (padding : List UInt8) :
    parseIPv4 srcMAC (ipv4Header udpLen src4 dst4 ++ (segment ++ padding)) =
      some { srcMAC, isUDP4 := true, isUDP6 := false, isICMP6 := false
             srcIP := src4, dstIP := dst4
             srcPort := uint16At segment 0, dstPort := uint16At segment 2
             icmpTyp := 0, payload := segment.drop udpHeaderSize } := by
  have minSize : ipv4MinSize = 20 := rfl
  rcases ipv4Header_read udpLen src4 dst4 (segment ++ padding) with ⟨first, total, flags, proto⟩
  rcases slice_ipv4Header udpLen src4 dst4 (segment ++ padding) with ⟨source, destination⟩
  have bodySize : (ipv4Header udpLen src4 dst4 ++ (segment ++ padding)).length =
      20 + (udpLen + padding.length) := by
    rw [List.length_append, List.length_append, length_ipv4Header, size]
  have ihl : headerLength4 (ipv4Header udpLen src4 dst4 ++ (segment ++ padding)) = 20 := by
    rw [headerLength4, first]
    rfl
  have totalLen : (uint16At (ipv4Header udpLen src4 dst4 ++ (segment ++ padding)) 2).toNat =
      20 + udpLen := by
    rw [total]
    exact UInt16.toNat_ofNat_of_lt' (Nat.lt_of_le_of_lt (by omega : _ ≤ 65535) (by decide))
  have udp : slice 20 (20 + udpLen) (ipv4Header udpLen src4 dst4 ++ (segment ++ padding)) =
      segment :=
    slice_append (length_ipv4Header udpLen src4 dst4) (by rw [length_ipv4Header, size])
  rw [parseIPv4_eq_some_iff, ihl, totalLen, udp, source, destination, field_of_length srcFour,
    field_of_length dstFour]
  refine ⟨⟨by omega, by rw [first]; rfl, by omega, by omega, by omega, ?_, proto⟩, rfl⟩
  rw [flags]
  rfl

theorem wellformed6_ipv6Header (nextHeader hopLimit : UInt8) (src6 dst6 : List UInt8)
    {payloadLen : Nat} {segment : List UInt8} (size : segment.length = payloadLen)
    (fits : payloadLen ≤ 65535) (padding : List UInt8) :
    Wellformed6 (ipv6Header payloadLen nextHeader hopLimit src6 dst6 ++ (segment ++ padding)) ∧
      (uint16At (ipv6Header payloadLen nextHeader hopLimit src6 dst6 ++
        (segment ++ padding)) 4).toNat = payloadLen ∧
      rest6 (ipv6Header payloadLen nextHeader hopLimit src6 dst6 ++ (segment ++ padding)) =
        segment := by
  have headerSize : ipv6HeaderSize = 40 := rfl
  rcases ipv6Header_read payloadLen nextHeader hopLimit src6 dst6 (segment ++ padding) with
    ⟨first, length, _⟩
  have payloadNat : (uint16At (ipv6Header payloadLen nextHeader hopLimit src6 dst6 ++
      (segment ++ padding)) 4).toNat = payloadLen := by
    rw [length]
    exact UInt16.toNat_ofNat_of_lt' (Nat.lt_of_le_of_lt fits (by decide))
  have bodySize : (ipv6Header payloadLen nextHeader hopLimit src6 dst6 ++
      (segment ++ padding)).length = 40 + (payloadLen + padding.length) := by
    rw [List.length_append, List.length_append, length_ipv6Header, size]
  refine ⟨⟨by omega, by rw [first]; rfl, by omega⟩, payloadNat, ?_⟩
  rw [rest6, payloadNat]
  exact slice_append (length_ipv6Header _ _ _ _ _) (by rw [length_ipv6Header, size, headerSize])

theorem parse_craftUDP4 (srcSix : srcMAC.length = 6) (dstSix : dstMAC.length = 6)
    (srcValid : (Netip.to4 srcIP).length = 4) (dstValid : (Netip.to4 dstIP).length = 4)
    (srcPort dstPort : UInt16) {payload : List UInt8} (fits : payload.length ≤ 65507)
    (padding : List UInt8) :
    parse (craftUDP4 srcMAC dstMAC srcIP dstIP srcPort dstPort payload ++ padding) =
      some { srcMAC, isUDP4 := true, isUDP6 := false, isICMP6 := false
             srcIP := Netip.to4 srcIP, dstIP := Netip.to4 dstIP
             srcPort, dstPort, icmpTyp := 0, payload } := by
  have headerBytes : udpHeaderSize = 8 := rfl
  rcases udpSegment_read (Netip.to4 srcIP) (Netip.to4 dstIP) srcPort dstPort payload with
    ⟨source, destination, data⟩
  have parsed := parseIPv4_ipv4Header srcMAC srcValid dstValid
    (length_udpSegment (Netip.to4 srcIP) (Netip.to4 dstIP) srcPort dstPort payload)
    (by omega) (by omega) padding
  rw [source, destination, data] at parsed
  rw [craftUDP4, List.append_assoc, List.append_assoc, parse_ethernetHeader srcSix dstSix]
  exact .inl ⟨rfl, parsed⟩

theorem parse_craftUDP6 (srcSix : srcMAC.length = 6) (dstSix : dstMAC.length = 6)
    (srcValid : (Netip.to16 srcIP).length = 16) (dstValid : (Netip.to16 dstIP).length = 16)
    (srcPort dstPort : UInt16) {payload : List UInt8} (fits : payload.length ≤ 65527)
    (padding : List UInt8) :
    parse (craftUDP6 srcMAC dstMAC srcIP dstIP srcPort dstPort payload ++ padding) =
      some { srcMAC, isUDP4 := false, isUDP6 := true, isICMP6 := false
             srcIP := Netip.to16 srcIP, dstIP := Netip.to16 dstIP
             srcPort, dstPort, icmpTyp := 0, payload } := by
  have headerBytes : udpHeaderSize = 8 := rfl
  rcases udpSegment_read (Netip.to16 srcIP) (Netip.to16 dstIP) srcPort dstPort payload with
    ⟨source, destination, data⟩
  have size := length_udpSegment (Netip.to16 srcIP) (Netip.to16 dstIP) srcPort dstPort payload
  rcases wellformed6_ipv6Header protoUDP 64 (Netip.to16 srcIP) (Netip.to16 dstIP) size (by omega)
    padding with ⟨checks, payloadNat, rest⟩
  rcases slice_ipv6Header (8 + payload.length) protoUDP 64 (Netip.to16 srcIP) (Netip.to16 dstIP)
    (udpSegment (Netip.to16 srcIP) (Netip.to16 dstIP) srcPort dstPort payload ++ padding) with
    ⟨srcField, dstField⟩
  rw [craftUDP6, List.append_assoc, List.append_assoc, parse_ethernetHeader srcSix dstSix]
  refine .inr ⟨rfl, ?_⟩
  rw [headerBytes, parseIPv6_eq_some_iff, payloadNat, rest, srcField, dstField,
    field_of_length srcValid, field_of_length dstValid, source, destination, data]
  exact ⟨checks, .inl ⟨(ipv6Header_read _ _ _ _ _ _).2.2, by omega, rfl⟩⟩

theorem parse_craftICMP6 (srcSix : srcMAC.length = 6) (dstSix : dstMAC.length = 6)
    (srcValid : (Netip.to16 srcIP).length = 16) (dstValid : (Netip.to16 dstIP).length = 16)
    (hopLimit : UInt8) {icmpBody : List UInt8} (long : 4 ≤ icmpBody.length)
    (fits : icmpBody.length ≤ 65535) (padding : List UInt8) :
    ∃ csum : UInt16,
      parse (craftICMP6 srcMAC dstMAC srcIP dstIP icmpBody hopLimit ++ padding) =
        some { srcMAC, isUDP4 := false, isUDP6 := false, isICMP6 := true
               srcIP := Netip.to16 srcIP, dstIP := Netip.to16 dstIP
               srcPort := 0, dstPort := 0, icmpTyp := byteAt icmpBody 0
               payload := icmpBody.take 2 ++ (bytesOfUint16 csum ++ icmpBody.drop 4) } := by
  rcases exists_icmpParts long with ⟨kind, code, first, second, back, rfl⟩
  have message := icmpMessage_eq (Netip.to16 srcIP) (Netip.to16 dstIP) kind code first second back
  generalize l4Checksum (Netip.to16 srcIP) (Netip.to16 dstIP) protoICMPv6
    ([kind, code] ++ ([0, 0] ++ back)) = csum at message
  refine ⟨csum, ?_⟩
  have size : ([kind, code] ++ (bytesOfUint16 csum ++ back)).length =
      ([kind, code] ++ ([first, second] ++ back)).length := by
    simp only [List.length_append, length_bytesOfUint16, List.length_cons, List.length_nil]
  rcases wellformed6_ipv6Header protoICMPv6 hopLimit (Netip.to16 srcIP) (Netip.to16 dstIP) size
    fits padding with ⟨checks, payloadNat, rest⟩
  rcases slice_ipv6Header ([kind, code] ++ ([first, second] ++ back)).length protoICMPv6 hopLimit
    (Netip.to16 srcIP) (Netip.to16 dstIP)
    (([kind, code] ++ (bytesOfUint16 csum ++ back)) ++ padding) with ⟨srcField, dstField⟩
  rw [craftICMP6, List.append_assoc, List.append_assoc, message,
    parse_ethernetHeader srcSix dstSix]
  refine .inr ⟨rfl, ?_⟩
  rw [parseIPv6_eq_some_iff, payloadNat, rest, srcField, dstField, field_of_length srcValid,
    field_of_length dstValid]
  exact ⟨checks, .inr ⟨(ipv6Header_read _ _ _ _ _ _).2.2, long, rfl⟩⟩

end RoundTrip

/-- Parsing undoes crafting, whatever padding follows the frame.  An IPv4 address given in its
mapped form comes back as four bytes. -/
theorem parse_craft (srcMAC dstMAC : List UInt8) (srcSix : srcMAC.length = 6)
    (dstSix : dstMAC.length = 6) (srcIP dstIP padding : List UInt8) :
    ((Netip.to4 srcIP).length = 4 → (Netip.to4 dstIP).length = 4 →
      ∀ (srcPort dstPort : UInt16) (payload : List UInt8), payload.length ≤ 65507 →
      parse (craftUDP4 srcMAC dstMAC srcIP dstIP srcPort dstPort payload ++ padding) =
        some { srcMAC, isUDP4 := true, isUDP6 := false, isICMP6 := false
               srcIP := Netip.to4 srcIP, dstIP := Netip.to4 dstIP
               srcPort, dstPort, icmpTyp := 0, payload }) ∧
    ((Netip.to16 srcIP).length = 16 → (Netip.to16 dstIP).length = 16 →
      (∀ (srcPort dstPort : UInt16) (payload : List UInt8), payload.length ≤ 65527 →
        parse (craftUDP6 srcMAC dstMAC srcIP dstIP srcPort dstPort payload ++ padding) =
          some { srcMAC, isUDP4 := false, isUDP6 := true, isICMP6 := false
                 srcIP := Netip.to16 srcIP, dstIP := Netip.to16 dstIP
                 srcPort, dstPort, icmpTyp := 0, payload }) ∧
      (∀ (icmpBody : List UInt8) (hopLimit : UInt8), 4 ≤ icmpBody.length →
        icmpBody.length ≤ 65535 →
        ∃ csum : UInt16,
          parse (craftICMP6 srcMAC dstMAC srcIP dstIP icmpBody hopLimit ++ padding) =
            some { srcMAC, isUDP4 := false, isUDP6 := false, isICMP6 := true
                   srcIP := Netip.to16 srcIP, dstIP := Netip.to16 dstIP
                   srcPort := 0, dstPort := 0, icmpTyp := byteAt icmpBody 0
                   payload := icmpBody.take 2 ++ (bytesOfUint16 csum ++ icmpBody.drop 4) })) := by
  constructor
  · intro srcValid dstValid srcPort dstPort payload fits
    exact parse_craftUDP4 srcSix dstSix srcValid dstValid srcPort dstPort fits padding
  · intro srcValid dstValid
    constructor
    · intro srcPort dstPort payload fits
      exact parse_craftUDP6 srcSix dstSix srcValid dstValid srcPort dstPort fits padding
    · intro icmpBody hopLimit long fits
      exact parse_craftICMP6 srcSix dstSix srcValid dstValid hopLimit long fits padding

/-- A reply to a client port between two IPv4 hosts, padded by one byte, and the same between the
mapped addresses. -/
theorem parse_craft_reply :
    parse (craftUDP4 [2, 0, 0, 0, 0, 1] [2, 0, 0, 0, 0, 2] [10, 0, 0, 1] [10, 0, 0, 2] 67 68 [1] ++
        [0]) =
      some { srcMAC := [2, 0, 0, 0, 0, 1], isUDP4 := true, isUDP6 := false, isICMP6 := false
             srcIP := [10, 0, 0, 1], dstIP := [10, 0, 0, 2]
             srcPort := 67, dstPort := 68, icmpTyp := 0, payload := [1] } ∧
    (parse (craftUDP6 [2, 0, 0, 0, 0, 1] [2, 0, 0, 0, 0, 2] [10, 0, 0, 1] [10, 0, 0, 2] 547 546
        [1] ++ [0])).isSome = true ∧
    ∃ csum : UInt16,
      parse (craftICMP6 [2, 0, 0, 0, 0, 1] [2, 0, 0, 0, 0, 2] [10, 0, 0, 1] [10, 0, 0, 2]
          [134, 0, 9, 9] 255 ++ [0]) =
        some { srcMAC := [2, 0, 0, 0, 0, 1], isUDP4 := false, isUDP6 := false, isICMP6 := true
               srcIP := Netip.to16 [10, 0, 0, 1], dstIP := Netip.to16 [10, 0, 0, 2]
               srcPort := 0, dstPort := 0, icmpTyp := 134
               payload := [134, 0] ++ (bytesOfUint16 csum ++ []) } := by
  have restored := parse_craft [2, 0, 0, 0, 0, 1] [2, 0, 0, 0, 0, 2] rfl rfl [10, 0, 0, 1]
    [10, 0, 0, 2] [0]
  refine ⟨restored.1 rfl rfl 67 68 [1] (by decide), ?_,
    (restored.2 rfl rfl).2 [134, 0, 9, 9] 255 (by decide) (by decide)⟩
  rw [(restored.2 rfl rfl).1 547 546 [1] (by decide)]
  rfl

end BridgeDhcp.Packet
