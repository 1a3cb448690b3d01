/-
Crafted frames and their checksums.

A frame is one zeroed buffer that the source fills through slices of it: the ethernet
header, the IP header and the transport segment.  The slices do not overlap, so each is
a buffer of its own here, written at the source's offsets, and the frame is their
concatenation.
-/

import BridgeDhcp.GoBytes
import BridgeDhcp.InternetChecksum
import BridgeDhcp.NetipAddress
import Mathlib.Tactic.Common

set_option autoImplicit false

namespace BridgeDhcp.Packet

open GoBytes InternetChecksum

/-! ### Constants -/

def ethHeaderSize : Nat := 14
def ipv4MinSize : Nat := 20
def ipv6HeaderSize : Nat := 40
def udpHeaderSize : Nat := 8

def etherTypeIPv4 : UInt16 := 0x0800
def etherTypeIPv6 : UInt16 := 0x86DD

def protoUDP : UInt8 := 17
def protoICMPv6 : UInt8 := 58

/-! ### Checksums -/

def checksumAdd : UInt32 → List UInt8 → UInt32
  | sum, high :: low :: rest => checksumAdd (sum + (uint16 high low).toUInt32) rest
  | sum, [last] => sum + last.toUInt32 <<< 8
  | sum, [] => sum

theorem toNat_lowWord (sum : UInt32) : (sum &&& 0xFFFF).toNat = sum.toNat % 65536 := by
  rw [UInt32.toNat_and]
  exact Nat.and_two_pow_sub_one_eq_mod sum.toNat 16

theorem toNat_highWord (sum : UInt32) : (sum >>> 16).toNat = sum.toNat / 65536 := by
  rw [UInt32.toNat_shiftRight]
  exact Nat.shiftRight_eq_div_pow sum.toNat 16

theorem highWord_eq_zero_iff (sum : UInt32) : sum >>> 16 = 0 ↔ sum.toNat < 65536 := by
  rw [← UInt32.toNat_inj, toNat_highWord]
  change sum.toNat / 65536 = 0 ↔ _
  omega

theorem toNat_foldCarry (sum : UInt32) :
    ((sum &&& (0xFFFF : UInt32)) + (sum >>> 16)).toNat = sum.toNat % 65536 + sum.toNat / 65536 := by
  have bound := sum.toNat_lt
  rw [UInt32.toNat_add, toNat_lowWord, toNat_highWord]
  omega

/-- The loop `for sum>>16 != 0`; each turn leaves a smaller sum. -/
def checksumFinish (sum : UInt32) : UInt16 :=
  if sum >>> 16 ≠ 0 then checksumFinish ((sum &&& (0xFFFF : UInt32)) + (sum >>> 16))
  else ~~~ sum.toUInt16
termination_by sum.toNat
decreasing_by
  rename_i carried
  rw [ne_eq, highWord_eq_zero_iff] at carried
  rw [toNat_foldCarry]
  omega

def pseudoHeaderSum (srcIP dstIP : List UInt8) (proto : UInt8) (l4len : Nat) : UInt32 :=
  let sum := checksumAdd 0 srcIP
  let sum := checksumAdd sum dstIP
  let sum := sum + proto.toUInt32
  sum + UInt32.ofNat l4len

/-! ### Exact accumulation -/

def addExact (left right : UInt32) : Option UInt32 :=
  if left.toNat + right.toNat < 2 ^ 32 then some (left + right) else none

def checksumAddExact : UInt32 → List UInt8 → Option UInt32
  | sum, high :: low :: rest =>
      (addExact sum (uint16 high low).toUInt32).bind fun sum => checksumAddExact sum rest
  | sum, [last] => addExact sum (last.toUInt32 <<< 8)
  | sum, [] => some sum

def checksumFinishExact (sum : UInt32) : Option UInt16 :=
  if sum >>> 16 ≠ 0 then
    if (sum &&& (0xFFFF : UInt32)).toNat + (sum >>> 16).toNat < 2 ^ 32 then
      checksumFinishExact ((sum &&& (0xFFFF : UInt32)) + (sum >>> 16))
    else none
  else some (~~~ sum.toUInt16)
termination_by sum.toNat
decreasing_by
  rename_i carried _
  rw [ne_eq, highWord_eq_zero_iff] at carried
  rw [toNat_foldCarry]
  omega

def pseudoHeaderSumExact (srcIP dstIP : List UInt8) (proto : UInt8) (l4len : Nat) :
    Option UInt32 :=
  (checksumAddExact 0 srcIP).bind fun sum =>
  (checksumAddExact sum dstIP).bind fun sum =>
  (addExact sum proto.toUInt32).bind fun sum =>
  addExact sum (UInt32.ofNat l4len)

def headerChecksumExact (header : List UInt8) : Option UInt16 :=
  (checksumAddExact 0 header).bind checksumFinishExact

def l4ChecksumExact (srcIP dstIP : List UInt8) (proto : UInt8) (segment : List UInt8) :
    Option UInt16 :=
  (pseudoHeaderSumExact srcIP dstIP proto segment.length).bind fun sum =>
  (checksumAddExact sum segment).bind checksumFinishExact

/-! ### Headers and segments -/

def ethernetHeader (srcMAC dstMAC : List UInt8) (etherType : UInt16) : List UInt8 :=
  let frame := List.replicate ethHeaderSize 0
  let frame := copyInto 0 6 dstMAC frame
  let frame := copyInto 6 12 srcMAC frame
  putUint16 12 etherType frame

def ipv4Fields (udpLen : Nat) (src4 dst4 : List UInt8) : List UInt8 :=
  let ip := List.replicate ipv4MinSize 0
  let ip := setByte 0 0x45 ip
  let ip := putUint16 2 (UInt16.ofNat (ipv4MinSize + udpLen)) ip
  let ip := setByte 8 64 ip
  let ip := setByte 9 protoUDP ip
  let ip := copyInto 12 16 src4 ip
  copyInto 16 20 dst4 ip

def ipv4Header (udpLen : Nat) (src4 dst4 : List UInt8) : List UInt8 :=
  let ip := ipv4Fields udpLen src4 dst4
  putUint16 10 (checksumFinish (checksumAdd 0 ip)) ip

/-- `CraftUDP6` and `CraftICMP6` fill the IPv6 header in the same way. -/
def ipv6Header (payloadLen : Nat) (nextHeader hopLimit : UInt8) (src6 dst6 : List UInt8) :
    List UInt8 :=
  let ip := List.replicate ipv6HeaderSize 0
  let ip := setByte 0 0x60 ip
  let ip := putUint16 4 (UInt16.ofNat payloadLen) ip
  let ip := setByte 6 nextHeader ip
  let ip := setByte 7 hopLimit ip
  let ip := copyInto 8 24 src6 ip
  copyInto 24 40 dst6 ip

def udpFields (srcPort dstPort : UInt16) (payload : List UInt8) : List UInt8 :=
  let udpLen := udpHeaderSize + payload.length
  let udp := List.replicate udpLen 0
  let udp := putUint16 0 srcPort udp
  let udp := putUint16 2 dstPort udp
  let udp := putUint16 4 (UInt16.ofNat udpLen) udp
  copyInto udpHeaderSize udpLen payload udp

def l4Checksum (srcIP dstIP : List UInt8) (proto : UInt8) (segment : List UInt8) : UInt16 :=
  let sum := pseudoHeaderSum srcIP dstIP proto segment.length
  checksumFinish (checksumAdd sum segment)

/-- The UDP checksum; a computed zero is sent as all ones (RFC 768). -/
def udpChecksum (srcIP dstIP udp : List UInt8) : UInt16 :=
  let csum := l4Checksum srcIP dstIP protoUDP udp
  if csum = 0 then 0xFFFF else csum

def udpSegment (srcIP dstIP : List UInt8) (srcPort dstPort : UInt16) (payload : List UInt8) :
    List UInt8 :=
  let udp := udpFields srcPort dstPort payload
  putUint16 6 (udpChecksum srcIP dstIP udp) udp

def icmpFields (icmpBody : List UInt8) : List UInt8 :=
  setByte 3 0 (setByte 2 0 icmpBody)

def icmpMessage (srcIP dstIP icmpBody : List UInt8) : List UInt8 :=
  let icmp := icmpFields icmpBody
  putUint16 2 (l4Checksum srcIP dstIP protoICMPv6 icmp) icmp

/-! ### Frames -/

def craftUDP4 (srcMAC dstMAC srcIP dstIP : List UInt8) (srcPort dstPort : UInt16)
    (payload : List UInt8) : List UInt8 :=
  let src4 := Netip.to4 srcIP
  let dst4 := Netip.to4 dstIP
  ethernetHeader srcMAC dstMAC etherTypeIPv4 ++
    (ipv4Header (udpHeaderSize + payload.length) src4 dst4 ++
      udpSegment src4 dst4 srcPort dstPort payload)

def craftUDP6 (srcMAC dstMAC srcIP dstIP : List UInt8) (srcPort dstPort : UInt16)
    (payload : List UInt8) : List UInt8 :=
  let src6 := Netip.to16 srcIP
  let dst6 := Netip.to16 dstIP
  ethernetHeader srcMAC dstMAC etherTypeIPv6 ++
    (ipv6Header (udpHeaderSize + payload.length) protoUDP 64 src6 dst6 ++
      udpSegment src6 dst6 srcPort dstPort payload)

def craftICMP6 (srcMAC dstMAC srcIP dstIP icmpBody : List UInt8) (hopLimit : UInt8) :
    List UInt8 :=
  let src6 := Netip.to16 srcIP
  let dst6 := Netip.to16 dstIP
  ethernetHeader srcMAC dstMAC etherTypeIPv6 ++
    (ipv6Header icmpBody.length protoICMPv6 hopLimit src6 dst6 ++
      icmpMessage src6 dst6 icmpBody)

/-! ### Where the fields end up -/

theorem ethernetHeader_eq (srcMAC dstMAC : List UInt8) (etherType : UInt16) :
    ethernetHeader srcMAC dstMAC etherType =
      (field 6 dstMAC ++ field 6 srcMAC) ++ (bytesOfUint16 etherType ++ []) := by
  have zeros : List.replicate ethHeaderSize (0 : UInt8) =
      [] ++ (List.replicate 6 0 ++ (List.replicate 6 0 ++ ([0, 0] ++ []))) := rfl
  unfold ethernetHeader
  dsimp only
  rw [zeros, copyInto_zeros dstMAC ?_ ?_, List.nil_append, copyInto_zeros srcMAC ?_ ?_,
    ← List.append_assoc, putUint16_field etherType ?_ ?_]
  all_goals simp

theorem ipv4Fields_eq (udpLen : Nat) (src4 dst4 : List UInt8) :
    ipv4Fields udpLen src4 dst4 =
      ([0x45, 0] ++ (bytesOfUint16 (UInt16.ofNat (20 + udpLen)) ++ [0, 0, 0, 0, 64, 17])) ++
        ([0, 0] ++ (field 4 src4 ++ field 4 dst4)) := by
  have lengths : setByte 9 protoUDP (setByte 8 64 (putUint16 2 (UInt16.ofNat (20 + udpLen))
      (setByte 0 0x45 (List.replicate 20 0)))) =
      ([0x45, 0] ++ (bytesOfUint16 (UInt16.ofNat (20 + udpLen)) ++ [0, 0, 0, 0, 64, 17]) ++
        [0, 0]) ++ (List.replicate 4 0 ++ (List.replicate 4 0 ++ [])) := rfl
  change copyInto 16 20 dst4 (copyInto 12 16 src4 (setByte 9 protoUDP (setByte 8 64
    (putUint16 2 (UInt16.ofNat (20 + udpLen)) (setByte 0 0x45 (List.replicate 20 0)))))) = _
  rw [lengths, copyInto_zeros src4 ?_ ?_, ← List.append_assoc, copyInto_zeros dst4 ?_ ?_]
  all_goals simp

theorem ipv6Header_eq (payloadLen : Nat) (nextHeader hopLimit : UInt8) (src6 dst6 : List UInt8) :
    ipv6Header payloadLen nextHeader hopLimit src6 dst6 =
      ([0x60, 0, 0, 0] ++ (bytesOfUint16 (UInt16.ofNat payloadLen) ++ [nextHeader, hopLimit])) ++
        (field 16 src6 ++ field 16 dst6) := by
  have lengths : setByte 7 hopLimit (setByte 6 nextHeader (putUint16 4 (UInt16.ofNat payloadLen)
      (setByte 0 0x60 (List.replicate 40 0)))) =
      ([0x60, 0, 0, 0] ++ (bytesOfUint16 (UInt16.ofNat payloadLen) ++ [nextHeader, hopLimit])) ++
        (List.replicate 16 0 ++ (List.replicate 16 0 ++ [])) := rfl
  change copyInto 24 40 dst6 (copyInto 8 24 src6 (setByte 7 hopLimit (setByte 6 nextHeader
    (putUint16 4 (UInt16.ofNat payloadLen) (setByte 0 0x60 (List.replicate 40 0)))))) = _
  rw [lengths, copyInto_zeros src6 ?_ ?_, ← List.append_assoc, copyInto_zeros dst6 ?_ ?_]
  all_goals simp

theorem udpFields_eq (srcPort dstPort : UInt16) (payload : List UInt8) :
    udpFields srcPort dstPort payload =
      (bytesOfUint16 srcPort ++ (bytesOfUint16 dstPort ++
        bytesOfUint16 (UInt16.ofNat (8 + payload.length)))) ++ ([0, 0] ++ payload) := by
  have zeros : List.replicate (8 + payload.length) (0 : UInt8) =
      [0, 0, 0, 0, 0, 0, 0, 0] ++ (List.replicate payload.length 0 ++ []) := by
    rw [List.replicate_add, List.append_nil]
    rfl
  change copyInto 8 (8 + payload.length) payload (putUint16 4 (UInt16.ofNat (8 + payload.length))
    (putUint16 2 dstPort (putUint16 0 srcPort (List.replicate (8 + payload.length) 0)))) = _
  rw [zeros]
  change copyInto 8 (8 + payload.length) payload
    ((bytesOfUint16 srcPort ++ (bytesOfUint16 dstPort ++ (bytesOfUint16
      (UInt16.ofNat (8 + payload.length)) ++ [0, 0]))) ++ (List.replicate payload.length 0 ++ [])) = _
  rw [copyInto_zeros payload ?_ ?_, field_of_length rfl]
  all_goals simp

theorem length_ethernetHeader (srcMAC dstMAC : List UInt8) (etherType : UInt16) :
    (ethernetHeader srcMAC dstMAC etherType).length = 14 := by
  simp [ethernetHeader_eq]

theorem ipv4Header_eq (udpLen : Nat) (src4 dst4 : List UInt8) :
    ipv4Header udpLen src4 dst4 =
      ([0x45, 0] ++ (bytesOfUint16 (UInt16.ofNat (20 + udpLen)) ++ [0, 0, 0, 0, 64, 17])) ++
        (bytesOfUint16 (checksumFinish (checksumAdd 0 (ipv4Fields udpLen src4 dst4))) ++
          (field 4 src4 ++ field 4 dst4)) := by
  change putUint16 10 (checksumFinish (checksumAdd 0 (ipv4Fields udpLen src4 dst4)))
    (ipv4Fields udpLen src4 dst4) = _
  generalize checksumFinish (checksumAdd 0 (ipv4Fields udpLen src4 dst4)) = csum
  rw [ipv4Fields_eq]
  exact putUint16_field csum rfl rfl

theorem udpSegment_eq (srcIP dstIP : List UInt8) (srcPort dstPort : UInt16)
    (payload : List UInt8) :
    udpSegment srcIP dstIP srcPort dstPort payload =
      (bytesOfUint16 srcPort ++ (bytesOfUint16 dstPort ++
        bytesOfUint16 (UInt16.ofNat (8 + payload.length)))) ++
        (bytesOfUint16 (udpChecksum srcIP dstIP (udpFields srcPort dstPort payload)) ++ payload) := by
  change putUint16 6 (udpChecksum srcIP dstIP (udpFields srcPort dstPort payload))
    (udpFields srcPort dstPort payload) = _
  generalize udpChecksum srcIP dstIP (udpFields srcPort dstPort payload) = csum
  rw [udpFields_eq]
  exact putUint16_field csum rfl rfl

theorem exists_icmpParts {icmpBody : List UInt8} (long : 4 ≤ icmpBody.length) :
    ∃ kind code first second rest, icmpBody = [kind, code] ++ ([first, second] ++ rest) := by
  match icmpBody, long with
  | kind :: code :: first :: second :: rest, _ => exact ⟨kind, code, first, second, rest, rfl⟩

theorem icmpFields_eq (kind code first second : UInt8) (rest : List UInt8) :
    icmpFields ([kind, code] ++ ([first, second] ++ rest)) = [kind, code] ++ ([0, 0] ++ rest) := rfl

theorem icmpMessage_eq (srcIP dstIP : List UInt8) (kind code first second : UInt8)
    (rest : List UInt8) :
    icmpMessage srcIP dstIP ([kind, code] ++ ([first, second] ++ rest)) =
      [kind, code] ++ (bytesOfUint16 (l4Checksum srcIP dstIP protoICMPv6
        ([kind, code] ++ ([0, 0] ++ rest))) ++ rest) := by
  rw [icmpMessage, icmpFields_eq]
  exact putUint16_field _ rfl rfl

/-! ### What the accumulators compute -/

theorem wordSum_bytesOfUint16 (value : UInt16) : wordSum (bytesOfUint16 value) = value.toNat := by
  rw [bytesOfUint16, wordSum_cons_cons, wordSum_nil, word, toNat_bytesOfUint16, Nat.add_zero]

theorem toNat_oddByte (last : UInt8) : (last.toUInt32 <<< 8).toNat = word last 0 := by
  have bound := last.toNat_lt
  simp only [UInt32.toNat_shiftLeft, UInt8.toNat_toUInt32, UInt32.toNat_ofNat, Nat.shiftLeft_eq,
    Nat.reducePow, Nat.reduceMod, word, UInt8.toNat_zero]
  omega

theorem toNat_wideWord (high low : UInt8) :
    (uint16 high low).toUInt32.toNat = word high low := by
  rw [UInt16.toNat_toUInt32, toNat_uint16, word]

theorem toNat_add_of_lt {left right : UInt32} (small : left.toNat + right.toNat < 2 ^ 32) :
    (left + right).toNat = left.toNat + right.toNat := by
  rw [UInt32.toNat_add, Nat.mod_eq_of_lt small]

theorem toNat_checksumAdd (sum : UInt32) (data : List UInt8)
    (small : sum.toNat + wordSum data < 2 ^ 32) :
    (checksumAdd sum data).toNat = sum.toNat + wordSum data := by
  induction sum, data using checksumAdd.induct with
  | case1 sum high low rest ih =>
      rw [wordSum_cons_cons] at small ⊢
      have added : (sum + (uint16 high low).toUInt32).toNat = sum.toNat + word high low := by
        rw [toNat_add_of_lt, toNat_wideWord]
        rw [toNat_wideWord]
        omega
      rw [checksumAdd, ih (by omega), added, Nat.add_assoc]
  | case2 sum last =>
      rw [wordSum_singleton] at small ⊢
      rw [checksumAdd, toNat_add_of_lt, toNat_oddByte]
      rw [toNat_oddByte]
      exact small
  | case3 sum =>
      rfl

theorem toNat_checksumFinish (sum : UInt32) :
    (checksumFinish sum).toNat = 65535 - endAround sum.toNat := by
  induction sum using checksumFinish.induct with
  | case1 sum carried ih =>
      rw [checksumFinish, if_pos carried, ih, toNat_foldCarry, endAround_fold]
  | case2 sum done =>
      have small : sum.toNat < 65536 := (highWord_eq_zero_iff sum).mp (not_not.mp done)
      rw [checksumFinish, if_neg done, UInt16.toNat_not, UInt32.toNat_toUInt16,
        Nat.mod_eq_of_lt small, endAround_of_le (by omega)]
      rfl

theorem addExact_eq {left right : UInt32} (small : left.toNat + right.toNat < 2 ^ 32) :
    addExact left right = some (left + right) := if_pos small

theorem checksumAddExact_eq (sum : UInt32) (data : List UInt8)
    (small : sum.toNat + wordSum data < 2 ^ 32) :
    checksumAddExact sum data = some (checksumAdd sum data) := by
  induction sum, data using checksumAdd.induct with
  | case1 sum high low rest ih =>
      rw [wordSum_cons_cons] at small
      have fits : sum.toNat + (uint16 high low).toUInt32.toNat < 2 ^ 32 := by
        rw [toNat_wideWord]
        omega
      have restSmall : (sum + (uint16 high low).toUInt32).toNat + wordSum rest < 2 ^ 32 := by
        rw [toNat_add_of_lt fits, toNat_wideWord]
        omega
      rw [checksumAddExact, addExact_eq fits, Option.bind_some, ih restSmall, checksumAdd]
  | case2 sum last =>
      rw [wordSum_singleton, ← toNat_oddByte] at small
      rw [checksumAddExact, addExact_eq small, checksumAdd]
  | case3 sum =>
      rfl

theorem checksumFinishExact_eq (sum : UInt32) :
    checksumFinishExact sum = some (checksumFinish sum) := by
  induction sum using checksumFinish.induct with
  | case1 sum carried ih =>
      have fits : (sum &&& (0xFFFF : UInt32)).toNat + (sum >>> 16).toNat < 2 ^ 32 := by
        have bound := sum.toNat_lt
        rw [toNat_lowWord, toNat_highWord]
        omega
      rw [checksumFinishExact, if_pos carried, if_pos fits, ih]
      conv_rhs => rw [checksumFinish, if_pos carried]
  | case2 sum done =>
      rw [checksumFinishExact, if_neg done, checksumFinish, if_neg done]

def pseudoHeaderWords (srcIP dstIP : List UInt8) (proto : UInt8) (l4len : Nat) : Nat :=
  wordSum srcIP + wordSum dstIP + proto.toNat + l4len

section PseudoHeader

variable {srcIP dstIP : List UInt8} {l4len : Nat} (proto : UInt8)

theorem pseudoHeaderWords_le (srcShort : srcIP.length ≤ 16) (dstShort : dstIP.length ≤ 16)
    (fits : l4len ≤ 65535) :
    pseudoHeaderWords srcIP dstIP proto l4len ≤ 18 * 65535 := by
  have srcBound := wordSum_le srcIP
  have dstBound := wordSum_le dstIP
  have protoBound := proto.toNat_lt
  unfold pseudoHeaderWords
  omega

theorem pseudoHeaderSum_spec (srcShort : srcIP.length ≤ 16) (dstShort : dstIP.length ≤ 16)
    (fits : l4len ≤ 65535) :
    (pseudoHeaderSum srcIP dstIP proto l4len).toNat = pseudoHeaderWords srcIP dstIP proto l4len ∧
      pseudoHeaderSumExact srcIP dstIP proto l4len =
        some (pseudoHeaderSum srcIP dstIP proto l4len) := by
  have total : pseudoHeaderWords srcIP dstIP proto l4len ≤ 18 * 65535 :=
    pseudoHeaderWords_le proto srcShort dstShort fits
  unfold pseudoHeaderWords at total ⊢
  have zero : (0 : UInt32).toNat = 0 := rfl
  have lengthNat : (UInt32.ofNat l4len).toNat = l4len :=
    UInt32.toNat_ofNat_of_lt' (Nat.lt_of_le_of_lt fits (by decide))
  have srcFits : (0 : UInt32).toNat + wordSum srcIP < 2 ^ 32 := by omega
  have srcNat := toNat_checksumAdd 0 srcIP srcFits
  have dstFits : (checksumAdd 0 srcIP).toNat + wordSum dstIP < 2 ^ 32 := by omega
  have dstNat := toNat_checksumAdd (checksumAdd 0 srcIP) dstIP dstFits
  have protoFits : (checksumAdd (checksumAdd 0 srcIP) dstIP).toNat + proto.toUInt32.toNat <
      2 ^ 32 := by
    rw [UInt8.toNat_toUInt32]
    omega
  have protoNat := toNat_add_of_lt protoFits
  rw [UInt8.toNat_toUInt32] at protoNat
  have lengthFits : (checksumAdd (checksumAdd 0 srcIP) dstIP + proto.toUInt32).toNat +
      (UInt32.ofNat l4len).toNat < 2 ^ 32 := by omega
  constructor
  · change (checksumAdd (checksumAdd 0 srcIP) dstIP + proto.toUInt32 +
      UInt32.ofNat l4len).toNat = _
    rw [toNat_add_of_lt lengthFits]
    omega
  · rw [pseudoHeaderSumExact, checksumAddExact_eq _ _ srcFits, Option.bind_some,
      checksumAddExact_eq _ _ dstFits, Option.bind_some, addExact_eq protoFits, Option.bind_some,
      addExact_eq lengthFits]
    rfl

theorem l4Checksum_spec {segment : List UInt8} (srcShort : srcIP.length ≤ 16)
    (dstShort : dstIP.length ≤ 16) (fits : segment.length ≤ 65535) :
    (l4Checksum srcIP dstIP proto segment).toNat = 65535 - endAround
        (pseudoHeaderWords srcIP dstIP proto segment.length + wordSum segment) ∧
      l4ChecksumExact srcIP dstIP proto segment = some (l4Checksum srcIP dstIP proto segment) := by
  have total : pseudoHeaderWords srcIP dstIP proto segment.length ≤ 18 * 65535 :=
    pseudoHeaderWords_le proto srcShort dstShort fits
  have segmentBound := wordSum_le segment
  rcases pseudoHeaderSum_spec proto srcShort dstShort fits with ⟨sumNat, sumExact⟩
  have segmentFits : (pseudoHeaderSum srcIP dstIP proto segment.length).toNat + wordSum segment <
      2 ^ 32 := by omega
  constructor
  · change (checksumFinish (checksumAdd (pseudoHeaderSum srcIP dstIP proto segment.length)
      segment)).toNat = _
    rw [toNat_checksumFinish, toNat_checksumAdd _ _ segmentFits, sumNat]
  · rw [l4ChecksumExact, sumExact, Option.bind_some, checksumAddExact_eq _ _ segmentFits,
      Option.bind_some, checksumFinishExact_eq]
    rfl

end PseudoHeader

theorem headerChecksum_spec {header : List UInt8} (short : header.length ≤ 20) :
    (checksumFinish (checksumAdd 0 header)).toNat = 65535 - endAround (wordSum header) ∧
      headerChecksumExact header = some (checksumFinish (checksumAdd 0 header)) := by
  have bound := wordSum_le header
  have zero : (0 : UInt32).toNat = 0 := rfl
  have fits : (0 : UInt32).toNat + wordSum header < 2 ^ 32 := by omega
  constructor
  · rw [toNat_checksumFinish, toNat_checksumAdd _ _ fits, zero, Nat.zero_add]
  · rw [headerChecksumExact, checksumAddExact_eq _ _ fits, Option.bind_some,
      checksumFinishExact_eq]

/-! ### A receiver's sums -/

def pseudoHeader4 (src dst : List UInt8) (proto : UInt8) (l4len : Nat) : List UInt8 :=
  src ++ (dst ++ ([0, proto] ++ bytesOfUint16 (UInt16.ofNat l4len)))

def pseudoHeader6 (src dst : List UInt8) (nextHeader : UInt8) (l4len : Nat) : List UInt8 :=
  src ++ (dst ++ (Netip.bytesOfNat 4 l4len ++ [0, 0, 0, nextHeader]))

def headerSum4 (ip : List UInt8) : Nat := onesSum (slice 0 20 ip)

/-- The sum over pseudo-header and segment, all read from the IPv4 packet. -/
def segmentSum4 (ip : List UInt8) : Nat :=
  onesSum (pseudoHeader4 (slice 12 16 ip) (slice 16 20 ip) (byteAt ip 9) (ip.length - 20) ++
    ip.drop 20)

/-- The sum over pseudo-header and segment, all read from the IPv6 packet. -/
def segmentSum6 (ip : List UInt8) : Nat :=
  onesSum (pseudoHeader6 (slice 8 24 ip) (slice 24 40 ip) (byteAt ip 6) (ip.length - 40) ++
    ip.drop 40)

theorem wordSum_filled {front : List UInt8} (even : front.length % 2 = 0) (csum : UInt16)
    (back : List UInt8) :
    wordSum (front ++ (bytesOfUint16 csum ++ back)) =
      wordSum (front ++ ([0, 0] ++ back)) + csum.toNat := by
  have zeros : wordSum [0, 0] = 0 := rfl
  rw [wordSum_append _ _ even, wordSum_append _ _ even, wordSum_append (bytesOfUint16 csum) _ (by simp),
    wordSum_append [0, 0] _ (by simp), wordSum_bytesOfUint16, zeros]
  omega

theorem wordSum_field {width : Nat} {data : List UInt8}
    (wholeOrNil : data = [] ∨ data.length = width) : wordSum (field width data) = wordSum data := by
  rcases wholeOrNil with rfl | whole
  · rw [field_nil, wordSum_zeros _ (by simp)]
    rfl
  · rw [field_of_length whole]

theorem wordSum_pseudoHeader4 {src dst : List UInt8} {l4len : Nat} (srcFour : src.length = 4)
    (dstFour : dst.length = 4) (proto : UInt8) (fits : l4len ≤ 65535) :
    wordSum (pseudoHeader4 src dst proto l4len) = wordSum src + wordSum dst + proto.toNat + l4len := by
  have lengthNat : (UInt16.ofNat l4len).toNat = l4len :=
    UInt16.toNat_ofNat_of_lt' (Nat.lt_of_le_of_lt fits (by decide))
  have protoWord : wordSum [0, proto] = proto.toNat := by simp [word]
  rw [pseudoHeader4, wordSum_append _ _ (by rw [srcFour]), wordSum_append _ _ (by rw [dstFour]),
    wordSum_append [0, proto] _ (by simp), wordSum_bytesOfUint16, lengthNat, protoWord]
  omega

theorem wordSum_pseudoHeader6 {src dst : List UInt8} {l4len : Nat} (srcSixteen : src.length = 16)
    (dstSixteen : dst.length = 16) (nextHeader : UInt8) (fits : l4len ≤ 65535) :
    wordSum (pseudoHeader6 src dst nextHeader l4len) =
      wordSum src + wordSum dst + nextHeader.toNat + l4len := by
  have nextWord : wordSum [0, 0, 0, nextHeader] = nextHeader.toNat := by simp [word]
  have lengthWords : wordSum (Netip.bytesOfNat 4 l4len) = l4len := by
    simp [Netip.bytesOfNat, word]
    omega
  rw [pseudoHeader6, wordSum_append _ _ (by rw [srcSixteen]),
    wordSum_append _ _ (by rw [dstSixteen]), wordSum_append _ _ (by simp), nextWord, lengthWords]
  omega

theorem endAround_add_udp {csum : UInt16} {number : Nat}
    (computed : csum.toNat = 65535 - endAround number) :
    endAround (number + (if csum = 0 then 0xFFFF else csum : UInt16).toNat) = 65535 := by
  have bound := endAround_le number
  split
  · next zero =>
      have full : endAround number = 65535 := by
        rw [zero, UInt16.toNat_zero] at computed
        omega
      exact endAround_add_ones full
  · rw [computed]
    exact endAround_add_complement number

theorem length_to4 (ip : List UInt8) : Netip.to4 ip = [] ∨ (Netip.to4 ip).length = 4 := by
  unfold Netip.to4
  split
  · next four => exact .inr four
  · split
    · next mapped => exact .inr (by simp [mapped.1])
    · exact .inl rfl

theorem length_to16 (ip : List UInt8) : Netip.to16 ip = [] ∨ (Netip.to16 ip).length = 16 := by
  unfold Netip.to16
  split
  · next four => exact .inr (by simp [four])
  · split
    · next sixteen => exact .inr sixteen
    · exact .inl rfl

theorem length_le_of_nil_or {data : List UInt8} {width : Nat}
    (wholeOrNil : data = [] ∨ data.length = width) : data.length ≤ width := by
  rcases wholeOrNil with rfl | whole
  · exact Nat.zero_le width
  · exact Nat.le_of_eq whole

/-! ### Every crafted frame sums to all ones -/

theorem length_ipv4Header (udpLen : Nat) (src4 dst4 : List UInt8) :
    (ipv4Header udpLen src4 dst4).length = 20 := by
  simp [ipv4Header_eq]

theorem length_ipv6Header (payloadLen : Nat) (nextHeader hopLimit : UInt8)
    (src6 dst6 : List UInt8) :
    (ipv6Header payloadLen nextHeader hopLimit src6 dst6).length = 40 := by
  simp [ipv6Header_eq]

theorem slice_two_fields {front first second back : List UInt8} {low middle high : Nat}
    (begins : front.length = low) (meets : low + first.length = middle)
    (ends : middle + second.length = high) :
    slice low middle (front ++ (first ++ second) ++ back) = first ∧
      slice middle high (front ++ (first ++ second) ++ back) = second := by
  subst begins meets ends
  constructor
  · rw [List.append_assoc, List.append_assoc]
    exact slice_append rfl rfl
  · rw [← List.append_assoc front, List.append_assoc]
    exact slice_append (List.length_append) (by rw [List.length_append])

theorem slice_ipv4Header (udpLen : Nat) (src4 dst4 segment : List UInt8) :
    slice 12 16 (ipv4Header udpLen src4 dst4 ++ segment) = field 4 src4 ∧
      slice 16 20 (ipv4Header udpLen src4 dst4 ++ segment) = field 4 dst4 := by
  rw [ipv4Header_eq, ← List.append_assoc _ (bytesOfUint16 _)]
  apply slice_two_fields <;> simp

theorem slice_ipv6Header (payloadLen : Nat) (nextHeader hopLimit : UInt8)
    (src6 dst6 segment : List UInt8) :
    slice 8 24 (ipv6Header payloadLen nextHeader hopLimit src6 dst6 ++ segment) = field 16 src6 ∧
      slice 24 40 (ipv6Header payloadLen nextHeader hopLimit src6 dst6 ++ segment) =
        field 16 dst6 := by
  rw [ipv6Header_eq]
  apply slice_two_fields <;> simp

theorem headerSum4_ipv4Header (udpLen : Nat) (src4 dst4 segment : List UInt8) :
    headerSum4 (ipv4Header udpLen src4 dst4 ++ segment) = 65535 := by
  have fieldsLength : (ipv4Fields udpLen src4 dst4).length ≤ 20 := by simp [ipv4Fields_eq]
  have header : slice 0 20 (ipv4Header udpLen src4 dst4 ++ segment) =
      ipv4Header udpLen src4 dst4 := by
    rw [slice, List.drop_zero, List.take_left' (length_ipv4Header udpLen src4 dst4)]
  rw [headerSum4, header, onesSum_eq, ipv4Header_eq, wordSum_filled (by simp), ← ipv4Fields_eq,
    (headerChecksum_spec fieldsLength).1]
  exact endAround_add_complement _

section Segments

variable {src dst segment : List UInt8}

theorem segmentSum4_eq {udpLen : Nat} (srcWhole : src = [] ∨ src.length = 4)
    (dstWhole : dst = [] ∨ dst.length = 4) (fits : segment.length ≤ 65535) :
    segmentSum4 (ipv4Header udpLen src dst ++ segment) =
      endAround (pseudoHeaderWords src dst protoUDP segment.length + wordSum segment) := by
  rcases slice_ipv4Header udpLen src dst segment with ⟨source, destination⟩
  have proto : byteAt (ipv4Header udpLen src dst ++ segment) 9 = protoUDP := by
    rw [ipv4Header_eq]
    rfl
  have even : (pseudoHeader4 (field 4 src) (field 4 dst) protoUDP segment.length).length % 2 = 0 := by
    simp [pseudoHeader4]
  rw [segmentSum4, source, destination, proto, List.drop_left' (length_ipv4Header _ _ _),
    List.length_append, length_ipv4Header, Nat.add_sub_cancel_left, onesSum_eq,
    wordSum_append _ _ even,
    wordSum_pseudoHeader4 (length_field 4 src) (length_field 4 dst) protoUDP fits,
    wordSum_field srcWhole, wordSum_field dstWhole]
  rfl

theorem segmentSum6_eq {payloadLen : Nat} {nextHeader hopLimit : UInt8}
    (srcWhole : src = [] ∨ src.length = 16) (dstWhole : dst = [] ∨ dst.length = 16)
    (fits : segment.length ≤ 65535) :
    segmentSum6 (ipv6Header payloadLen nextHeader hopLimit src dst ++ segment) =
      endAround (pseudoHeaderWords src dst nextHeader segment.length + wordSum segment) := by
  rcases slice_ipv6Header payloadLen nextHeader hopLimit src dst segment with
    ⟨source, destination⟩
  have next : byteAt (ipv6Header payloadLen nextHeader hopLimit src dst ++ segment) 6 =
      nextHeader := by
    rw [ipv6Header_eq]
    rfl
  have even : (pseudoHeader6 (field 16 src) (field 16 dst) nextHeader
      segment.length).length % 2 = 0 := by
    simp [pseudoHeader6]
  rw [segmentSum6, source, destination, next, List.drop_left' (length_ipv6Header _ _ _ _ _),
    List.length_append, length_ipv6Header, Nat.add_sub_cancel_left, onesSum_eq,
    wordSum_append _ _ even,
    wordSum_pseudoHeader6 (length_field 16 src) (length_field 16 dst) nextHeader fits,
    wordSum_field srcWhole, wordSum_field dstWhole]
  rfl

theorem wordSum_udpSegment (srcPort dstPort : UInt16) (payload : List UInt8) :
    wordSum (udpSegment src dst srcPort dstPort payload) =
      wordSum (udpFields srcPort dstPort payload) +
        (udpChecksum src dst (udpFields srcPort dstPort payload)).toNat := by
  rw [udpSegment_eq, wordSum_filled (by simp), ← udpFields_eq]

theorem length_udpFields (srcPort dstPort : UInt16) (payload : List UInt8) :
    (udpFields srcPort dstPort payload).length = 8 + payload.length := by
  simp [udpFields_eq]
  omega

variable (src dst) in
theorem length_udpSegment (srcPort dstPort : UInt16) (payload : List UInt8) :
    (udpSegment src dst srcPort dstPort payload).length = 8 + payload.length := by
  simp [udpSegment_eq]
  omega

theorem endAround_udpSegment (srcShort : src.length ≤ 16) (dstShort : dst.length ≤ 16)
    (srcPort dstPort : UInt16) {payload : List UInt8} (fits : 8 + payload.length ≤ 65535) :
    endAround (pseudoHeaderWords src dst protoUDP
        (udpSegment src dst srcPort dstPort payload).length +
      wordSum (udpSegment src dst srcPort dstPort payload)) = 65535 := by
  have fieldsFit : (udpFields srcPort dstPort payload).length ≤ 65535 := by
    rw [length_udpFields]
    exact fits
  have computed := (l4Checksum_spec protoUDP srcShort dstShort fieldsFit).1
  have sameLength : (udpSegment src dst srcPort dstPort payload).length =
      (udpFields srcPort dstPort payload).length := by
    rw [length_udpSegment, length_udpFields]
  rw [wordSum_udpSegment, sameLength, ← Nat.add_assoc]
  exact endAround_add_udp computed

theorem endAround_icmpMessage (srcShort : src.length ≤ 16) (dstShort : dst.length ≤ 16)
    {icmpBody : List UInt8} (long : 4 ≤ icmpBody.length) (fits : icmpBody.length ≤ 65535) :
    (icmpMessage src dst icmpBody).length = icmpBody.length ∧
      endAround (pseudoHeaderWords src dst protoICMPv6 (icmpMessage src dst icmpBody).length +
        wordSum (icmpMessage src dst icmpBody)) = 65535 := by
  rcases exists_icmpParts long with ⟨kind, code, first, second, rest, rfl⟩
  have unsummedFits : ([kind, code] ++ ([0, 0] ++ rest)).length ≤ 65535 := by
    simpa using fits
  have computed := (l4Checksum_spec protoICMPv6 srcShort dstShort unsummedFits).1
  have sameLength : (icmpMessage src dst ([kind, code] ++ ([first, second] ++ rest))).length =
      ([kind, code] ++ ([0, 0] ++ rest)).length := by
    rw [icmpMessage_eq]
    simp only [List.length_append, length_bytesOfUint16, List.length_cons, List.length_nil]
  refine ⟨sameLength, ?_⟩
  rw [sameLength, icmpMessage_eq, wordSum_filled (by simp), ← Nat.add_assoc, computed]
  exact endAround_add_complement _

end Segments

theorem udpChecksum_ne_zero (srcIP dstIP udp : List UInt8) : udpChecksum srcIP dstIP udp ≠ 0 := by
  unfold udpChecksum
  dsimp only
  split
  · decide
  · next computed => exact computed

theorem uint16At_udpSegment (srcIP dstIP : List UInt8) (srcPort dstPort : UInt16)
    (payload : List UInt8) :
    uint16At (udpSegment srcIP dstIP srcPort dstPort payload) 6 =
      udpChecksum srcIP dstIP (udpFields srcPort dstPort payload) := by
  rw [udpSegment_eq]
  exact uint16_bytesOfUint16 _

structure Summed4 (frame : List UInt8) : Prop where
  header : headerSum4 (frame.drop ethHeaderSize) = 0xFFFF
  segment : segmentSum4 (frame.drop ethHeaderSize) = 0xFFFF
  field : uint16At (frame.drop (ethHeaderSize + ipv4MinSize)) 6 ≠ 0

structure Summed6 (frame : List UInt8) : Prop where
  segment : segmentSum6 (frame.drop ethHeaderSize) = 0xFFFF
  field : uint16At (frame.drop (ethHeaderSize + ipv6HeaderSize)) 6 ≠ 0

theorem drop_headers {eth ip segment : List UInt8} {ipSize : Nat} (ethLength : eth.length = 14)
    (ipLength : ip.length = ipSize) :
    (eth ++ (ip ++ segment)).drop ethHeaderSize = ip ++ segment ∧
      (eth ++ (ip ++ segment)).drop (ethHeaderSize + ipSize) = segment := by
  have outer : (eth ++ (ip ++ segment)).drop ethHeaderSize = ip ++ segment :=
    List.drop_left' ethLength
  exact ⟨outer, by rw [← List.drop_drop, outer, List.drop_left' ipLength]⟩

section Frames

variable (srcMAC dstMAC srcIP dstIP : List UInt8) (srcPort dstPort : UInt16)

theorem craftUDP4_summed {payload : List UInt8} (fits : 28 + payload.length ≤ 65535) :
    Summed4 (craftUDP4 srcMAC dstMAC srcIP dstIP srcPort dstPort payload) := by
  have srcWhole := length_to4 srcIP
  have dstWhole := length_to4 dstIP
  have srcShort := length_le_of_nil_or srcWhole
  have dstShort := length_le_of_nil_or dstWhole
  rcases drop_headers (length_ethernetHeader srcMAC dstMAC etherTypeIPv4)
    (length_ipv4Header (udpHeaderSize + payload.length) (Netip.to4 srcIP) (Netip.to4 dstIP))
    with ⟨packet, segment⟩
  refine ⟨?_, ?_, ?_⟩
  · rw [craftUDP4, packet]
    exact headerSum4_ipv4Header _ _ _ _
  · rw [craftUDP4, packet, segmentSum4_eq srcWhole dstWhole (by rw [length_udpSegment]; omega)]
    exact endAround_udpSegment (by omega) (by omega) srcPort dstPort (by omega)
  · rw [craftUDP4]
    change uint16At (List.drop (ethHeaderSize + 20) _) 6 ≠ 0
    rw [segment, uint16At_udpSegment]
    exact udpChecksum_ne_zero _ _ _

theorem craftUDP6_summed {payload : List UInt8} (fits : 8 + payload.length ≤ 65535) :
    Summed6 (craftUDP6 srcMAC dstMAC srcIP dstIP srcPort dstPort payload) := by
  have srcWhole := length_to16 srcIP
  have dstWhole := length_to16 dstIP
  rcases drop_headers (length_ethernetHeader srcMAC dstMAC etherTypeIPv6)
    (length_ipv6Header (udpHeaderSize + payload.length) protoUDP 64 (Netip.to16 srcIP)
      (Netip.to16 dstIP)) with ⟨packet, segment⟩
  refine ⟨?_, ?_⟩
  · rw [craftUDP6, packet, segmentSum6_eq srcWhole dstWhole (by rw [length_udpSegment]; omega)]
    exact endAround_udpSegment (length_le_of_nil_or srcWhole) (length_le_of_nil_or dstWhole)
      srcPort dstPort fits
  · rw [craftUDP6]
    change uint16At (List.drop (ethHeaderSize + 40) _) 6 ≠ 0
    rw [segment, uint16At_udpSegment]
    exact udpChecksum_ne_zero _ _ _

theorem craftICMP6_summed {icmpBody : List UInt8} (hopLimit : UInt8)
    (long : 4 ≤ icmpBody.length) (fits : icmpBody.length ≤ 65535) :
    segmentSum6 ((craftICMP6 srcMAC dstMAC srcIP dstIP icmpBody hopLimit).drop ethHeaderSize) =
      0xFFFF := by
  have srcWhole := length_to16 srcIP
  have dstWhole := length_to16 dstIP
  rcases drop_headers (length_ethernetHeader srcMAC dstMAC etherTypeIPv6)
    (length_ipv6Header icmpBody.length protoICMPv6 hopLimit (Netip.to16 srcIP)
      (Netip.to16 dstIP)) with ⟨packet, _⟩
  rcases endAround_icmpMessage (length_le_of_nil_or srcWhole) (length_le_of_nil_or dstWhole) long
    fits with ⟨sameLength, ones⟩
  rw [craftICMP6, packet, segmentSum6_eq srcWhole dstWhole (by rw [sameLength]; exact fits)]
  exact ones

end Frames

/-- Every frame the three functions craft carries valid checksums, and no 32-bit addition on
the way to them wraps. -/
theorem craft_checksums_valid (srcMAC dstMAC srcIP dstIP : List UInt8) :
    (∀ (srcPort dstPort : UInt16) (payload : List UInt8), 28 + payload.length ≤ 65535 →
      Summed4 (craftUDP4 srcMAC dstMAC srcIP dstIP srcPort dstPort payload) ∧
      (headerChecksumExact (ipv4Fields (udpHeaderSize + payload.length) (Netip.to4 srcIP)
        (Netip.to4 dstIP))).isSome = true ∧
      (l4ChecksumExact (Netip.to4 srcIP) (Netip.to4 dstIP) protoUDP
        (udpFields srcPort dstPort payload)).isSome = true) ∧
    (∀ (srcPort dstPort : UInt16) (payload : List UInt8), 8 + payload.length ≤ 65535 →
      Summed6 (craftUDP6 srcMAC dstMAC srcIP dstIP srcPort dstPort payload) ∧
      (l4ChecksumExact (Netip.to16 srcIP) (Netip.to16 dstIP) protoUDP
        (udpFields srcPort dstPort payload)).isSome = true) ∧
    (∀ (icmpBody : List UInt8) (hopLimit : UInt8), 4 ≤ icmpBody.length →
      icmpBody.length ≤ 65535 →
      segmentSum6 ((craftICMP6 srcMAC dstMAC srcIP dstIP icmpBody hopLimit).drop ethHeaderSize) =
        0xFFFF ∧
      (l4ChecksumExact (Netip.to16 srcIP) (Netip.to16 dstIP) protoICMPv6
        (icmpFields icmpBody)).isSome = true) := by
  have src4 := length_le_of_nil_or (length_to4 srcIP)
  have dst4 := length_le_of_nil_or (length_to4 dstIP)
  have src6 := length_le_of_nil_or (length_to16 srcIP)
  have dst6 := length_le_of_nil_or (length_to16 dstIP)
  refine ⟨?_, ?_, ?_⟩
  · intro srcPort dstPort payload fits
    have segmentFits : (udpFields srcPort dstPort payload).length ≤ 65535 := by
      rw [length_udpFields]
      omega
    refine ⟨craftUDP4_summed srcMAC dstMAC srcIP dstIP srcPort dstPort fits, ?_, ?_⟩
    · rw [(headerChecksum_spec (by simp [ipv4Fields_eq])).2]
      rfl
    · rw [(l4Checksum_spec protoUDP (by omega) (by omega) segmentFits).2]
      rfl
  · intro srcPort dstPort payload fits
    have segmentFits : (udpFields srcPort dstPort payload).length ≤ 65535 := by
      rw [length_udpFields]
      exact fits
    refine ⟨craftUDP6_summed srcMAC dstMAC srcIP dstIP srcPort dstPort fits, ?_⟩
    rw [(l4Checksum_spec protoUDP src6 dst6 segmentFits).2]
    rfl
  · intro icmpBody hopLimit long fits
    have segmentFits : (icmpFields icmpBody).length ≤ 65535 := by
      simpa [icmpFields, setByte] using fits
    refine ⟨craftICMP6_summed srcMAC dstMAC srcIP dstIP hopLimit long fits, ?_⟩
    rw [(l4Checksum_spec protoICMPv6 src6 dst6 segmentFits).2]
    rfl

def routerIP6 : List UInt8 := [0xfe, 0x80, 0, 0, 0, 0, 0, 0, 0, 0, 0, 0, 0, 0, 0, 1]

def clientIP6 : List UInt8 := [0xfe, 0x80, 0, 0, 0, 0, 0, 0, 0, 0, 0, 0, 0, 0, 0, 0x42]

/-- Datagrams and a message of odd length, the message with ones in its checksum field. -/
theorem craft_checksums_valid_odd :
    Summed4 (craftUDP4 [2, 0, 0, 0, 0, 1] [2, 0, 0, 0, 0, 0x42] [192, 168, 50, 1]
      [192, 168, 50, 100] 67 68 [2, 1, 6]) ∧
    Summed6 (craftUDP6 [2, 0, 0, 0, 0, 1] [2, 0, 0, 0, 0, 0x42] routerIP6 clientIP6 547 546
      [7, 1, 2, 3, 0]) ∧
    segmentSum6 ((craftICMP6 [2, 0, 0, 0, 0, 1] [2, 0, 0, 0, 0, 0x42] routerIP6 clientIP6
      [134, 0, 255, 255, 64] 255).drop ethHeaderSize) = 0xFFFF :=
  ⟨((craft_checksums_valid _ _ [192, 168, 50, 1] [192, 168, 50, 100]).1 67 68 [2, 1, 6]
      (by decide)).1,
    ((craft_checksums_valid _ _ routerIP6 clientIP6).2.1 547 546 [7, 1, 2, 3, 0] (by decide)).1,
    ((craft_checksums_valid _ _ routerIP6 clientIP6).2.2 [134, 0, 255, 255, 64] 255 (by decide)
      (by decide)).1⟩

end BridgeDhcp.Packet
