/-
The parser never reads out of bounds and accepts exactly its grammar.

`checkedParse` is the source again with every index and slice expression checked against
the length of what it reads; it agrees with `parse` on every frame.
-/

import BridgeDhcp.Packet.Parse

set_option autoImplicit false

namespace BridgeDhcp.Packet

open GoBytes

/-! ### The parser with its bounds checks -/

/-- The outer option is none if an expression panics. -/
def checkedParseIPv4 (srcMAC body : List UInt8) : Option (Option Ingress) :=
  if body.length < ipv4MinSize then some none
  else do
    let version ← checkedIndex body 0
    if version >>> 4 ≠ 4 then some none
    else do
      let ihl := ((← checkedIndex body 0) &&& (0x0F : UInt8)).toNat * 4
      let totalLen := (← checkedUint16 2 4 body).toNat
      if ihl < ipv4MinSize ∨ totalLen < ihl ∨ totalLen > body.length then some none
      else do
        let fragField ← checkedUint16 6 8 body
        if fragField &&& (0x3FFF : UInt16) ≠ 0 then some none
        else do
          let proto ← checkedIndex body 9
          if proto ≠ protoUDP then some none
          else do
            let udp ← checkedSlice ihl totalLen body
            if udp.length < udpHeaderSize then some none
            else do
              let srcIP ← checkedSlice 12 16 body
              let dstIP ← checkedSlice 16 20 body
              let srcPort ← checkedUint16 0 2 udp
              let dstPort ← checkedUint16 2 4 udp
              let payload ← checkedSlice udpHeaderSize udp.length udp
              return some
                { srcMAC, isUDP4 := true, isUDP6 := false, isICMP6 := false
                  srcIP, dstIP, srcPort, dstPort, icmpTyp := 0, payload }

def checkedParseIPv6 (srcMAC body : List UInt8) : Option (Option Ingress) :=
  if body.length < ipv6HeaderSize then some none
  else do
    let version ← checkedIndex body 0
    if version >>> 4 ≠ 6 then some none
    else do
      let payloadLen := (← checkedUint16 4 6 body).toNat
      if ipv6HeaderSize + payloadLen > body.length then some none
      else do
        let srcIP ← checkedSlice 8 24 body
        let dstIP ← checkedSlice 24 40 body
        let rest ← checkedSlice ipv6HeaderSize (ipv6HeaderSize + payloadLen) body
        let nextHeader ← checkedIndex body 6
        if nextHeader = protoUDP then
          if rest.length < udpHeaderSize then some none
          else do
            let srcPort ← checkedUint16 0 2 rest
            let dstPort ← checkedUint16 2 4 rest
            let payload ← checkedSlice udpHeaderSize rest.length rest
            return some
              { srcMAC, isUDP4 := false, isUDP6 := true, isICMP6 := false
                srcIP, dstIP, srcPort, dstPort, icmpTyp := 0, payload }
        else if nextHeader = protoICMPv6 then
          if rest.length < 4 then some none
          else do
            let icmpTyp ← checkedIndex rest 0
            return some
              { srcMAC, isUDP4 := false, isUDP6 := false, isICMP6 := true
                srcIP, dstIP, srcPort := 0, dstPort := 0, icmpTyp, payload := rest }
        else some none

def checkedParse (frame : List UInt8) : Option (Option Ingress) :=
  if frame.length < ethHeaderSize then some none
  else do
    let srcMAC ← checkedSlice 6 12 frame
    let etherType ← checkedUint16 12 14 frame
    let body ← checkedSlice ethHeaderSize frame.length frame
    if etherType = etherTypeIPv4 then checkedParseIPv4 srcMAC body
    else if etherType = etherTypeIPv6 then checkedParseIPv6 srcMAC body
    else some none

/-! ### No expression panics -/

theorem checked_segment {segment : List UInt8} (long : ¬ segment.length < udpHeaderSize) :
    checkedUint16 0 2 segment = some (uint16At segment 0) ∧
      checkedUint16 2 4 segment = some (uint16At segment 2) ∧
      checkedSlice udpHeaderSize segment.length segment =
        some (segment.drop udpHeaderSize) := by
  have eight : udpHeaderSize = 8 := rfl
  refine ⟨checkedUint16_eq_some rfl (by omega), checkedUint16_eq_some rfl (by omega), ?_⟩
  rw [checkedSlice_eq_some (Nat.not_lt.mp long) (Nat.le_refl _), slice_length_eq_drop]

theorem checkedParseIPv4_eq (srcMAC body : List UInt8) :
    checkedParseIPv4 srcMAC body = some (parseIPv4 srcMAC body) := by
  unfold checkedParseIPv4 parseIPv4 headerLength4
  by_cases short : body.length < ipv4MinSize
  · rw [if_pos short, if_pos short]
  · -- the fixed part of the header is there
    have twenty : 20 ≤ body.length := Nat.not_lt.mp short
    have first : checkedIndex body 0 = some (byteAt body 0) := checkedIndex_eq_some (by omega)
    have proto : checkedIndex body 9 = some (byteAt body 9) := checkedIndex_eq_some (by omega)
    have total : checkedUint16 2 4 body = some (uint16At body 2) :=
      checkedUint16_eq_some rfl (by omega)
    have frag : checkedUint16 6 8 body = some (uint16At body 6) :=
      checkedUint16_eq_some rfl (by omega)
    have srcIP : checkedSlice 12 16 body = some (slice 12 16 body) :=
      checkedSlice_eq_some (by omega) (by omega)
    have dstIP : checkedSlice 16 20 body = some (slice 16 20 body) :=
      checkedSlice_eq_some (by omega) (by omega)
    simp only [if_neg short, first, proto, total, frag, srcIP, dstIP, Option.bind_eq_bind,
      Option.bind_some]
    split
    · rfl
    · split
      · rfl
      · next lengths =>
          have ordered : (byteAt body 0 &&& (0x0F : UInt8)).toNat * 4 ≤ (uint16At body 2).toNat := by
            omega
          rw [checkedSlice_eq_some ordered (by omega), Option.bind_some]
          split
          · rfl
          · split
            · rfl
            · split
              · rfl
              · next long =>
                  obtain ⟨srcPort, dstPort, payload⟩ := checked_segment long
                  rw [srcPort, dstPort, payload]
                  rfl

theorem checkedParseIPv6_eq (srcMAC body : List UInt8) :
    checkedParseIPv6 srcMAC body = some (parseIPv6 srcMAC body) := by
  unfold checkedParseIPv6 parseIPv6
  by_cases short : body.length < ipv6HeaderSize
  · rw [if_pos short, if_pos short]
  · have forty : 40 ≤ body.length := Nat.not_lt.mp short
    have first : checkedIndex body 0 = some (byteAt body 0) := checkedIndex_eq_some (by omega)
    have next : checkedIndex body 6 = some (byteAt body 6) := checkedIndex_eq_some (by omega)
    have declared : checkedUint16 4 6 body = some (uint16At body 4) :=
      checkedUint16_eq_some rfl (by omega)
    have srcIP : checkedSlice 8 24 body = some (slice 8 24 body) :=
      checkedSlice_eq_some (by omega) (by omega)
    have dstIP : checkedSlice 24 40 body = some (slice 24 40 body) :=
      checkedSlice_eq_some (by omega) (by omega)
    simp only [if_neg short, first, next, declared, srcIP, dstIP, Option.bind_eq_bind,
      Option.bind_some]
    split
    · rfl
    · split
      · rfl
      · next lengths =>
          rw [checkedSlice_eq_some (Nat.le_add_right _ _) (Nat.not_lt.mp lengths),
            Option.bind_some]
          split
          · split
            · rfl
            · next long =>
                obtain ⟨srcPort, dstPort, payload⟩ := checked_segment long
                rw [srcPort, dstPort, payload]
                rfl
          · split
            · split
              · rfl
              · next long =>
                  rw [checkedIndex_eq_some (by omega)]
                  rfl
            · rfl

theorem checkedParse_eq (frame : List UInt8) : checkedParse frame = some (parse frame) := by
  unfold checkedParse parse
  by_cases short : frame.length < ethHeaderSize
  · rw [if_pos short, if_pos short]
  · have fourteen : 14 ≤ frame.length := Nat.not_lt.mp short
    have srcMAC : checkedSlice 6 12 frame = some (slice 6 12 frame) :=
      checkedSlice_eq_some (by omega) (by omega)
    have etherType : checkedUint16 12 14 frame = some (uint16At frame 12) :=
      checkedUint16_eq_some rfl (by omega)
    have body : checkedSlice ethHeaderSize frame.length frame =
        some (frame.drop ethHeaderSize) := by
      rw [checkedSlice_eq_some (Nat.not_lt.mp short) (Nat.le_refl _), slice_length_eq_drop]
    simp only [if_neg short, srcMAC, etherType, body, Option.bind_eq_bind, Option.bind_some]
    split
    · exact checkedParseIPv4_eq _ _
    · split
      · exact checkedParseIPv6_eq _ _
      · rfl

/-! ### The grammar -/

def numberAt (frame : List UInt8) (index : Nat) : Nat :=
  (byteAt frame index).toNat * 256 + (byteAt frame (index + 1)).toNat

/-- The frames that are accepted; an offset in the IP header is counted from the
end of the ethernet header. -/
inductive Grammar (frame : List UInt8) : Prop
  | udp4
      (ethernet : 14 ≤ frame.length)
      (etherType : numberAt frame 12 = 0x0800)
      (version : (byteAt frame 14).toNat / 16 = 4)
      (headerWords : 5 ≤ (byteAt frame 14).toNat % 16)
      (header : (byteAt frame 14).toNat % 16 * 4 ≤ numberAt frame 16)
      (total : numberAt frame 16 ≤ frame.length - 14)
      (moreFragments : (byteAt frame 20).toNat / 32 % 2 = 0)
      (fragmentOffset : (byteAt frame 20).toNat % 32 * 256 + (byteAt frame 21).toNat = 0)
      (protocol : (byteAt frame 23).toNat = 17)
      (segment : (byteAt frame 14).toNat % 16 * 4 + 8 ≤ numberAt frame 16)
  | udp6
      (ethernet : 14 ≤ frame.length)
      (etherType : numberAt frame 12 = 0x86DD)
      (version : (byteAt frame 14).toNat / 16 = 6)
      (total : 40 + numberAt frame 18 ≤ frame.length - 14)
      (nextHeader : (byteAt frame 20).toNat = 17)
      (segment : 8 ≤ numberAt frame 18)
  | icmp6
      (ethernet : 14 ≤ frame.length)
      (etherType : numberAt frame 12 = 0x86DD)
      (version : (byteAt frame 14).toNat / 16 = 6)
      (total : 40 + numberAt frame 18 ≤ frame.length - 14)
      (nextHeader : (byteAt frame 20).toNat = 58)
      (segment : 4 ≤ numberAt frame 18)

/-! ### The tests of the parser on numbers -/

theorem toNat_uint16At (bytes : List UInt8) (index : Nat) :
    (uint16At bytes index).toNat = numberAt bytes index :=
  toNat_uint16 _ _

theorem uint16At_eq_iff (bytes : List UInt8) (index : Nat) (value : UInt16) :
    uint16At bytes index = value ↔ numberAt bytes index = value.toNat := by
  rw [← UInt16.toNat_inj, toNat_uint16At]

theorem highNibble_eq_iff (byte : UInt8) (value : UInt8) :
    byte >>> 4 = value ↔ byte.toNat / 16 = value.toNat := by
  rw [← UInt8.toNat_inj, UInt8.toNat_shiftRight]
  simp [Nat.shiftRight_eq_div_pow]

theorem toNat_lowNibble (byte : UInt8) : (byte &&& (0x0F : UInt8)).toNat = byte.toNat % 16 := by
  rw [UInt8.toNat_and]
  exact Nat.and_two_pow_sub_one_eq_mod byte.toNat 4

theorem unfragmented_iff (bytes : List UInt8) (index : Nat) :
    uint16At bytes index &&& (0x3FFF : UInt16) = 0 ↔
      (byteAt bytes index).toNat / 32 % 2 = 0 ∧
        (byteAt bytes index).toNat % 32 * 256 + (byteAt bytes (index + 1)).toNat = 0 := by
  have low : (uint16At bytes index).toNat &&& 0x3FFF = numberAt bytes index % 16384 := by
    rw [toNat_uint16At]
    exact Nat.and_two_pow_sub_one_eq_mod _ 14
  have second := (byteAt bytes (index + 1)).toNat_lt
  rw [← UInt16.toNat_inj, UInt16.toNat_and]
  change (uint16At bytes index).toNat &&& 0x3FFF = 0 ↔ _
  rw [low, numberAt]
  omega

theorem headerLength4_drop (frame : List UInt8) :
    headerLength4 (frame.drop 14) = (byteAt frame 14).toNat % 16 * 4 := by
  rw [headerLength4, toNat_lowNibble, byteAt_drop]

theorem numberAt_drop (frame : List UInt8) (index : Nat) :
    numberAt (frame.drop 14) index = numberAt frame (14 + index) := by
  rw [← toNat_uint16At, uint16At_drop, toNat_uint16At]

theorem wellformed4_iff (frame : List UInt8) (ethernet : 14 ≤ frame.length)
    (etherType : numberAt frame 12 = 0x0800) :
    Wellformed4 (frame.drop 14) ↔ Grammar frame := by
  have size : udpHeaderSize = 8 := rfl
  have least : ipv4MinSize = 20 := rfl
  have length : (frame.drop 14).length = frame.length - 14 := List.length_drop
  have total : numberAt (frame.drop 14) 2 = numberAt frame 16 := numberAt_drop frame 2
  have proto := byteAt_drop 14 9 frame
  have first := byteAt_drop 14 0 frame
  constructor
  · intro checks
    have header := checks.header
    have segment := checks.segment
    have within := checks.total
    rw [headerLength4_drop, least] at header
    rw [headerLength4_drop, toNat_uint16At, total, size] at segment
    rw [toNat_uint16At, total, length] at within
    obtain ⟨more, offset⟩ := (unfragmented_iff _ 6).mp checks.unfragmented
    rw [byteAt_drop] at more
    rw [byteAt_drop, byteAt_drop] at offset
    refine .udp4 ethernet etherType ?_ (by omega) (by omega) within more offset ?_ segment
    · have version := (highNibble_eq_iff _ _).mp checks.version
      rw [first] at version
      exact version
    · rw [← proto, checks.proto]
      rfl
  · intro grammar
    cases grammar with
    | udp4 _ _ version headerWords header within more offset protocol segment =>
        constructor
        · omega
        · rw [highNibble_eq_iff, first]
          exact version
        · rw [headerLength4_drop]
          omega
        · rw [headerLength4_drop, toNat_uint16At, total]
          exact segment
        · rw [toNat_uint16At, total, length]
          exact within
        · rw [unfragmented_iff, byteAt_drop, byteAt_drop]
          exact ⟨more, offset⟩
        · rw [proto, ← UInt8.toNat_inj]
          exact protocol
    | udp6 _ other =>
        rw [etherType] at other
        cases other
    | icmp6 _ other =>
        rw [etherType] at other
        cases other

theorem wellformed6_iff (frame : List UInt8) :
    Wellformed6 (frame.drop 14) ↔
      (byteAt frame 14).toNat / 16 = 6 ∧ 40 + numberAt frame 18 ≤ frame.length - 14 := by
  have least : ipv6HeaderSize = 40 := rfl
  have length : (frame.drop 14).length = frame.length - 14 := List.length_drop
  have first := byteAt_drop 14 0 frame
  constructor
  · intro checks
    have version := (highNibble_eq_iff _ _).mp checks.version
    have within := checks.total
    rw [first] at version
    rw [toNat_uint16At, numberAt_drop, length] at within
    exact ⟨version, within⟩
  · rintro ⟨version, within⟩
    constructor
    · omega
    · rw [highNibble_eq_iff, first]
      exact version
    · rw [toNat_uint16At, numberAt_drop, length]
      exact within

theorem exists_parseIPv6_iff (srcMAC frame : List UInt8) (ethernet : 14 ≤ frame.length)
    (etherType : numberAt frame 12 = 0x86DD) :
    (∃ pkt, parseIPv6 srcMAC (frame.drop 14) = some pkt) ↔ Grammar frame := by
  have next := byteAt_drop 14 6 frame
  have declared : (uint16At (frame.drop 14) 4).toNat = numberAt frame 18 := by
    rw [toNat_uint16At, numberAt_drop]
  constructor
  · rintro ⟨pkt, parsed⟩
    obtain ⟨checks, kinds⟩ := (parseIPv6_eq_some_iff _ _ _).mp parsed
    obtain ⟨version, within⟩ := (wellformed6_iff frame).mp checks
    rw [next, declared] at kinds
    rcases kinds with ⟨proto, segment, _⟩ | ⟨proto, segment, _⟩
    · exact .udp6 ethernet etherType version within (by rw [proto]; rfl) segment
    · exact .icmp6 ethernet etherType version within (by rw [proto]; rfl) segment
  · intro grammar
    cases grammar with
    | udp4 _ other =>
        rw [etherType] at other
        cases other
    | udp6 _ _ version within nextHeader segment =>
        refine ⟨_, (parseIPv6_eq_some_iff _ _ _).mpr
          ⟨(wellformed6_iff frame).mpr ⟨version, within⟩, .inl ⟨?_, ?_, rfl⟩⟩⟩
        · rw [next, ← UInt8.toNat_inj]
          exact nextHeader
        · rw [declared]
          exact segment
    | icmp6 _ _ version within nextHeader segment =>
        refine ⟨_, (parseIPv6_eq_some_iff _ _ _).mpr
          ⟨(wellformed6_iff frame).mpr ⟨version, within⟩, .inr ⟨?_, ?_, rfl⟩⟩⟩
        · rw [next, ← UInt8.toNat_inj]
          exact nextHeader
        · rw [declared]
          exact segment

theorem Grammar.ethernet {frame : List UInt8} (grammar : Grammar frame) :
    14 ≤ frame.length ∧ (numberAt frame 12 = 0x0800 ∨ numberAt frame 12 = 0x86DD) := by
  cases grammar with
  | udp4 ethernet etherType => exact ⟨ethernet, .inl etherType⟩
  | udp6 ethernet etherType => exact ⟨ethernet, .inr etherType⟩
  | icmp6 ethernet etherType => exact ⟨ethernet, .inr etherType⟩

theorem exists_parse_iff_grammar (frame : List UInt8) :
    (∃ pkt, parse frame = some pkt) ↔ Grammar frame := by
  simp only [parse_eq_some_iff, uint16At_eq_iff]
  change (∃ pkt, 14 ≤ frame.length ∧
    (numberAt frame 12 = 0x0800 ∧ parseIPv4 _ (frame.drop 14) = some pkt ∨
      numberAt frame 12 = 0x86DD ∧ parseIPv6 _ (frame.drop 14) = some pkt)) ↔ _
  constructor
  · rintro ⟨pkt, ethernet, ⟨etherType, parsed⟩ | ⟨etherType, parsed⟩⟩
    · exact (wellformed4_iff frame ethernet etherType).mp
        ((parseIPv4_eq_some_iff _ _ _).mp parsed).1
    · exact (exists_parseIPv6_iff _ frame ethernet etherType).mp ⟨pkt, parsed⟩
  · intro grammar
    obtain ⟨ethernet, etherType | etherType⟩ := grammar.ethernet
    · exact ⟨_, ethernet, .inl ⟨etherType, (parseIPv4_eq_some_iff _ _ _).mpr
        ⟨(wellformed4_iff frame ethernet etherType).mpr grammar, rfl⟩⟩⟩
    · obtain ⟨pkt, parsed⟩ :=
        (exists_parseIPv6_iff (slice 6 12 frame) frame ethernet etherType).mpr grammar
      exact ⟨pkt, ethernet, .inr ⟨etherType, parsed⟩⟩

/-! ### Bytes beyond the declared length -/

def declaredEnd (frame : List UInt8) : Nat :=
  if numberAt frame 12 = 0x0800 then 14 + numberAt frame 16 else 54 + numberAt frame 18

theorem parseIPv4_padded {srcMAC body : List UInt8} {pkt : Ingress}
    (parsed : parseIPv4 srcMAC body = some pkt) (padding : List UInt8) :
    parseIPv4 srcMAC (body.take (uint16At body 2).toNat ++ padding) = some pkt := by
  obtain ⟨checks, rfl⟩ := (parseIPv4_eq_some_iff _ _ _).mp parsed
  have size : udpHeaderSize = 8 := rfl
  have least : ipv4MinSize = 20 := rfl
  have header := checks.header
  have segment := checks.segment
  have within := checks.total
  have twenty : 20 < (uint16At body 2).toNat := by omega
  have first : byteAt (body.take (uint16At body 2).toNat ++ padding) 0 = byteAt body 0 :=
    byteAt_take_append padding (by omega) within
  have proto : byteAt (body.take (uint16At body 2).toNat ++ padding) 9 = byteAt body 9 :=
    byteAt_take_append padding (by omega) within
  have total : uint16At (body.take (uint16At body 2).toNat ++ padding) 2 = uint16At body 2 :=
    uint16At_take_append padding (by omega) within
  have frag : uint16At (body.take (uint16At body 2).toNat ++ padding) 6 = uint16At body 6 :=
    uint16At_take_append padding (by omega) within
  have ihl : headerLength4 (body.take (uint16At body 2).toNat ++ padding) =
      headerLength4 body := by
    rw [headerLength4, first, headerLength4]
  have length : (uint16At body 2).toNat ≤
      (body.take (uint16At body 2).toNat ++ padding).length := by
    rw [List.length_append, List.length_take, Nat.min_eq_left within]
    omega
  rw [parseIPv4_eq_some_iff, total, ihl, slice_take_append padding (by omega) within,
    slice_take_append padding (by omega) within,
    slice_take_append padding (Nat.le_refl _) within]
  refine ⟨⟨by omega, ?_, ?_, ?_, ?_, ?_, ?_⟩, rfl⟩
  · rw [first]
    exact checks.version
  · rw [ihl]
    exact checks.header
  · rw [ihl, total]
    exact checks.segment
  · rw [total]
    exact length
  · rw [frag]
    exact checks.unfragmented
  · rw [proto]
    exact checks.proto

theorem parseIPv6_padded {srcMAC body : List UInt8} {pkt : Ingress}
    (parsed : parseIPv6 srcMAC body = some pkt) (padding : List UInt8) :
    parseIPv6 srcMAC (body.take (40 + (uint16At body 4).toNat) ++ padding) = some pkt := by
  obtain ⟨checks, kinds⟩ := (parseIPv6_eq_some_iff _ _ _).mp parsed
  have least : ipv6HeaderSize = 40 := rfl
  have within : 40 + (uint16At body 4).toNat ≤ body.length := checks.total
  have first : byteAt (body.take (40 + (uint16At body 4).toNat) ++ padding) 0 = byteAt body 0 :=
    byteAt_take_append padding (by omega) within
  have next : byteAt (body.take (40 + (uint16At body 4).toNat) ++ padding) 6 = byteAt body 6 :=
    byteAt_take_append padding (by omega) within
  have declared : uint16At (body.take (40 + (uint16At body 4).toNat) ++ padding) 4 =
      uint16At body 4 :=
    uint16At_take_append padding (by omega) within
  have rest : rest6 (body.take (40 + (uint16At body 4).toNat) ++ padding) = rest6 body := by
    rw [rest6, declared, rest6]
    exact slice_take_append padding (Nat.le_refl _) within
  have length : 40 + (uint16At body 4).toNat ≤
      (body.take (40 + (uint16At body 4).toNat) ++ padding).length := by
    rw [List.length_append, List.length_take, Nat.min_eq_left within]
    omega
  rw [parseIPv6_eq_some_iff, next, declared, rest, slice_take_append padding (by omega) within,
    slice_take_append padding (by omega) within]
  refine ⟨⟨by omega, ?_, ?_⟩, kinds⟩
  · rw [first]
    exact checks.version
  · rw [declared]
    exact length

theorem parseIPv4_payload {srcMAC frame : List UInt8} {pkt : Ingress}
    (parsed : parseIPv4 srcMAC (frame.drop 14) = some pkt) :
    ∃ start, start ≤ 14 + numberAt frame 16 ∧ 14 + numberAt frame 16 ≤ frame.length ∧
      pkt.payload = slice start (14 + numberAt frame 16) frame := by
  obtain ⟨checks, rfl⟩ := (parseIPv4_eq_some_iff _ _ _).mp parsed
  have size : udpHeaderSize = 8 := rfl
  have segment := checks.segment
  have within := checks.total
  have total : (uint16At (frame.drop 14) 2).toNat = numberAt frame 16 := by
    rw [toNat_uint16At, numberAt_drop]
  rw [total] at segment within
  rw [List.length_drop] at within
  refine ⟨14 + (headerLength4 (frame.drop 14) + udpHeaderSize), by omega, by omega, ?_⟩
  dsimp only
  rw [total, drop_slice, slice_drop]

theorem parseIPv6_payload {srcMAC frame : List UInt8} {pkt : Ingress}
    (parsed : parseIPv6 srcMAC (frame.drop 14) = some pkt) :
    ∃ start, start ≤ 54 + numberAt frame 18 ∧ 54 + numberAt frame 18 ≤ frame.length ∧
      pkt.payload = slice start (54 + numberAt frame 18) frame := by
  obtain ⟨checks, kinds⟩ := (parseIPv6_eq_some_iff _ _ _).mp parsed
  have size : udpHeaderSize = 8 := rfl
  have within := checks.total
  have declared : (uint16At (frame.drop 14) 4).toNat = numberAt frame 18 := by
    rw [toNat_uint16At, numberAt_drop]
  have rest : rest6 (frame.drop 14) = slice 54 (54 + numberAt frame 18) frame := by
    rw [rest6, declared, slice_drop, ← Nat.add_assoc]
    rfl
  rw [declared, List.length_drop] at within
  rw [declared] at kinds
  have bound : 54 + numberAt frame 18 ≤ frame.length := by
    change 40 + numberAt frame 18 ≤ frame.length - 14 at within
    omega
  rcases kinds with ⟨_, segment, rfl⟩ | ⟨_, _, rfl⟩
  · refine ⟨54 + udpHeaderSize, by omega, bound, ?_⟩
    dsimp only
    rw [rest, drop_slice]
  · exact ⟨54, by omega, bound, rest⟩

theorem parse_declaredEnd {frame : List UInt8} {pkt : Ingress} (parsed : parse frame = some pkt) :
    (uint16At frame 12 = etherTypeIPv4 ∧ declaredEnd frame = 14 + numberAt frame 16 ∧
        parseIPv4 (slice 6 12 frame) (frame.drop 14) = some pkt) ∨
      (uint16At frame 12 = etherTypeIPv6 ∧ declaredEnd frame = 54 + numberAt frame 18 ∧
        parseIPv6 (slice 6 12 frame) (frame.drop 14) = some pkt) := by
  obtain ⟨_, ⟨etherType, found⟩ | ⟨etherType, found⟩⟩ := (parse_eq_some_iff frame pkt).mp parsed
  · have number : numberAt frame 12 = 0x0800 := (uint16At_eq_iff _ _ _).mp etherType
    exact .inl ⟨etherType, if_pos number, found⟩
  · have number : numberAt frame 12 = 0x86DD := (uint16At_eq_iff _ _ _).mp etherType
    have other : numberAt frame 12 ≠ 0x0800 := by
      rw [number]
      decide
    exact .inr ⟨etherType, if_neg other, found⟩

theorem parse_payload {frame : List UInt8} {pkt : Ingress} (parsed : parse frame = some pkt) :
    ∃ start, start ≤ declaredEnd frame ∧ declaredEnd frame ≤ frame.length ∧
      pkt.payload = slice start (declaredEnd frame) frame := by
  rcases parse_declaredEnd parsed with ⟨_, ends, found⟩ | ⟨_, ends, found⟩
  · rw [ends]
    exact parseIPv4_payload found
  · rw [ends]
    exact parseIPv6_payload found

theorem parse_padded {frame : List UInt8} {pkt : Ingress} (parsed : parse frame = some pkt)
    (padding : List UInt8) :
    parse (frame.take (declaredEnd frame) ++ padding) = some pkt := by
  obtain ⟨_, _, within, _⟩ := parse_payload parsed
  have fourteen : 14 ≤ declaredEnd frame := by
    unfold declaredEnd
    split <;> omega
  have length : (frame.take (declaredEnd frame)).length = declaredEnd frame := by
    rw [List.length_take, Nat.min_eq_left within]
  have long : 14 ≤ (frame.take (declaredEnd frame) ++ padding).length := by
    rw [List.length_append, length]
    omega
  have body : (frame.take (declaredEnd frame) ++ padding).drop 14 =
      (frame.drop 14).take (declaredEnd frame - 14) ++ padding := by
    rw [List.drop_append_of_le_length (length.symm ▸ fourteen), List.drop_take]
  have srcMAC : slice 6 12 (frame.take (declaredEnd frame) ++ padding) = slice 6 12 frame :=
    slice_take_append padding (by omega) within
  have kind : uint16At (frame.take (declaredEnd frame) ++ padding) 12 = uint16At frame 12 :=
    uint16At_take_append padding (by omega) within
  rw [parse_eq_some_iff, srcMAC, kind]
  refine ⟨long, ?_⟩
  change _ ∧ parseIPv4 _ ((frame.take (declaredEnd frame) ++ padding).drop 14) = _ ∨
    _ ∧ parseIPv6 _ ((frame.take (declaredEnd frame) ++ padding).drop 14) = _
  rw [body]
  rcases parse_declaredEnd parsed with ⟨etherType, ends, found⟩ | ⟨etherType, ends, found⟩
  · have total : declaredEnd frame - 14 = (uint16At (frame.drop 14) 2).toNat := by
      rw [toNat_uint16At, numberAt_drop, ends, Nat.add_sub_cancel_left]
    rw [total]
    exact .inl ⟨etherType, parseIPv4_padded found padding⟩
  · have total : declaredEnd frame - 14 = 40 + (uint16At (frame.drop 14) 4).toNat := by
      rw [toNat_uint16At, numberAt_drop, ends]
      change 54 + numberAt frame 18 - 14 = 40 + numberAt frame 18
      omega
    rw [total]
    exact .inr ⟨etherType, parseIPv6_padded found padding⟩

/-- No expression of the parser is out of bounds, it accepts exactly the frames of
the grammar, and the packet it returns has its payload within the declared length
and is the same whatever follows that length. -/
theorem parse_safe_and_exact (frame : List UInt8) :
    checkedParse frame = some (parse frame) ∧
    ((∃ pkt, parse frame = some pkt) ↔ Grammar frame) ∧
    (∀ pkt, parse frame = some pkt →
      (∃ start, start ≤ declaredEnd frame ∧ declaredEnd frame ≤ frame.length ∧
        pkt.payload = slice start (declaredEnd frame) frame) ∧
      ∀ padding, parse (frame.take (declaredEnd frame) ++ padding) = some pkt) :=
  ⟨checkedParse_eq frame, exists_parse_iff_grammar frame, fun _ parsed =>
    ⟨parse_payload parsed, parse_padded parsed⟩⟩

end BridgeDhcp.Packet
