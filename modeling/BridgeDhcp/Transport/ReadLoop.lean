/-
The reader of a served interface, from the bytes of a frame to the bytes of an answer.

`readLoop` reads what the socket filter admits, parses it and offers it to the three
servers in turn.
-/

import BridgeDhcp.Server.AdvertBytes
import BridgeDhcp.StepRun
import BridgeDhcp.Transport.Filter

set_option autoImplicit false

namespace BridgeDhcp.Transport

open GoBytes ClassicBpf Packet Server Netip GoMap

/-! ### The reader -/

structure Codec where
  lib4 : Library4
  lib6 : Library6
  toBytes4 : DHCPv4 → List UInt8
  toBytes6 : DHCPv6 → List UInt8

structure Station where
  d4 : AddressServer
  d6 : AddressServer
  ra : RAServer

structure Circumstance where
  env : Env
  now : Int
  orders4 : RangeOrders
  orders6 : RangeOrders
  prefixOrders : PrefixOrders
  advertOrder : RangeOrder (Prefix × Bool)

def Codec.frame4 (codec : Codec) (frame : UdpFrame DHCPv4) : List UInt8 :=
  craftUDP4 frame.srcMAC frame.dstMAC frame.srcIP frame.dstIP frame.srcPort frame.dstPort
    (codec.toBytes4 frame.message)

def Codec.frame6 (codec : Codec) (frame : UdpFrame DHCPv6) : List UInt8 :=
  craftUDP6 frame.srcMAC frame.dstMAC frame.srcIP frame.dstIP frame.srcPort frame.dstPort
    (codec.toBytes6 frame.message)

/-- The frame of `transmitRA`, as a list that may be empty. -/
def Circumstance.advert (during : Circumstance) (cfg : RAConfig) (prefixes : Map Prefix Bool)
    (routerLifetime : UInt16) (dst : Destination) : List (List UInt8) :=
  (advertFrame cfg during.env.mac during.advertOrder prefixes routerLifetime during.env.linkLocal
    dst).toList

section Reading

variable (codec : Codec)

def Station.send (station : Station) (during : Circumstance) (dst : Destination) :
    Station × List (List UInt8) :=
  let (ra, prefixes) := currentPrefixes during.prefixOrders during.env.v6.toList station.ra
  ({ station with ra := ra },
    during.advert station.ra.cfg prefixes (seconds16 station.ra.cfg.routerLifetime) dst)

def Station.handleFrame (station : Station) (during : Circumstance) (pkt : Ingress) :
    Station × List (List UInt8) :=
  let four := handleFrame4 codec.lib4 during.env during.orders4 during.now station.d4 pkt
  let station := { station with d4 := four.server }
  if four.consumed then (station, four.written.map codec.frame4)
  else
    let six := handleFrame6 codec.lib6 during.env during.orders6 during.now station.d6 pkt
    let station := { station with d6 := six.server }
    if six.consumed then (station, six.written.map codec.frame6)
    else
      match (handleSolicit station.ra.cfg pkt).2 with
      | none => (station, [])
      | some dst => station.send during dst

/-- One turn of `readLoop`; the buffer cuts the frame. -/
def Station.read (station : Station) (during : Circumstance) (frame : List UInt8) :
    Station × List (List UInt8) :=
  match parse (frame.take 2048) with
  | none => (station, [])
  | some pkt => station.handleFrame codec during pkt

inductive Occasion where
  | arrival (during : Circumstance) (skb : Skb)
  /-- A turn of the loop of the router advertisements. -/
  | advertise (during : Circumstance)
  | farewell (during : Circumstance)
  /-- The sweeper, the API and the delegated prefix change the servers. -/
  | change (act : Station → Station)

variable (listens : Skb → Bool)

/-- The servers and the frames written on an occasion, if the socket hears what
`listens` lets through. -/
def Station.meet (station : Station) : Occasion → Station × List (List UInt8)
  | .arrival during skb =>
      if listens skb then station.read codec during skb.frame else (station, [])
  | .advertise during =>
      if station.ra.cfg.enabled then station.send during allNodes else (station, [])
  | .farewell during =>
      (station, if station.ra.cfg.enabled then
        during.advert station.ra.cfg (finalPrefixes during.env.v6.toList) 0 allNodes else [])
  | .change act => (act station, [])

theorem Station.meet_arrival (station : Station) (during : Circumstance) (skb : Skb) :
    station.meet codec listens (.arrival during skb) =
      if listens skb then station.read codec during skb.frame else (station, []) := rfl

def step (state : Station × List (List UInt8)) (occasion : Occasion) :
    Station × List (List UInt8) :=
  let met := state.1.meet codec listens occasion
  (met.1, state.2 ++ met.2)

end Reading

def runFrom (codec : Codec) (listens : Skb → Bool) (station : Station)
    (occasions : List Occasion) : Station × List (List UInt8) :=
  StepRun.run (step codec listens) (station, []) occasions

theorem run_filter {codec : Codec} {listens hears : Skb → Bool} {keep : Occasion → Bool}
    (same : ∀ (station : Station) occasion, keep occasion = true →
      station.meet codec listens occasion = station.meet codec hears occasion)
    (idle : ∀ (station : Station) occasion, keep occasion = false →
      station.meet codec listens occasion = (station, []))
    (state : Station × List (List UInt8)) (occasions : List Occasion) :
    StepRun.run (step codec listens) state occasions =
      StepRun.run (step codec hears) state (occasions.filter keep) := by
  induction occasions generalizing state with
  | nil => rfl
  | cons occasion rest ih =>
      rw [StepRun.run_cons, ih]
      cases kept : keep occasion with
      | true =>
          have met : step codec listens state occasion = step codec hears state occasion := by
            unfold step
            rw [same state.1 occasion kept]
          rw [List.filter_cons_of_pos kept, StepRun.run_cons, met]
      | false =>
          have passed : step codec listens state occasion = state := by
            unfold step
            rw [idle state.1 occasion kept]
            exact Prod.ext rfl (List.append_nil state.2)
          rw [List.filter_cons_of_neg (by rw [kept]; exact Bool.false_ne_true), passed]

/-! ### The filter -/

section Unwanted

variable {pkt : Ingress} (env : Env) (orders : RangeOrders) (now : Int) (server : AddressServer)

theorem handleFrame4_unwanted (lib : Library4) (unwanted : ¬ (pkt.isUDP4 = true ∧ pkt.dstPort = 67)) :
    handleFrame4 lib env orders now server pkt =
      { consumed := false, server := server, written := [] } := by
  have other : (!pkt.isUDP4 || pkt.dstPort != dhcp4ServerPort) = true := by
    simpa [dhcp4ServerPort, imp_iff_not_or] using unwanted
  unfold handleFrame4
  rw [if_pos other]

theorem handleFrame6_unwanted (lib : Library6) (unwanted : ¬ (pkt.isUDP6 = true ∧ pkt.dstPort = 547)) :
    handleFrame6 lib env orders now server pkt =
      { consumed := false, server := server, written := [] } := by
  have other : (!pkt.isUDP6 || pkt.dstPort != dhcp6ServerPort) = true := by
    simpa [dhcp6ServerPort, imp_iff_not_or] using unwanted
  unfold handleFrame6
  rw [if_pos other]

theorem handleSolicit_unwanted (cfg : RAConfig)
    (unwanted : ¬ (pkt.isICMP6 = true ∧ pkt.icmpTyp = 133)) : (handleSolicit cfg pkt).2 = none := by
  have other : pkt.isICMP6 = false ∨ pkt.icmpTyp ≠ icmpv6TypeRouterSolicit := by
    rw [← Bool.not_eq_true, ← not_and_or]
    exact unwanted
  unfold handleSolicit
  rw [if_pos other]

end Unwanted

theorem Station.handleFrame_unwanted {pkt : Ingress} (unwanted : ¬ Wanted pkt) (codec : Codec)
    (station : Station) (during : Circumstance) :
    station.handleFrame codec during pkt = (station, []) := by
  unfold Wanted at unwanted
  have not4 := fun is4 => unwanted (Or.inl is4)
  have not6 := fun is6 => unwanted (Or.inr (Or.inl is6))
  have notRS := fun isRS => unwanted (Or.inr (Or.inr isRS))
  unfold Station.handleFrame
  rw [handleFrame4_unwanted _ _ _ _ _ not4]
  dsimp only
  rw [if_neg Bool.false_ne_true, handleFrame6_unwanted _ _ _ _ _ not6, if_neg Bool.false_ne_true,
    handleSolicit_unwanted _ notRS]

theorem admits_of_take {frame : List UInt8}
    (admitted : admits filterProgram { frame := frame.take 2048, vlanTagPresent := false } = true) :
    admits filterProgram { frame := frame, vlanTagPresent := false } = true := by
  obtain ⟨_, long, admitted⟩ := (filter_iff _).mp admitted
  have shorter : (frame.take 2048).length ≤ frame.length := List.length_take_le' 2048 frame
  have byte (index : Nat) (within : index < 2048) :
      byteAt (frame.take 2048) index = byteAt frame index := by
    unfold byteAt
    rw [List.getD_eq_getElem?_getD, List.getElem?_take_of_lt within, ← List.getD_eq_getElem?_getD]
  have index : headerIndex (frame.take 2048) = headerIndex frame := by
    unfold headerIndex
    rw [byte 14 (by omega)]
  have low : headerIndex frame ≤ 60 := by
    unfold headerIndex
    omega
  apply (filter_iff _).mpr
  refine ⟨rfl, Nat.le_trans long shorter, ?_⟩
  dsimp only at long admitted ⊢
  rw [uint16At_take _ (by omega)] at admitted
  rcases admitted with ⟨ether, six⟩ | ⟨ether, four⟩
  · obtain ⟨header, kind⟩ := six
    rw [byte 20 (by omega), byte 54 (by omega), uint16At_take _ (by omega)] at kind
    refine Or.inl ⟨ether, Nat.le_trans header shorter, ?_⟩
    rcases kind with ⟨next, enough, port⟩ | ⟨next, enough, kind⟩
    · exact Or.inl ⟨next, Nat.le_trans enough shorter, port⟩
    · exact Or.inr ⟨next, Nat.le_trans enough shorter, kind⟩
  · obtain ⟨header, proto, whole, within, port⟩ := four
    rw [byte 23 (by omega)] at proto
    rw [uint16At_take _ (by omega)] at whole
    rw [index] at within port
    rw [uint16At_take _ (by omega)] at port
    exact Or.inr ⟨ether, Nat.le_trans header shorter, proto, whole, Nat.le_trans within shorter, port⟩

theorem Station.read_of_not_admitted {frame : List UInt8}
    (dropped : admits filterProgram { frame := frame, vlanTagPresent := false } = false)
    (codec : Codec) (station : Station) (during : Circumstance) :
    station.read codec during frame = (station, []) := by
  unfold Station.read
  cases parsed : parse (frame.take 2048) with
  | none => rfl
  | some pkt =>
      apply Station.handleFrame_unwanted
      intro wanted
      have admitted := admits_of_take (admits_of_wanted parsed wanted)
      rw [dropped] at admitted
      cases admitted

def Occasion.untagged : Occasion → Bool
  | .arrival _ skb => !skb.vlanTagPresent
  | _ => true

/-- A run behind the filter is the run of a reader that hears every frame, from which
only the tagged frames are taken out. -/
theorem filter_drops_only_tagged (codec : Codec) (station : Station) (occasions : List Occasion) :
    runFrom codec (admits filterProgram) station occasions =
      runFrom codec (fun _ => true) station (occasions.filter Occasion.untagged) := by
  apply run_filter
  · intro current occasion untagged
    cases occasion with
    | arrival during skb =>
        obtain ⟨frame, tagged⟩ := skb
        have none : tagged = false := by simpa [Occasion.untagged] using untagged
        subst none
        rw [Station.meet_arrival, Station.meet_arrival, if_pos rfl]
        cases admitted : admits filterProgram { frame := frame, vlanTagPresent := false } with
        | true => rw [if_pos rfl]
        | false =>
            rw [if_neg Bool.false_ne_true, Station.read_of_not_admitted admitted]
    | advertise during => rfl
    | farewell during => rfl
    | change act => rfl
  · intro current occasion tagged
    cases occasion with
    | arrival during skb =>
        obtain ⟨frame, present⟩ := skb
        have some : present = true := by simpa [Occasion.untagged] using tagged
        subst some
        have dropped : ¬ admits filterProgram { frame := frame, vlanTagPresent := true } = true := by
          intro admitted
          cases ((filter_iff _).mp admitted).1
        rw [Station.meet_arrival, if_neg dropped]
    | advertise during => cases tagged
    | farewell during => cases tagged
    | change act => cases tagged

/-! ### What is written -/

/-- A frame as the servers write it: to a client's port, or a router advertisement. -/
inductive Answer : List UInt8 → Prop
  | four (srcMAC dstMAC srcIP dstIP : List UInt8) (srcPort : UInt16) (payload : List UInt8) :
      Answer (craftUDP4 srcMAC dstMAC srcIP dstIP srcPort dhcp4ClientPort payload)
  | six (srcMAC dstMAC srcIP dstIP : List UInt8) (srcPort : UInt16) (payload : List UInt8) :
      Answer (craftUDP6 srcMAC dstMAC srcIP dstIP srcPort dhcp6ClientPort payload)
  | advert (cfg : RAConfig) (mac : List UInt8) (order : RangeOrder (Prefix × Bool))
      (prefixes : Map Prefix Bool) (routerLifetime : UInt16) (dstMAC srcIP dstIP : List UInt8) :
      Answer (craftICMP6 mac dstMAC srcIP dstIP (advertBody cfg mac order prefixes routerLifetime)
        ndpHopLimit)

def Single {Item : Type} (Property : Item → Prop) (items : List Item) : Prop :=
  items.length ≤ 1 ∧ ∀ item ∈ items, Property item

theorem Single.nil {Item : Type} {Property : Item → Prop} : Single Property [] :=
  ⟨Nat.zero_le 1, List.forall_mem_nil Property⟩

theorem Single.one {Item : Type} {Property : Item → Prop} {item : Item} (holds : Property item) :
    Single Property [item] :=
  ⟨Nat.le_refl 1, List.forall_mem_singleton.mpr holds⟩

theorem Single.ite {Item : Type} {Property : Item → Prop} {first second : List Item}
    {condition : Prop} [Decidable condition] (left : Single Property first)
    (right : Single Property second) : Single Property (if condition then first else second) := by
  split
  · exact left
  · exact right

theorem Single.map {Item Image : Type} {Property : Item → Prop} {Wanted : Image → Prop}
    {items : List Item} (single : Single Property items) {image : Item → Image}
    (maps : ∀ item, Property item → Wanted (image item)) : Single Wanted (items.map image) := by
  refine ⟨Nat.le_trans (Nat.le_of_eq (List.length_map image)) single.1, ?_⟩
  intro found member
  obtain ⟨item, present, same⟩ := List.mem_map.mp member
  rw [← same]
  exact maps item (single.2 item present)

section Written4

variable (lib : Library4) (env : Env)

def ToClient4 (frame : UdpFrame DHCPv4) : Prop := frame.dstPort = dhcp4ClientPort

theorem sendReply_single (cfg : DHCP4Config) (served : Prefix) (request : DHCPv4)
    (typ : MessageType4) (ip : Addr) :
    Single ToClient4 (sendReply lib env cfg served request typ ip) := by
  unfold sendReply
  cases lib.newReplyFromRequest request (replyModifiers cfg served typ) with
  | none => exact .nil
  | some reply => exact .one rfl

theorem sendNak_single (served : Prefix) (request : DHCPv4) :
    Single ToClient4 (sendNak lib env served request) := by
  unfold sendNak
  cases lib.newReplyFromRequest request
      [.withMessageType .nak, .optServerIdentifier served.addr.asSlice] with
  | none => exact .nil
  | some reply => exact .one rfl

theorem handleFrame4_single (orders : RangeOrders) (now : Int) (server : AddressServer)
    (pkt : Ingress) :
    Single ToClient4 (handleFrame4 lib env orders now server pkt).written := by
  unfold handleFrame4
  dsimp only
  split
  · exact .nil
  · cases acceptedRequest lib env server pkt with
    | none => exact .nil
    | some accepted =>
        obtain ⟨served, request⟩ := accepted
        dsimp only
        cases request.messageType with
        | discover => exact .ite (sendReply_single lib env _ served request .offer _) .nil
        | request =>
            simp only [replyToRequest]
            cases wantedAddr request with
            | none => exact sendNak_single lib env served request
            | some want =>
                exact .ite (sendNak_single lib env served request)
                  (sendReply_single lib env _ served request .ack _)
        | _ => exact .nil

end Written4

section Written6

variable (lib : Library6) (env : Env) (pkt : Ingress)

def ToClient6 (frame : UdpFrame DHCPv6) : Prop := frame.dstPort = dhcp6ClientPort

theorem transmit6_single (reply : DHCPv6) : Single ToClient6 (transmit6 env pkt reply) :=
  .ite (.one rfl) .nil

theorem replyAddress_single (orders : RangeOrders) (now : Int) (server : AddressServer)
    (served : Prefix) (msg : DHCPv6) (duid : List UInt8) (advertise : Bool) :
    Single ToClient6
      (replyAddress lib env orders now server served pkt msg duid advertise).written := by
  unfold replyAddress
  dsimp only
  split
  · split
    · exact .nil
    · exact transmit6_single env pkt _
  · exact .nil

theorem handleFrame6_single (orders : RangeOrders) (now : Int) (server : AddressServer) :
    Single ToClient6 (handleFrame6 lib env orders now server pkt).written := by
  unfold handleFrame6
  dsimp only
  split
  · exact .nil
  · cases acceptedMessage lib env server pkt with
    | none => exact .nil
    | some accepted =>
        obtain ⟨served, msg, duid⟩ := accepted
        dsimp only
        cases msg.messageType with
        | solicit => exact replyAddress_single lib env pkt orders now server served msg duid true
        | request => exact replyAddress_single lib env pkt orders now server served msg duid false
        | renew => exact replyAddress_single lib env pkt orders now server served msg duid false
        | rebind => exact replyAddress_single lib env pkt orders now server served msg duid false
        | release =>
            dsimp only
            unfold replyStatus
            split
            · exact .nil
            · exact transmit6_single env pkt _
        | informationRequest =>
            dsimp only
            unfold replyInformation
            split
            · exact .nil
            · exact transmit6_single env pkt _
        | _ => exact .nil

end Written6

theorem Circumstance.advert_single (during : Circumstance) (cfg : RAConfig)
    (prefixes : Map Prefix Bool) (routerLifetime : UInt16) (dst : Destination) :
    Single Answer (during.advert cfg prefixes routerLifetime dst) := by
  unfold Circumstance.advert advertFrame
  split
  · exact .one (.advert cfg _ _ prefixes routerLifetime dst.mac _ dst.ip)
  · exact .nil

theorem Station.handleFrame_single (codec : Codec) (station : Station) (during : Circumstance)
    (pkt : Ingress) : Single Answer (station.handleFrame codec during pkt).2 := by
  unfold Station.handleFrame
  dsimp only
  split
  · apply (handleFrame4_single _ _ _ _ _ _).map
    intro frame port
    unfold Codec.frame4
    rw [port]
    exact .four _ _ _ _ _ _
  · split
    · apply (handleFrame6_single _ _ _ _ _ _).map
      intro frame port
      unfold Codec.frame6
      rw [port]
      exact .six _ _ _ _ _ _
    · split
      · exact .nil
      · exact during.advert_single _ _ _ _

theorem Station.meet_single (codec : Codec) (listens : Skb → Bool) (station : Station)
    (occasion : Occasion) : Single Answer (station.meet codec listens occasion).2 := by
  cases occasion with
  | arrival during skb =>
      rw [Station.meet_arrival]
      split
      · unfold Station.read
        split
        · exact .nil
        · exact station.handleFrame_single codec during _
      · exact .nil
  | advertise during =>
      unfold Station.meet
      dsimp only
      split
      · exact during.advert_single _ _ _ _
      · exact .nil
  | farewell during => exact .ite (during.advert_single _ _ _ _) .nil
  | change act => exact .nil

theorem answer_of_mem_run (codec : Codec) (listens : Skb → Bool) (station : Station)
    (occasions : List Occasion) :
    ∀ frame ∈ (runFrom codec listens station occasions).2, Answer frame := by
  apply StepRun.run_invariant (step codec listens)
    (fun state => ∀ frame ∈ state.2, Answer frame) (fun _ _ => True)
  · intro state occasion _ before frame member
    rcases List.mem_append.mp member with earlier | now
    · exact before frame earlier
    · exact (state.1.meet_single codec listens occasion).2 frame now
  · exact List.forall_mem_nil Answer
  · intro before occasion after split
    trivial

/-! ### Answers are not requests -/

section Layout

variable (srcMAC dstMAC : List UInt8) (etherType : UInt16) (ip segment : List UInt8)

theorem uint16At_ethernetHeader :
    uint16At (ethernetHeader srcMAC dstMAC etherType ++ (ip ++ segment)) 12 = etherType := by
  have layout : ethernetHeader srcMAC dstMAC etherType ++ (ip ++ segment) =
      (field 6 dstMAC ++ field 6 srcMAC) ++ (bytesOfUint16 etherType ++ (ip ++ segment)) := by
    rw [ethernetHeader_eq, List.append_nil, List.append_assoc]
  rw [layout]
  exact uint16At_append etherType (by simp)

theorem byteAt_ipHeader (index : Nat) :
    byteAt (ethernetHeader srcMAC dstMAC etherType ++ (ip ++ segment)) (14 + index) =
      byteAt (ip ++ segment) index := by
  have dropped : (ethernetHeader srcMAC dstMAC etherType ++ (ip ++ segment)).drop 14 =
      ip ++ segment := List.drop_left' (length_ethernetHeader srcMAC dstMAC etherType)
  rw [← byteAt_drop, dropped]

variable {ip} in
theorem byteAt_segment {ipSize : Nat} (sized : ip.length = ipSize) (index : Nat) :
    byteAt (ethernetHeader srcMAC dstMAC etherType ++ (ip ++ segment)) (14 + ipSize + index) =
      byteAt segment index := by
  have dropped := @drop_headers _ _ segment _ (length_ethernetHeader srcMAC dstMAC etherType) sized
  rw [← byteAt_drop]
  exact congrArg (fun rest => byteAt rest index) dropped.2

variable {ip} in
theorem uint16At_segment {ipSize : Nat} (sized : ip.length = ipSize) (index : Nat) :
    uint16At (ethernetHeader srcMAC dstMAC etherType ++ (ip ++ segment)) (14 + ipSize + index) =
      uint16At segment index := by
  unfold uint16At
  rw [byteAt_segment srcMAC dstMAC etherType segment sized, Nat.add_assoc (14 + ipSize),
    byteAt_segment srcMAC dstMAC etherType segment sized]

end Layout

theorem craftUDP4_not_admitted (srcMAC dstMAC srcIP dstIP : List UInt8) (srcPort : UInt16)
    (payload : List UInt8) :
    ¬ Admitted4 (craftUDP4 srcMAC dstMAC srcIP dstIP srcPort dhcp4ClientPort payload) := by
  rintro ⟨_, _, _, _, port⟩
  have first := (ipv4Header_read (udpHeaderSize + payload.length) (to4 srcIP) (to4 dstIP)
    (udpSegment (to4 srcIP) (to4 dstIP) srcPort dhcp4ClientPort payload)).1
  have index : headerIndex (craftUDP4 srcMAC dstMAC srcIP dstIP srcPort dhcp4ClientPort payload) =
      20 := by
    unfold headerIndex craftUDP4
    rw [byteAt_ipHeader _ _ _ _ _ 0, first]
    rfl
  have sent := (udpSegment_read (to4 srcIP) (to4 dstIP) srcPort dhcp4ClientPort payload).2.1
  rw [← uint16At_segment srcMAC dstMAC etherTypeIPv4 _
    (length_ipv4Header (udpHeaderSize + payload.length) (to4 srcIP) (to4 dstIP))] at sent
  rw [index] at port
  have same : dhcp4ClientPort = 67 := sent.symm.trans port
  exact absurd same (by decide)

theorem craftUDP6_not_admitted (srcMAC dstMAC srcIP dstIP : List UInt8) (srcPort : UInt16)
    (payload : List UInt8) :
    ¬ Admitted6 (craftUDP6 srcMAC dstMAC srcIP dstIP srcPort dhcp6ClientPort payload) := by
  have next := (ipv6Header_read (udpHeaderSize + payload.length) protoUDP 64 (to16 srcIP)
    (to16 dstIP) (udpSegment (to16 srcIP) (to16 dstIP) srcPort dhcp6ClientPort payload)).2.2
  rw [← byteAt_ipHeader srcMAC dstMAC etherTypeIPv6 _ _ 6] at next
  have sent := (udpSegment_read (to16 srcIP) (to16 dstIP) srcPort dhcp6ClientPort payload).2.1
  rw [← uint16At_segment srcMAC dstMAC etherTypeIPv6 _
    (length_ipv6Header (udpHeaderSize + payload.length) protoUDP 64 (to16 srcIP) (to16 dstIP))]
    at sent
  rintro ⟨_, ⟨_, _, port⟩ | ⟨icmp, _, _⟩⟩
  · have same : dhcp6ClientPort = 547 := sent.symm.trans port
    exact absurd same (by decide)
  · have same : protoUDP = 58 := next.symm.trans icmp
    exact absurd same (by decide)

theorem advert_not_admitted (cfg : RAConfig) (mac : List UInt8) (order : RangeOrder (Prefix × Bool))
    (prefixes : Map Prefix Bool) (routerLifetime : UInt16) (dstMAC srcIP dstIP : List UInt8) :
    ¬ Admitted6 (craftICMP6 mac dstMAC srcIP dstIP
      (advertBody cfg mac order prefixes routerLifetime) ndpHopLimit) := by
  obtain ⟨rest, body⟩ : ∃ rest, advertBody cfg mac order prefixes routerLifetime =
      [134, 0] ++ ([0, 0] ++ rest) := by
    rw [advertBody_eq, advertHeader_eq]
    exact ⟨_, rfl⟩
  rw [body]
  have next := (ipv6Header_read ([134, 0] ++ ([0, 0] ++ rest)).length protoICMPv6 ndpHopLimit
    (to16 srcIP) (to16 dstIP)
    (icmpMessage (to16 srcIP) (to16 dstIP) ([134, 0] ++ ([0, 0] ++ rest)))).2.2
  rw [← byteAt_ipHeader mac dstMAC etherTypeIPv6 _ _ 6] at next
  have kind : byteAt (icmpMessage (to16 srcIP) (to16 dstIP) ([134, 0] ++ ([0, 0] ++ rest))) 0 =
      134 := by
    rw [icmpMessage_eq]
    rfl
  rw [← byteAt_segment mac dstMAC etherTypeIPv6 _
    (length_ipv6Header ([134, 0] ++ ([0, 0] ++ rest)).length protoICMPv6 ndpHopLimit (to16 srcIP)
      (to16 dstIP))] at kind
  rintro ⟨_, ⟨udp, _, _⟩ | ⟨_, _, solicit⟩⟩
  · have same : protoICMPv6 = 17 := next.symm.trans udp
    exact absurd same (by decide)
  · have same : (134 : UInt8) = 133 := kind.symm.trans solicit
    exact absurd same (by decide)

theorem answer_not_admitted {frame : List UInt8} (answer : Answer frame) (tagged : Bool) :
    admits filterProgram { frame := frame, vlanTagPresent := tagged } = false := by
  have distinct : etherTypeIPv4 ≠ etherTypeIPv6 := by decide
  apply Bool.eq_false_iff.mpr
  intro admitted
  obtain ⟨_, _, kinds⟩ := (filter_iff _).mp admitted
  cases answer with
  | four srcMAC dstMAC srcIP dstIP srcPort payload =>
      rcases kinds with ⟨ether, _⟩ | ⟨_, request⟩
      · exact distinct ((uint16At_ethernetHeader srcMAC dstMAC etherTypeIPv4 _ _).symm.trans ether)
      · exact craftUDP4_not_admitted _ _ _ _ _ _ request
  | six srcMAC dstMAC srcIP dstIP srcPort payload =>
      rcases kinds with ⟨_, request⟩ | ⟨ether, _⟩
      · exact craftUDP6_not_admitted _ _ _ _ _ _ request
      · exact distinct (ether.symm.trans (uint16At_ethernetHeader srcMAC dstMAC etherTypeIPv6 _ _))
  | advert cfg mac order prefixes routerLifetime dstMAC srcIP dstIP =>
      rcases kinds with ⟨_, request⟩ | ⟨ether, _⟩
      · exact advert_not_admitted _ _ _ _ _ _ _ _ request
      · exact distinct (ether.symm.trans (uint16At_ethernetHeader mac dstMAC etherTypeIPv6 _ _))

def Occasion.carries (frames : List (List UInt8)) : Occasion → Bool
  | .arrival _ skb => frames.contains skb.frame
  | _ => false

/-- Every frame that an interface has written in some run is refused by the filter, tagged
or not.  Such frames can be taken out of every run of any interface: they change nothing
there and provoke no frame. -/
theorem answers_provoke_nothing (codec : Codec) (station : Station) (occasions : List Occasion)
    (other : Codec) (hearer : Station) (heard : List Occasion) :
    let written := (runFrom codec (admits filterProgram) station occasions).2
    (∀ frame ∈ written, ∀ tagged,
      admits filterProgram { frame := frame, vlanTagPresent := tagged } = false) ∧
    runFrom other (admits filterProgram) hearer heard =
      runFrom other (admits filterProgram) hearer
        (heard.filter (fun occasion => !occasion.carries written)) := by
  intro written
  have refused : ∀ frame ∈ written, ∀ tagged,
      admits filterProgram { frame := frame, vlanTagPresent := tagged } = false := by
    intro frame member
    exact answer_not_admitted
      (answer_of_mem_run codec (admits filterProgram) station occasions frame member)
  refine ⟨refused, ?_⟩
  apply run_filter
  · intro current occasion _
    rfl
  · intro current occasion carried
    cases occasion with
    | arrival during skb =>
        obtain ⟨frame, tagged⟩ := skb
        have member : frame ∈ written := by simpa [Occasion.carries] using carried
        rw [Station.meet_arrival, refused frame member tagged, if_neg Bool.false_ne_true]
    | advertise during => cases carried
    | farewell during => cases carried
    | change act => cases carried

/-! ### How much is written -/

/-- The filter admits the frame, or the loop of the router advertisements sends. -/
def Occasion.prompts : Occasion → Bool
  | .arrival _ skb => admits filterProgram skb
  | .change _ => false
  | _ => true

theorem Station.meet_length (codec : Codec) (station : Station) (occasion : Occasion) :
    (station.meet codec (admits filterProgram) occasion).2.length ≤ occasion.prompts.toNat := by
  have single := (station.meet_single codec (admits filterProgram) occasion).1
  cases occasion with
  | arrival during skb =>
      cases admitted : admits filterProgram skb with
      | true =>
          change _ ≤ (admits filterProgram skb).toNat
          rw [admitted]
          exact single
      | false =>
          rw [Station.meet_arrival, admitted, if_neg Bool.false_ne_true]
          exact Nat.zero_le _
  | advertise during => exact single
  | farewell during => exact single
  | change act => exact Nat.zero_le 0

/-- In every run no more frames are written than were admitted by the filter or due by
the loop of the router advertisements. -/
theorem answers_bounded (codec : Codec) (station : Station) (occasions : List Occasion) :
    (runFrom codec (admits filterProgram) station occasions).2.length ≤
      occasions.countP Occasion.prompts := by
  have grows : ∀ (state : Station × List (List UInt8)),
      (StepRun.run (step codec (admits filterProgram)) state occasions).2.length ≤
        state.2.length + occasions.countP Occasion.prompts := by
    induction occasions with
    | nil => exact fun state => Nat.le_refl _
    | cons occasion rest ih =>
        intro state
        have now := state.1.meet_length codec occasion
        have later := ih (step codec (admits filterProgram) state occasion)
        have written : (step codec (admits filterProgram) state occasion).2.length =
            state.2.length + (state.1.meet codec (admits filterProgram) occasion).2.length :=
          List.length_append
        rw [StepRun.run_cons, List.countP_cons]
        cases prompted : occasion.prompts with
        | true =>
            rw [prompted] at now
            change _ ≤ 1 at now
            rw [if_pos rfl]
            omega
        | false =>
            rw [prompted] at now
            change _ ≤ 0 at now
            rw [if_neg Bool.false_ne_true]
            omega
  have total := grows (station, [])
  rw [List.length_nil, Nat.zero_add] at total
  exact total

end BridgeDhcp.Transport
