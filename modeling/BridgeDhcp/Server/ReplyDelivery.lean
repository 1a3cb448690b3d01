/-
The timers that a DHCPv4 reply carries and the addresses it is sent to.

The rebinding time is seven times the lease time divided by eight, and the product
is taken first, in 64 bits.  The destination of a frame is decided by ciaddr before
the type of the reply is looked at, so a refusal to a client that still has an
address goes to that address.
-/

import BridgeDhcp.Server.AddressDue
import BridgeDhcp.Server.ComposePd
import BridgeDhcp.Server.Handshake4

set_option autoImplicit false

namespace BridgeDhcp.Server

open GoMap Netip Packet GoTime

/-! ### Timers -/

/-- The renewal and the rebinding time among the options of a reply lie in this order
within the lease time. -/
def TimersOrdered (leaseTime : Duration) (modifiers : List Modifier4) : Prop :=
  ∃ t1 t2 : Int, .optRenewTimeValue t1 ∈ modifiers ∧ .optRebindingTimeValue t2 ∈ modifiers ∧
    0 ≤ t1 ∧ t1 ≤ t2 ∧ t2 ≤ leaseTime

theorem timersOrdered_replyModifiers_iff (cfg : DHCP4Config) (served : Prefix)
    (typ : MessageType4) :
    TimersOrdered cfg.leaseTime (replyModifiers cfg served typ) ↔
      0 ≤ Int.tdiv cfg.leaseTime 2 ∧
        Int.tdiv cfg.leaseTime 2 ≤ Int.tdiv (wrap64 (cfg.leaseTime * 7)) 8 ∧
        Int.tdiv (wrap64 (cfg.leaseTime * 7)) 8 ≤ cfg.leaseTime := by
  unfold TimersOrdered replyModifiers
  simp

section LeaseTime

variable {leaseTime : Int}

theorem rebindingTime_of_fits (positive : 0 < leaseTime) (fits : 7 * leaseTime ≤ maxDuration) :
    Int.tdiv (wrap64 (leaseTime * 7)) 8 = leaseTime * 7 / 8 := by
  have whole : wrap64 (leaseTime * 7) = leaseTime * 7 := by
    apply wrap64_of_fits
    · unfold minDuration
      omega
    · omega
  rw [whole, Int.tdiv_eq_ediv_of_nonneg (by omega)]

theorem rebindingTime_lt (fits : leaseTime ≤ maxDuration) (wraps : maxDuration < 7 * leaseTime) :
    Int.tdiv (wrap64 (leaseTime * 7)) 8 < Int.tdiv leaseTime 2 := by
  obtain ⟨turns, rest, wrapped, exactly, low, high⟩ := wrap64_turns (leaseTime * 7)
  unfold minDuration at low
  unfold maxDuration at fits wraps high
  have turned : 1 ≤ turns := by omega
  rw [wrapped, @Int.tdiv_eq_ediv_of_nonneg leaseTime 2 (by omega)]
  by_cases negative : rest < 0
  · rw [tdiv_of_nonpos 8 (by omega)]
    omega
  · rw [Int.tdiv_eq_ediv_of_nonneg (by omega)]
    omega

end LeaseTime

/-- For every positive lease time, the timers of an OFFER or ACK are in order exactly
if seven times the lease time fits into 63 bits of nanoseconds. -/
theorem lease_timers_ordered_iff (cfg : DHCP4Config) (served : Prefix) (typ : MessageType4)
    (positive : 0 < cfg.leaseTime) (fits : cfg.leaseTime ≤ maxDuration) :
    TimersOrdered cfg.leaseTime (replyModifiers cfg served typ) ↔
      7 * cfg.leaseTime ≤ maxDuration := by
  rw [timersOrdered_replyModifiers_iff]
  constructor
  · intro timers
    by_contra wraps
    exact absurd timers.2.1 (not_le.mpr (rebindingTime_lt fits (not_le.mp wraps)))
  · intro small
    rw [rebindingTime_of_fits positive small, Int.tdiv_eq_ediv_of_nonneg (by omega)]
    omega

theorem lease_timers_ordered_default :
    0 < sampleConfig.leaseTime ∧ sampleConfig.leaseTime ≤ maxDuration ∧
      TimersOrdered sampleConfig.leaseTime (replyModifiers sampleConfig samplePrefix4 .ack) := by
  refine ⟨by decide, by decide, ?_⟩
  exact (lease_timers_ordered_iff sampleConfig samplePrefix4 .ack (by decide) (by decide)).mpr
    (by decide)

def longLeaseFile : Config.File where
  interfaces :=
    [{ sampleFileIface "br0" 64 0 with
        pd := none
        dhcp4 := some
          { poolOffsetStart := 100
            poolOffsetEnd := 110
            leaseTime := 1577880000 * second
            dns := [] } }]

def longLease : DHCP4Config := { sampleConfig with leaseTime := 1577880000 * second }

/-- The file is accepted, and every OFFER and ACK carries a negative rebinding time. -/
theorem long_lease_rebinds_never :
    (longLeaseFile.buildIfaceConfigs sampleParsing).toOption.map
        (List.map (fun cfg => cfg.normalize.toOption.map (fun ready => ready.dhcp4))) =
      some [some longLease] ∧
    .optRenewTimeValue 788940000000000000 ∈ replyModifiers longLease samplePrefix4 .ack ∧
    .optRebindingTimeValue (-925198009213693952) ∈ replyModifiers longLease samplePrefix4 .ack ∧
    ¬ TimersOrdered longLease.leaseTime (replyModifiers longLease samplePrefix4 .ack) := by
  refine ⟨by decide +kernel, by decide +kernel, by decide +kernel, ?_⟩
  rw [timersOrdered_replyModifiers_iff]
  decide +kernel

/-! ### Destinations -/

def ToEveryone (frame : UdpFrame DHCPv4) : Prop :=
  to4 frame.dstIP = [255, 255, 255, 255] ∧ frame.dstMAC = broadcastMAC

instance (frame : UdpFrame DHCPv4) : Decidable (ToEveryone frame) :=
  inferInstanceAs (Decidable (_ ∧ _))

/-- Where RFC 2131 sends the reply to a request that came from no relay. -/
def AddressedPerRFC (request : DHCPv4) (frame : UdpFrame DHCPv4) : Prop :=
  if frame.message.messageType = .nak then ToEveryone frame
  else if request.clientIPAddr ≠ [0, 0, 0, 0] then frame.dstIP = request.clientIPAddr
  else if request.isBroadcast = true then ToEveryone frame
  else frame.dstIP = frame.message.yourIPAddr ∧ frame.dstMAC = request.clientHWAddr

instance (request : DHCPv4) (frame : UdpFrame DHCPv4) :
    Decidable (AddressedPerRFC request frame) := by
  unfold AddressedPerRFC
  infer_instance

section Delivery

variable (env : Env) (served : Prefix) {request : DHCPv4}

theorem ciaddr_known_iff (four : request.clientIPAddr.length = 4) :
    (request.clientIPAddr ≠ [] ∧ ipIsUnspecified request.clientIPAddr = false) ↔
      request.clientIPAddr ≠ [0, 0, 0, 0] := by
  have other (bytes : List UInt8) (long : bytes.length ≠ 4) : request.clientIPAddr ≠ bytes := by
    intro same
    rw [same] at four
    exact long four
  unfold ipIsUnspecified
  rw [Bool.or_eq_false_iff, Bool.or_eq_false_iff, beq_eq_false_iff_ne, beq_eq_false_iff_ne,
    beq_eq_false_iff_ne]
  constructor
  · intro known
    exact known.2.1.1
  · intro nonzero
    exact ⟨other _ (by decide), ⟨nonzero, other _ (by decide)⟩, other _ (by decide)⟩

theorem transmit4_addressed (four : request.clientIPAddr.length = 4) {reply : DHCPv4}
    {yiaddr : Addr} (notNak : reply.messageType ≠ .nak) (valid : yiaddr.isValid = true)
    (yours : reply.yourIPAddr = yiaddr.asSlice) :
    AddressedPerRFC request (transmit4 env served request reply yiaddr) := by
  unfold AddressedPerRFC transmit4 ToEveryone
  simp only [ciaddr_known_iff four, notNak, valid, yours, if_false, false_or, Bool.true_eq_false,
    or_false]
  by_cases known : request.clientIPAddr ≠ [0, 0, 0, 0]
  · simp only [if_pos known]
  · by_cases flag : request.isBroadcast = true
    · simp only [if_neg known, if_pos flag]
      decide
    · simp only [if_neg known, if_neg flag, and_self]

/-- A NAK reaches everyone only if the client has no address; the exception is a
client that claims to be everyone. -/
theorem transmit4_nak_addressed_iff (four : request.clientIPAddr.length = 4) {reply : DHCPv4}
    (nak : reply.messageType = .nak) :
    AddressedPerRFC request (transmit4 env served request reply .invalid) ↔
      request.clientIPAddr = [0, 0, 0, 0] ∨
        (request.clientIPAddr = [255, 255, 255, 255] ∧ request.clientHWAddr = broadcastMAC) := by
  unfold AddressedPerRFC transmit4 ToEveryone
  simp only [ciaddr_known_iff four, nak, if_true, true_or]
  by_cases known : request.clientIPAddr ≠ [0, 0, 0, 0]
  · have same : to4 request.clientIPAddr = request.clientIPAddr := by
      unfold to4
      rw [if_pos four]
    simp only [if_pos known, same]
    constructor
    · intro everyone
      exact Or.inr everyone
    · intro either
      exact either.resolve_left known
  · simp only [if_neg known]
    constructor
    · intro _
      exact Or.inl (not_not.mp known)
    · intro _
      exact ⟨by decide, trivial⟩

end Delivery

/-! ### Every reply -/

/-- The address that the REQUEST asks for is the one the client is due. -/
def GetsWanted (server : AddressServer) (orders : RangeOrders) (now : Int) (served : Prefix)
    (request : DHCPv4) : Prop :=
  ∃ want, wantedAddr request = some want ∧
    Due server.cfg server.statics.bindings server.leases orders now served (applicant4 request)
      (requestedAddr request) want

section Replies

variable {lib : Library4} (env : Env) (orders : RangeOrders) (now : Int) (server : AddressServer)
  (served : Prefix) {request : DHCPv4}

theorem sendReply_addressed (typed : lib.SetsMessageType) (cfg : DHCP4Config)
    (four : request.clientIPAddr.length = 4) {typ : MessageType4} (notNak : typ ≠ .nak) {ip : Addr}
    (valid : ip.isValid = true) :
    ∀ frame ∈ sendReply lib env cfg served request typ ip, AddressedPerRFC request frame := by
  intro frame written
  unfold sendReply at written
  cases built : lib.newReplyFromRequest request (replyModifiers cfg served typ) with
  | none =>
      rw [built] at written
      cases written
  | some reply =>
      rw [built] at written
      rw [List.mem_singleton.mp written]
      apply transmit4_addressed env served four _ valid rfl
      change reply.messageType ≠ .nak
      rw [typed.ofReply built]
      exact notNak

theorem sendNak_addressed_iff (replies : lib.Replies) (typed : lib.SetsMessageType)
    (four : request.clientIPAddr.length = 4) :
    (∀ frame ∈ sendNak lib env served request, AddressedPerRFC request frame) ↔
      request.clientIPAddr = [0, 0, 0, 0] ∨
        (request.clientIPAddr = [255, 255, 255, 255] ∧ request.clientHWAddr = broadcastMAC) := by
  obtain ⟨reply, built⟩ := Option.isSome_iff_exists.mp
    (replies request [.withMessageType .nak, .optServerIdentifier served.addr.asSlice])
  unfold sendNak
  rw [built]
  simp only [List.mem_singleton, forall_eq]
  exact transmit4_nak_addressed_iff env served four (typed.ofNak built)

theorem replyToDiscover_addressed (typed : lib.SetsMessageType)
    (four : request.clientIPAddr.length = 4) :
    ∀ frame ∈ (replyToDiscover lib env orders now server served request).written,
      AddressedPerRFC request frame := by
  unfold replyToDiscover
  dsimp only
  split
  · next valid => exact sendReply_addressed env served typed server.cfg four (by decide) valid
  · intro frame written
    cases written

theorem replyToRequest_refuses_or_grants (lib : Library4) :
    (replyToRequest lib env orders now server served request).written =
        sendNak lib env served request ∧ ¬ GetsWanted server orders now served request ∨
      ∃ ip, ip.isValid = true ∧ GetsWanted server orders now served request ∧
        (replyToRequest lib env orders now server served request).written =
          sendReply lib env server.cfg served request .ack ip := by
  unfold replyToRequest GetsWanted
  cases wanted : wantedAddr request with
  | none =>
      refine Or.inl ⟨rfl, ?_⟩
      rintro ⟨want, impossible, _⟩
      cases impossible
  | some want =>
      have due := selectAddress_eq_iff_due server.cfg server.statics.bindings server.leases orders
        now served (applicant4 request) (requestedAddr request) want
      dsimp only
      split
      · next refused =>
          refine Or.inl ⟨rfl, ?_⟩
          rintro ⟨other, same, given⟩
          cases same
          obtain ⟨selected, valid⟩ := due.mpr given
          simp [selectIP, selected, valid] at refused
      · next granted =>
          simp only [Bool.or_eq_true, Bool.not_eq_true', bne_iff_ne, ne_eq, not_or,
            Bool.not_eq_false, not_not] at granted
          obtain ⟨valid, selected⟩ := granted
          refine Or.inr ⟨_, valid, ⟨want, rfl, ?_⟩, rfl⟩
          rw [selected] at valid
          exact due.mp ⟨selected, valid⟩

/-- For every state of the server and every request that came from no relay, all
replies go where RFC 2131 sends them exactly if the client has no address of its own
or gets the address it asks for. -/
theorem replies_addressed_iff (replies : lib.Replies) (typed : lib.SetsMessageType)
    (four : request.clientIPAddr.length = 4) :
    ((∀ frame ∈ (replyToDiscover lib env orders now server served request).written,
        AddressedPerRFC request frame) ∧
      ∀ frame ∈ (replyToRequest lib env orders now server served request).written,
        AddressedPerRFC request frame) ↔
    request.clientIPAddr = [0, 0, 0, 0] ∨
      (request.clientIPAddr = [255, 255, 255, 255] ∧ request.clientHWAddr = broadcastMAC) ∨
      GetsWanted server orders now served request := by
  rw [and_iff_right (replyToDiscover_addressed env orders now server served typed four), ← or_assoc]
  rcases @replyToRequest_refuses_or_grants env orders now server served request lib with
    ⟨refuses, notDue⟩ | ⟨ip, valid, due, grants⟩
  · rw [refuses, sendNak_addressed_iff env served replies typed four, or_iff_left notDue]
  · rw [grants]
    constructor
    · intro _
      exact Or.inr due
    · intro _
      exact sendReply_addressed env served typed server.cfg four (by decide) valid

end Replies

/-- A client that has no address yet is refused by broadcast. -/
theorem replies_addressed_without_ciaddr :
    sampleLibrary4.Replies ∧ sampleLibrary4.SetsMessageType ∧
    (replyToRequest sampleLibrary4 sampleEnv4 storedOrders 0 sampleServer samplePrefix4
      (sampleRequest4 3 [2, 0, 0, 0, 0, 0x42] [0, 0, 0, 0] (some [10, 0, 0, 1]))).written.length =
        1 ∧
    ∀ frame ∈ (replyToRequest sampleLibrary4 sampleEnv4 storedOrders 0 sampleServer samplePrefix4
        (sampleRequest4 3 [2, 0, 0, 0, 0, 0x42] [0, 0, 0, 0] (some [10, 0, 0, 1]))).written,
      AddressedPerRFC (sampleRequest4 3 [2, 0, 0, 0, 0, 0x42] [0, 0, 0, 0] (some [10, 0, 0, 1]))
        frame := by
  refine ⟨sampleLibrary4_replies, sampleLibrary4_setsMessageType, by decide +kernel, ?_⟩
  exact ((replies_addressed_iff sampleEnv4 storedOrders 0 sampleServer samplePrefix4
    sampleLibrary4_replies sampleLibrary4_setsMessageType rfl).mpr (Or.inl rfl)).2

/-- A client that renews an address it may not keep is refused at that address. -/
theorem renewing_client_refused_by_unicast :
    (replyToRequest sampleLibrary4 sampleEnv4 storedOrders 0 sampleServer samplePrefix4
        (sampleRequest4 3 [2, 0, 0, 0, 0, 0x42] [192, 168, 50, 250] none)).written.map
      (fun frame => (frame.message.messageType, frame.dstIP, frame.dstMAC)) =
        [(.nak, [192, 168, 50, 250], [2, 0, 0, 0, 0, 0x42])] ∧
    ¬ ∀ frame ∈ (replyToRequest sampleLibrary4 sampleEnv4 storedOrders 0 sampleServer samplePrefix4
        (sampleRequest4 3 [2, 0, 0, 0, 0, 0x42] [192, 168, 50, 250] none)).written,
      AddressedPerRFC (sampleRequest4 3 [2, 0, 0, 0, 0, 0x42] [192, 168, 50, 250] none) frame := by
  constructor
  · decide +kernel
  · decide +kernel

end BridgeDhcp.Server
