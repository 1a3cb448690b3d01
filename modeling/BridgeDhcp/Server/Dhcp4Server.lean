/-
The DHCPv4 server of one interface.

The message codec is a third-party package and stays a parameter: decoding a
payload and starting a reply from a request.  Everything the server itself
decides is here: which message leads to a booking, a release or a placeholder,
which reply is written, and where it is sent.
-/

import BridgeDhcp.GoTime
import BridgeDhcp.Server.AddressServer

set_option autoImplicit false

namespace BridgeDhcp.Server

open GoMap Netip Packet GoTime StepRun

def dhcp4ServerPort : UInt16 := 67
def dhcp4ClientPort : UInt16 := 68

def broadcastMAC : List UInt8 := [0xff, 0xff, 0xff, 0xff, 0xff, 0xff]

/-- `net.IPv4bcast`, in its sixteen-byte form. -/
def broadcastIP4 : List UInt8 :=
  [0, 0, 0, 0, 0, 0, 0, 0, 0, 0, 0xff, 0xff, 0xff, 0xff, 0xff, 0xff]

/-! ### Messages -/

inductive OpCode where
  | bootRequest
  | bootReply
  | other (code : UInt8)
  deriving DecidableEq, Repr

inductive MessageType4 where
  | discover
  | offer
  | request
  | decline
  | ack
  | nak
  | release
  | inform
  | other (code : UInt8)
  deriving DecidableEq, Repr

/-- A decoded message, as far as the server reads or sets it.  Slices may have
any length; the nil slice is empty. -/
structure DHCPv4 where
  opCode : OpCode
  messageType : MessageType4
  clientHWAddr : List UInt8
  clientIPAddr : List UInt8
  yourIPAddr : List UInt8
  isBroadcast : Bool
  /-- Option 61, empty when absent. -/
  clientIdentifier : List UInt8
  /-- Option 50. -/
  requestedIPAddress : Option (List UInt8)
  /-- Option 12, empty when absent. -/
  hostName : String
  deriving DecidableEq, Repr

inductive Modifier4 where
  | withMessageType (typ : MessageType4)
  | withServerIP (ip : List UInt8)
  | optServerIdentifier (ip : List UInt8)
  | optSubnetMask (mask : List UInt8)
  | optRouter (ip : List UInt8)
  | optDNS (servers : List (List UInt8))
  | optIPAddressLeaseTime (duration : Duration)
  | optRenewTimeValue (duration : Duration)
  | optRebindingTimeValue (duration : Duration)
  deriving DecidableEq, Repr

/-- The functions of the dhcpv4 package that the server calls; none is an error. -/
structure Library4 where
  fromBytes : List UInt8 → Option DHCPv4
  newReplyFromRequest : DHCPv4 → List Modifier4 → Option DHCPv4

def Library4.SetsMessageType (lib : Library4) : Prop :=
  ∀ request typ others reply, (∀ other, Modifier4.withMessageType other ∉ others) →
    lib.newReplyFromRequest request (.withMessageType typ :: others) = some reply →
    reply.messageType = typ

def Library4.Replies (lib : Library4) : Prop :=
  ∀ request modifiers, (lib.newReplyFromRequest request modifiers).isSome = true

/-! ### Reading a request -/

def clientIDOf (request : DHCPv4) : String := hexEncode request.clientIdentifier

def applicant4 (request : DHCPv4) : Applicant where
  mac := hardwareAddrString request.clientHWAddr
  clientID := clientIDOf request
  hostname := request.hostName

def requestedAddr (request : DHCPv4) : Option Addr :=
  request.requestedIPAddress.bind (fun ip => addrFromSlice (to4 ip))

/-- The address a REQUEST asks for: option 50, else ciaddr. -/
def wantedAddr (request : DHCPv4) : Option Addr :=
  let want := (requestedAddr request).getD .invalid
  if !want.isValid || want.isUnspecified then
    match addrFromSlice (to4 request.clientIPAddr) with
    | none => none
    | some ciaddr => if !ciaddr.isValid || ciaddr.isUnspecified then none else some ciaddr
  else some want

def selectIP (cfg : DHCP4Config) (statics : Map String StaticBinding) (table : LeaseTable)
    (orders : RangeOrders) (now : Int) (served : Prefix) (request : DHCPv4) :
    Addr × LeaseTable :=
  selectAddress cfg statics table orders now served (applicant4 request) (requestedAddr request)

/-! ### Writing a reply -/

def dnsServers4 (cfg : DHCP4Config) (served : Prefix) : List (List UInt8) :=
  if cfg.dns = [] then [served.addr.asSlice] else cfg.dns.map Addr.asSlice

/-- Address the reply frame: to ciaddr, to everyone, or to the new address. -/
def transmit4 (env : Env) (served : Prefix) (request reply : DHCPv4) (yiaddr : Addr) :
    UdpFrame DHCPv4 :=
  let unicastKnown := request.clientIPAddr ≠ [] ∧ ipIsUnspecified request.clientIPAddr = false
  let broadcast :=
    reply.messageType = .nak ∨ request.isBroadcast = true ∨ yiaddr.isValid = false
  { srcMAC := env.mac
    dstMAC := if unicastKnown then request.clientHWAddr
      else if broadcast then broadcastMAC else request.clientHWAddr
    srcIP := served.addr.asSlice
    dstIP := if unicastKnown then request.clientIPAddr
      else if broadcast then broadcastIP4 else yiaddr.asSlice
    srcPort := dhcp4ServerPort
    dstPort := dhcp4ClientPort
    message := reply }

def replyModifiers (cfg : DHCP4Config) (served : Prefix) (typ : MessageType4) :
    List Modifier4 :=
  let gateway := served.addr.asSlice
  [.withMessageType typ,
    .withServerIP gateway,
    .optServerIdentifier gateway,
    .optSubnetMask (cidrMask4 served.bits),
    .optRouter gateway,
    .optDNS (dnsServers4 cfg served),
    .optIPAddressLeaseTime cfg.leaseTime,
    .optRenewTimeValue (Int.tdiv cfg.leaseTime 2),
    .optRebindingTimeValue (Int.tdiv (wrap64 (cfg.leaseTime * 7)) 8)]

def sendReply (lib : Library4) (env : Env) (cfg : DHCP4Config) (served : Prefix)
    (request : DHCPv4) (typ : MessageType4) (ip : Addr) : List (UdpFrame DHCPv4) :=
  match lib.newReplyFromRequest request (replyModifiers cfg served typ) with
  | none => []
  | some reply => [transmit4 env served request { reply with yourIPAddr := ip.asSlice } ip]

def sendNak (lib : Library4) (env : Env) (served : Prefix) (request : DHCPv4) :
    List (UdpFrame DHCPv4) :=
  match lib.newReplyFromRequest request
      [.withMessageType .nak, .optServerIdentifier served.addr.asSlice] with
  | none => []
  | some reply => [transmit4 env served request reply .invalid]

section Types

variable {lib : Library4} {request reply : DHCPv4}

theorem Library4.SetsMessageType.ofReply (typed : lib.SetsMessageType) {cfg : DHCP4Config}
    {served : Prefix} {typ : MessageType4}
    (built : lib.newReplyFromRequest request (replyModifiers cfg served typ) = some reply) :
    reply.messageType = typ := by
  apply typed request typ _ reply _ built
  intro other member
  simp at member

theorem Library4.SetsMessageType.ofNak (typed : lib.SetsMessageType) {server : List UInt8}
    (built : lib.newReplyFromRequest request
      [.withMessageType .nak, .optServerIdentifier server] = some reply) :
    reply.messageType = .nak := by
  apply typed request .nak _ reply _ built
  intro other member
  simp at member

end Types

theorem sendReply_frame {lib : Library4} (replies : lib.Replies) (typed : lib.SetsMessageType)
    (env : Env) (cfg : DHCP4Config) (served : Prefix) (request : DHCPv4) (typ : MessageType4)
    (ip : Addr) :
    ∃ frame, sendReply lib env cfg served request typ ip = [frame] ∧
      frame.message.messageType = typ ∧ frame.message.yourIPAddr = ip.asSlice := by
  unfold sendReply
  cases built : lib.newReplyFromRequest request (replyModifiers cfg served typ) with
  | none =>
      have impossible := replies request (replyModifiers cfg served typ)
      rw [built] at impossible
      cases impossible
  | some reply =>
      have ofType := typed.ofReply built
      exact ⟨_, rfl, ofType, rfl⟩

theorem sendNak_messageType {lib : Library4} (typed : lib.SetsMessageType) {env : Env}
    {served : Prefix} {request : DHCPv4} {frame : UdpFrame DHCPv4}
    (written : frame ∈ sendNak lib env served request) : frame.message.messageType = .nak := by
  unfold sendNak at written
  split at written
  · cases written
  · rename_i reply built
    rw [List.mem_singleton.mp written]
    exact typed.ofNak built

/-! ### Handling a frame -/

section Handlers

variable (lib : Library4) (env : Env) (orders : RangeOrders) (now : Int)

def replyToDiscover (server : AddressServer) (served : Prefix) (request : DHCPv4) :
    Handled DHCPv4 :=
  let selected := selectIP server.cfg server.statics.bindings server.leases orders now served
    request
  { consumed := true
    server := { server with leases := selected.2 }
    written := if selected.1.isValid then
      sendReply lib env server.cfg served request .offer selected.1 else [] }

def replyToRequest (server : AddressServer) (served : Prefix) (request : DHCPv4) :
    Handled DHCPv4 :=
  match wantedAddr request with
  | none =>
      { consumed := true
        server := server
        written := sendNak lib env served request }
  | some want =>
      let selected := selectIP server.cfg server.statics.bindings server.leases orders now served
        request
      { consumed := true
        server := { server with leases := selected.2 }
        written := if !selected.1.isValid || selected.1 != want then
          sendNak lib env served request
          else sendReply lib env server.cfg served request .ack selected.1 }

def handleRelease4 (server : AddressServer) (request : DHCPv4) : AddressServer :=
  match addrFromSlice (to4 request.clientIPAddr) with
  | none => server
  | some ip => { server with leases := (server.leases.release ip).2 }

def declinedLease (cfg : DHCP4Config) (now : Int) (ip : Addr) : Lease where
  ip := ip
  mac := "declined"
  clientID := ""
  hostname := ""
  expiry := now + cfg.leaseTime
  static := false

def handleDecline4 (server : AddressServer) (request : DHCPv4) : AddressServer :=
  match requestedAddr request with
  | none => server
  | some ip => { server with leases := server.leases.set (declinedLease server.cfg now ip) }

def acceptedRequest (server : AddressServer) (pkt : Ingress) : Option (Prefix × DHCPv4) :=
  match env.v4 with
  | none => none
  | some served =>
      if server.cfg.enabled = false then none
      else
        match lib.fromBytes pkt.payload with
        | none => none
        | some request =>
            if request.opCode = .bootRequest then some (served, request) else none

def handleFrame4 (server : AddressServer) (pkt : Ingress) : Handled DHCPv4 :=
  let silent (consumed : Bool) (after : AddressServer) : Handled DHCPv4 :=
    { consumed := consumed, server := after, written := [] }
  if !pkt.isUDP4 || pkt.dstPort != dhcp4ServerPort then silent false server
  else
    match acceptedRequest lib env server pkt with
    | none => silent true server
    | some (served, request) =>
        match request.messageType with
        | .discover => replyToDiscover lib env orders now server served request
        | .request => replyToRequest lib env orders now server served request
        | .release => silent true (handleRelease4 server request)
        | .decline => silent true (handleDecline4 now server request)
        | _ => silent true server

end Handlers

def step4 (lib : Library4) : AddressServer → Input → AddressServer :=
  stepWith (handleFrame4 lib)

/-! ### What a frame asks for -/

/-- The only requests that reach the lease table.  A REQUEST without a wanted
address is refused before it does. -/
inductive Ask4 where
  | discover (served : Prefix) (request : DHCPv4)
  | request (served : Prefix) (request : DHCPv4) (want : Addr)
  | release (request : DHCPv4) (ip : Addr)
  | decline (served : Prefix) (request : DHCPv4) (ip : Addr)
  | nothing

def ask4 (lib : Library4) (env : Env) (server : AddressServer) (pkt : Ingress) : Ask4 :=
  if !pkt.isUDP4 || pkt.dstPort != dhcp4ServerPort then .nothing
  else
    match acceptedRequest lib env server pkt with
    | none => .nothing
    | some (served, request) =>
        match request.messageType with
        | .discover => .discover served request
        | .request =>
            match wantedAddr request with
            | none => .nothing
            | some want => .request served request want
        | .release =>
            match addrFromSlice (to4 request.clientIPAddr) with
            | none => .nothing
            | some ip => .release request ip
        | .decline =>
            match requestedAddr request with
            | none => .nothing
            | some ip => .decline served request ip
        | _ => .nothing

theorem acceptedRequest_eq_some {lib : Library4} {env : Env} {server : AddressServer}
    {pkt : Ingress} {served : Prefix} {request : DHCPv4}
    (accepted : acceptedRequest lib env server pkt = some (served, request)) :
    env.v4 = some served ∧ server.cfg.enabled = true ∧
      lib.fromBytes pkt.payload = some request ∧ request.opCode = .bootRequest := by
  unfold acceptedRequest at accepted
  split at accepted
  · cases accepted
  · rename_i prefix4 serving
    split at accepted
    · cases accepted
    · rename_i enabled
      split at accepted
      · cases accepted
      · rename_i decoded decodes
        split at accepted
        · rename_i boots
          cases accepted
          exact ⟨serving, eq_true_of_ne_false enabled, decodes, boots⟩
        · cases accepted

theorem ask4_of_accepted {lib : Library4} {env : Env} {server : AddressServer} {pkt : Ingress}
    {served : Prefix} {request : DHCPv4} (udp : pkt.isUDP4 = true)
    (port : pkt.dstPort = dhcp4ServerPort)
    (accepted : acceptedRequest lib env server pkt = some (served, request)) :
    ask4 lib env server pkt =
      match request.messageType with
      | .discover => .discover served request
      | .request =>
          match wantedAddr request with
          | none => .nothing
          | some want => .request served request want
      | .release =>
          match addrFromSlice (to4 request.clientIPAddr) with
          | none => .nothing
          | some ip => .release request ip
      | .decline =>
          match requestedAddr request with
          | none => .nothing
          | some ip => .decline served request ip
      | _ => .nothing := by
  unfold ask4
  rw [udp, port, accepted]
  rfl

theorem ask4_of_not_accepted {lib : Library4} {env : Env} {server : AddressServer}
    {pkt : Ingress}
    (ignored : ¬ (pkt.isUDP4 = true ∧ pkt.dstPort = dhcp4ServerPort ∧
      ∃ served request, acceptedRequest lib env server pkt = some (served, request))) :
    ask4 lib env server pkt = .nothing := by
  unfold ask4
  split
  · rfl
  · rename_i ours
    rw [Bool.or_eq_true, not_or, Bool.not_eq_true', Bool.not_eq_false, bne_iff_ne,
      not_not] at ours
    cases accepted : acceptedRequest lib env server pkt with
    | none => rfl
    | some found => exact absurd ⟨ours.1, ours.2, found.1, found.2, accepted⟩ ignored

def answer4 (orders : RangeOrders) (now : Int) (server : AddressServer) : Ask4 → LeaseTable
  | .discover served request =>
      (selectIP server.cfg server.statics.bindings server.leases orders now served request).2
  | .request served request _ =>
      (selectIP server.cfg server.statics.bindings server.leases orders now served request).2
  | .release _ ip => (server.leases.release ip).2
  | .decline _ _ ip => server.leases.set (declinedLease server.cfg now ip)
  | .nothing => server.leases

theorem handleFrame4_server (lib : Library4) (env : Env) (orders : RangeOrders) (now : Int)
    (server : AddressServer) (pkt : Ingress) :
    (handleFrame4 lib env orders now server pkt).server =
      { server with leases := answer4 orders now server (ask4 lib env server pkt) } := by
  unfold handleFrame4 ask4
  dsimp only
  split
  · rfl
  · cases accepted : acceptedRequest lib env server pkt with
    | none => rfl
    | some found =>
        obtain ⟨served, request⟩ := found
        dsimp only
        cases request.messageType with
        | request =>
            dsimp only [replyToRequest]
            cases wantedAddr request with
            | none => rfl
            | some want => rfl
        | release =>
            dsimp only [handleRelease4]
            cases addrFromSlice (to4 request.clientIPAddr) with
            | none => rfl
            | some ip => rfl
        | decline =>
            dsimp only [handleDecline4]
            cases requestedAddr request with
            | none => rfl
            | some ip => rfl
        | _ => rfl

def answers4 (lib : Library4) (server : AddressServer) (input : Input) :
    List (UdpFrame DHCPv4) :=
  match input.event with
  | .frame pkt => (handleFrame4 lib input.env input.orders input.now server pkt).written
  | _ => []

def Carries4 (lib : Library4) (input : Input) (request : DHCPv4) : Prop :=
  ∃ pkt, input.event = .frame pkt ∧ pkt.isUDP4 = true ∧ pkt.dstPort = dhcp4ServerPort ∧
    lib.fromBytes pkt.payload = some request ∧ request.opCode = .bootRequest

theorem Carries4.accepted {lib : Library4} {input : Input} {request : DHCPv4}
    {server : AddressServer} {served : Prefix} (carries : Carries4 lib input request)
    (serving : input.env.v4 = some served) (enabled : server.cfg.enabled = true) :
    ∃ pkt, input.event = .frame pkt ∧ pkt.isUDP4 = true ∧ pkt.dstPort = dhcp4ServerPort ∧
      acceptedRequest lib input.env server pkt = some (served, request) := by
  obtain ⟨pkt, happens, udp, port, decodes, boots⟩ := carries
  refine ⟨pkt, happens, udp, port, ?_⟩
  unfold acceptedRequest
  rw [serving]
  dsimp only
  rw [enabled, decodes]
  dsimp only
  rw [if_neg Bool.noConfusion, if_pos boots]

theorem answers4_of_disabled {lib : Library4} {server : AddressServer} {input : Input}
    (disabled : server.cfg.enabled = false) : answers4 lib server input = [] := by
  unfold answers4
  cases input.event with
  | frame pkt =>
      have ignored : acceptedRequest lib input.env server pkt = none := by
        unfold acceptedRequest
        rw [disabled]
        cases input.env.v4 with
        | none => rfl
        | some served => rfl
      dsimp only
      unfold handleFrame4
      rw [ignored]
      dsimp only
      split <;> rfl
  | _ => rfl

theorem answers4_of_accepted {lib : Library4} {server : AddressServer} {input : Input}
    {pkt : Ingress} {served : Prefix} {request : DHCPv4} (happens : input.event = .frame pkt)
    (udp : pkt.isUDP4 = true) (port : pkt.dstPort = dhcp4ServerPort)
    (accepted : acceptedRequest lib input.env server pkt = some (served, request)) :
    answers4 lib server input =
      match request.messageType with
      | .discover =>
          (replyToDiscover lib input.env input.orders input.now server served request).written
      | .request =>
          (replyToRequest lib input.env input.orders input.now server served request).written
      | _ => [] := by
  unfold answers4
  rw [happens]
  dsimp only
  unfold handleFrame4
  rw [udp, port, accepted]
  dsimp only
  rw [if_neg (by decide)]
  cases request.messageType <;> rfl

theorem step4_cfg (lib : Library4) (server : AddressServer) (input : Input) :
    (step4 lib server input).cfg = server.cfg := by
  apply stepWith_cfg
  intro env orders now pkt
  rw [handleFrame4_server]

theorem run4_cfg (lib : Library4) (server : AddressServer) (inputs : List Input) :
    (run (step4 lib) server inputs).cfg = server.cfg := by
  apply run_invariant (step4 lib) (fun state => state.cfg = server.cfg) (fun _ _ => True)
  · intro state input _ same
    exact (step4_cfg lib state input).trans same
  · rfl
  · intro before input after split
    trivial

/-! ### What an event does to the table -/

/-- The request an event makes the server call `selectIP` for, with the prefix. -/
def serves4 (lib : Library4) (server : AddressServer) (input : Input) :
    Option (Prefix × DHCPv4) :=
  match input.event with
  | .frame pkt =>
      match ask4 lib input.env server pkt with
      | .discover served request => some (served, request)
      | .request served request _ => some (served, request)
      | _ => none
  | _ => none

theorem serves4_of_frame (lib : Library4) (server : AddressServer) {input : Input}
    {pkt : Ingress} (happens : input.event = .frame pkt) :
    serves4 lib server input =
      match ask4 lib input.env server pkt with
      | .discover served request => some (served, request)
      | .request served request _ => some (served, request)
      | _ => none := by
  unfold serves4
  rw [happens]

theorem serves4_eq_some {lib : Library4} {server : AddressServer} {input : Input}
    {served : Prefix} {request : DHCPv4}
    (serves : serves4 lib server input = some (served, request)) :
    ∃ pkt, input.event = .frame pkt ∧ pkt.isUDP4 = true ∧ pkt.dstPort = dhcp4ServerPort ∧
      acceptedRequest lib input.env server pkt = some (served, request) ∧
      (request.messageType = .discover ∨
        request.messageType = .request ∧ ∃ want, wantedAddr request = some want) := by
  cases happens : input.event with
  | frame pkt =>
      rw [serves4_of_frame lib server happens] at serves
      by_cases ours : pkt.isUDP4 = true ∧ pkt.dstPort = dhcp4ServerPort ∧
          ∃ served request, acceptedRequest lib input.env server pkt = some (served, request)
      · obtain ⟨udp, port, prefix4, decoded, accepted⟩ := ours
        rw [ask4_of_accepted udp port accepted] at serves
        refine ⟨pkt, rfl, udp, port, ?_⟩
        cases typ : decoded.messageType with
        | discover =>
            rw [typ] at serves
            cases serves
            exact ⟨accepted, Or.inl typ⟩
        | request =>
            rw [typ] at serves
            cases wants : wantedAddr decoded with
            | none =>
                rw [wants] at serves
                cases serves
            | some want =>
                rw [wants] at serves
                cases serves
                exact ⟨accepted, Or.inr ⟨typ, want, wants⟩⟩
        | release =>
            rw [typ] at serves
            cases names : addrFromSlice (to4 decoded.clientIPAddr) with
            | none => rw [names] at serves; cases serves
            | some ip => rw [names] at serves; cases serves
        | decline =>
            rw [typ] at serves
            cases names : requestedAddr decoded with
            | none => rw [names] at serves; cases serves
            | some ip => rw [names] at serves; cases serves
        | _ =>
            rw [typ] at serves
            cases serves
      · rw [ask4_of_not_accepted ours] at serves
        cases serves
  | _ =>
      unfold serves4 at serves
      rw [happens] at serves
      cases serves

inductive TableStep4 (lib : Library4) (server : AddressServer) (input : Input) :
    LeaseTable → Prop
  | unchanged (idle : serves4 lib server input = none) :
      TableStep4 lib server input server.leases
  | selected (served : Prefix) (request : DHCPv4)
      (serves : serves4 lib server input = some (served, request)) :
      TableStep4 lib server input
        (selectIP server.cfg server.statics.bindings server.leases input.orders input.now served
          request).2
  | swept (idle : serves4 lib server input = none) :
      TableStep4 lib server input (server.leases.expireSweep input.now)
  | released (ip : Addr) (idle : serves4 lib server input = none)
      (cause : input.event = .releaseLease ip ∨ ∃ pkt request, input.event = .frame pkt ∧
        ask4 lib input.env server pkt = .release request ip) :
      TableStep4 lib server input (server.leases.release ip).2
  | declined (ip : Addr) (idle : serves4 lib server input = none)
      (cause : ∃ pkt served request, input.event = .frame pkt ∧
        ask4 lib input.env server pkt = .decline served request ip) :
      TableStep4 lib server input
        (server.leases.set (declinedLease server.cfg input.now ip))

theorem step4_tableStep (lib : Library4) (server : AddressServer) (input : Input) :
    TableStep4 lib server input (step4 lib server input).leases := by
  unfold step4
  rw [stepWith_leases]
  cases happens : input.event with
  | frame pkt =>
      dsimp only
      rw [handleFrame4_server]
      dsimp only
      cases asks : ask4 lib input.env server pkt with
      | discover served request =>
          apply TableStep4.selected served request
          rw [serves4_of_frame lib server happens, asks]
      | request served request want =>
          apply TableStep4.selected served request
          rw [serves4_of_frame lib server happens, asks]
      | release request ip =>
          apply TableStep4.released ip _ (Or.inr ⟨pkt, request, happens, asks⟩)
          rw [serves4_of_frame lib server happens, asks]
      | decline served request ip =>
          apply TableStep4.declined ip _ ⟨pkt, served, request, happens, asks⟩
          rw [serves4_of_frame lib server happens, asks]
      | nothing =>
          apply TableStep4.unchanged
          rw [serves4_of_frame lib server happens, asks]
  | sweep =>
      apply TableStep4.swept
      unfold serves4
      rw [happens]
  | releaseLease ip =>
      apply TableStep4.released ip _ (Or.inl happens)
      unfold serves4
      rw [happens]
  | _ =>
      apply TableStep4.unchanged
      unfold serves4
      rw [happens]

theorem step4_leases_of_serves {lib : Library4} {server : AddressServer} {input : Input}
    {served : Prefix} {request : DHCPv4}
    (serves : serves4 lib server input = some (served, request)) :
    (step4 lib server input).leases =
      (selectIP server.cfg server.statics.bindings server.leases input.orders input.now served
        request).2 := by
  have cases := step4_tableStep lib server input
  generalize (step4 lib server input).leases = after at cases
  cases cases with
  | selected other again same =>
      rw [serves] at same
      cases same
      rfl
  | unchanged idle => rw [serves] at idle; cases idle
  | swept idle => rw [serves] at idle; cases idle
  | released ip idle _ => rw [serves] at idle; cases idle
  | declined ip idle _ => rw [serves] at idle; cases idle

end BridgeDhcp.Server
