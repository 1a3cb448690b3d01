/-
The stateful DHCPv6 server of one interface (IA_NA only).

As for DHCPv4, the message codec stays a parameter.  A client is identified by
the source MAC of its frame and its DUID.
-/

import BridgeDhcp.GoTime
import BridgeDhcp.Packet.Dhcp6Message
import BridgeDhcp.Server.AddressServer

set_option autoImplicit false

namespace BridgeDhcp.Server

open GoMap Netip Packet GoTime StepRun

def dhcp6ServerPort : UInt16 := 547
def dhcp6ClientPort : UInt16 := 546

/-! ### Messages -/

structure IAAddress where
  ipv6Addr : List UInt8
  preferredLifetime : Duration
  validLifetime : Duration
  deriving DecidableEq, Repr

structure IANA where
  iaid : List UInt8
  addresses : List IAAddress
  deriving DecidableEq, Repr

structure FQDN where
  labels : Option (List String)
  deriving DecidableEq, Repr

/-- A decoded message, as far as the server reads or sets it.  `clientID` holds
the bytes of the DUID, `iana` the first IA_NA. -/
structure DHCPv6 where
  messageType : MessageType6
  clientID : Option (List UInt8)
  iana : Option IANA
  fqdn : Option FQDN
  deriving DecidableEq, Repr

inductive Decoded6 where
  | message (msg : DHCPv6)
  | relay
  deriving DecidableEq, Repr

structure DUIDLL where
  linkLayerAddr : List UInt8
  deriving DecidableEq, Repr

inductive Modifier6 where
  | withServerID (duid : DUIDLL)
  | withDNS (servers : List (List UInt8))
  | withIANA (address : IAAddress)
  deriving DecidableEq, Repr

/-- The functions of the dhcpv6 package that the server calls; none is an error. -/
structure Library6 where
  fromBytes : List UInt8 → Option Decoded6
  newAdvertiseFromSolicit : DHCPv6 → List Modifier6 → Option DHCPv6
  newReplyFromMessage : DHCPv6 → List Modifier6 → Option DHCPv6

/-- A SOLICIT gets an ADVERTISE and the other requests for an address a REPLY. -/
def Library6.Replies (lib : Library6) : Prop :=
  ∀ msg modifiers, msg.clientID.isSome = true →
    (msg.messageType = .solicit → (lib.newAdvertiseFromSolicit msg modifiers).isSome = true) ∧
    (msg.messageType = .request ∨ msg.messageType = .renew ∨ msg.messageType = .rebind →
      (lib.newReplyFromMessage msg modifiers).isSome = true)

def Library6.SetsMessageType (lib : Library6) : Prop :=
  ∀ msg modifiers reply,
    (lib.newAdvertiseFromSolicit msg modifiers = some reply → reply.messageType = .advertise) ∧
    (lib.newReplyFromMessage msg modifiers = some reply → reply.messageType = .reply)

/-- An answer carries in its IA_NA exactly the addresses of its modifiers. -/
def Library6.SetsAddresses (lib : Library6) : Prop :=
  ∀ msg modifiers reply address,
    (lib.newAdvertiseFromSolicit msg modifiers = some reply ∨
      lib.newReplyFromMessage msg modifiers = some reply) →
    ((∃ iana, reply.iana = some iana ∧ address ∈ iana.addresses) ↔
      Modifier6.withIANA address ∈ modifiers)

/-! ### Reading a message -/

def hostnameOf (msg : DHCPv6) : String :=
  match msg.fqdn with
  | none => ""
  | some fqdn =>
      match fqdn.labels with
      | some (first :: _) => first
      | _ => ""

def applicant6 (pkt : Ingress) (duid : List UInt8) (hostname : String) : Applicant where
  mac := hardwareAddrString pkt.srcMAC
  clientID := hexEncode duid
  hostname := hostname

def selectIP6 (cfg : DHCP6Config) (statics : Map String StaticBinding) (table : LeaseTable)
    (orders : RangeOrders) (now : Int) (served : Prefix) (client : Applicant) :
    Addr × LeaseTable :=
  selectAddress cfg statics table orders now served client none

/-! ### Writing a reply -/

def dnsServers6 (cfg : DHCP6Config) (served : Prefix) : List (List UInt8) :=
  if cfg.dns = [] then [served.addr.asSlice] else cfg.dns.map Addr.asSlice

/-- Unicast the reply to the client's link-local address; without an address of
its own the server stays silent. -/
def transmit6 (env : Env) (pkt : Ingress) (reply : DHCPv6) : List (UdpFrame DHCPv6) :=
  if env.linkLocal.isValid then
    [{ srcMAC := env.mac
       dstMAC := pkt.srcMAC
       srcIP := env.linkLocal.asSlice
       dstIP := pkt.srcIP
       srcPort := dhcp6ServerPort
       dstPort := dhcp6ClientPort
       message := reply }]
  else []

def addressModifiers (env : Env) (cfg : DHCP6Config) (served : Prefix) (msg : DHCPv6)
    (ip : Addr) : List Modifier6 :=
  let common : List Modifier6 := [.withServerID ⟨env.mac⟩, .withDNS (dnsServers6 cfg served)]
  match msg.iana with
  | none => common
  | some _ => common ++
      [.withIANA
        { ipv6Addr := ip.asSlice
          preferredLifetime := Int.tdiv cfg.leaseTime 2
          validLifetime := cfg.leaseTime }]

def preserveIAID (msg reply : DHCPv6) : DHCPv6 :=
  match msg.iana with
  | none => reply
  | some asked =>
      { reply with iana := reply.iana.map (fun answered => { answered with iaid := asked.iaid }) }

@[simp] theorem preserveIAID_messageType (msg reply : DHCPv6) :
    (preserveIAID msg reply).messageType = reply.messageType := by
  unfold preserveIAID
  cases msg.iana with
  | none => rfl
  | some asked => rfl

theorem preserveIAID_addresses (msg reply : DHCPv6) (address : IAAddress) :
    (∃ iana, (preserveIAID msg reply).iana = some iana ∧ address ∈ iana.addresses) ↔
      ∃ iana, reply.iana = some iana ∧ address ∈ iana.addresses := by
  unfold preserveIAID
  cases msg.iana with
  | none => exact Iff.rfl
  | some asked =>
      cases reply.iana with
      | none => simp
      | some answered => simp

theorem withIANA_mem_addressModifiers_iff (env : Env) (cfg : DHCP6Config) (served : Prefix)
    (msg : DHCPv6) (ip : Addr) (address : IAAddress) :
    Modifier6.withIANA address ∈ addressModifiers env cfg served msg ip ↔
      msg.iana.isSome = true ∧ address =
        { ipv6Addr := ip.asSlice
          preferredLifetime := Int.tdiv cfg.leaseTime 2
          validLifetime := cfg.leaseTime } := by
  unfold addressModifiers
  cases msg.iana with
  | none => simp
  | some asked => simp

section Handlers

variable (lib : Library6) (env : Env) (orders : RangeOrders) (now : Int)

def replyAddress (server : AddressServer) (served : Prefix) (pkt : Ingress) (msg : DHCPv6)
    (duid : List UInt8) (advertise : Bool) : Handled DHCPv6 :=
  let selected := selectIP6 server.cfg server.statics.bindings server.leases orders now served
    (applicant6 pkt duid (hostnameOf msg))
  let modifiers := addressModifiers env server.cfg served msg selected.1
  let built := if advertise then lib.newAdvertiseFromSolicit msg modifiers
    else lib.newReplyFromMessage msg modifiers
  { consumed := true
    server := { server with leases := selected.2 }
    written := if selected.1.isValid then
        match built with
        | none => []
        | some reply => transmit6 env pkt (preserveIAID msg reply)
      else [] }

def replyStatus (pkt : Ingress) (msg : DHCPv6) : List (UdpFrame DHCPv6) :=
  match lib.newReplyFromMessage msg [.withServerID ⟨env.mac⟩] with
  | none => []
  | some reply => transmit6 env pkt reply

def replyInformation (cfg : DHCP6Config) (served : Prefix) (pkt : Ingress) (msg : DHCPv6) :
    List (UdpFrame DHCPv6) :=
  match lib.newReplyFromMessage msg
      [.withServerID ⟨env.mac⟩, .withDNS (dnsServers6 cfg served)] with
  | none => []
  | some reply => transmit6 env pkt reply

def handleRelease6 (server : AddressServer) (pkt : Ingress) (duid : List UInt8) :
    AddressServer :=
  match server.leases.byClient orders.leases now (hardwareAddrString pkt.srcMAC)
      (hexEncode duid) with
  | none => server
  | some lease => { server with leases := (server.leases.release lease.ip).2 }

/-- The message a frame carries, with its DUID, if the server has to act on it. -/
def acceptedMessage (server : AddressServer) (pkt : Ingress) :
    Option (Prefix × DHCPv6 × List UInt8) :=
  match env.v6 with
  | none => none
  | some served =>
      if server.cfg.enabled = false then none
      else
        match lib.fromBytes pkt.payload with
        | some (.message msg) => msg.clientID.map (fun duid => (served, msg, duid))
        | _ => none

def handleFrame6 (server : AddressServer) (pkt : Ingress) : Handled DHCPv6 :=
  let unchanged (consumed : Bool) (written : List (UdpFrame DHCPv6)) : Handled DHCPv6 :=
    { consumed := consumed, server := server, written := written }
  if !pkt.isUDP6 || pkt.dstPort != dhcp6ServerPort then unchanged false []
  else
    match acceptedMessage lib env server pkt with
    | none => unchanged true []
    | some (served, msg, duid) =>
        match msg.messageType with
        | .solicit => replyAddress lib env orders now server served pkt msg duid true
        | .request => replyAddress lib env orders now server served pkt msg duid false
        | .renew => replyAddress lib env orders now server served pkt msg duid false
        | .rebind => replyAddress lib env orders now server served pkt msg duid false
        | .release =>
            { consumed := true
              server := handleRelease6 orders now server pkt duid
              written := replyStatus lib env pkt msg }
        | .informationRequest =>
            unchanged true (replyInformation lib env server.cfg served pkt msg)
        | _ => unchanged true []

end Handlers

def step6 (lib : Library6) : AddressServer → Input → AddressServer :=
  stepWith (handleFrame6 lib)

/-! ### What a frame asks for -/

inductive Ask6 where
  | address (served : Prefix) (client : Applicant)
  | release (mac clientID : String)
  | nothing

def ask6 (lib : Library6) (env : Env) (server : AddressServer) (pkt : Ingress) : Ask6 :=
  if !pkt.isUDP6 || pkt.dstPort != dhcp6ServerPort then .nothing
  else
    match acceptedMessage lib env server pkt with
    | none => .nothing
    | some (served, msg, duid) =>
        let client := applicant6 pkt duid (hostnameOf msg)
        match msg.messageType with
        | .solicit => .address served client
        | .request => .address served client
        | .renew => .address served client
        | .rebind => .address served client
        | .release => .release client.mac client.clientID
        | _ => .nothing

def answer6 (orders : RangeOrders) (now : Int) (server : AddressServer) : Ask6 → LeaseTable
  | .address served client =>
      (selectIP6 server.cfg server.statics.bindings server.leases orders now served client).2
  | .release mac clientID =>
      match server.leases.byClient orders.leases now mac clientID with
      | none => server.leases
      | some lease => (server.leases.release lease.ip).2
  | .nothing => server.leases

theorem handleFrame6_server (lib : Library6) (env : Env) (orders : RangeOrders) (now : Int)
    (server : AddressServer) (pkt : Ingress) :
    (handleFrame6 lib env orders now server pkt).server =
      { server with leases := answer6 orders now server (ask6 lib env server pkt) } := by
  unfold handleFrame6 ask6
  dsimp only
  split
  · rfl
  · cases accepted : acceptedMessage lib env server pkt with
    | none => rfl
    | some found =>
        obtain ⟨served, msg, duid⟩ := found
        dsimp only
        cases msg.messageType with
        | release =>
            dsimp only [handleRelease6, answer6, applicant6]
            cases server.leases.byClient orders.leases now (hardwareAddrString pkt.srcMAC)
                (hexEncode duid) with
            | none => rfl
            | some lease => rfl
        | _ => rfl

theorem step6_cfg (lib : Library6) (server : AddressServer) (input : Input) :
    (step6 lib server input).cfg = server.cfg := by
  apply stepWith_cfg
  intro env orders now pkt
  rw [handleFrame6_server]

/-- The client an event makes the server call `selectIP6` for, with the prefix. -/
def serves6 (lib : Library6) (server : AddressServer) (input : Input) :
    Option (Prefix × Applicant) :=
  match input.event with
  | .frame pkt =>
      match ask6 lib input.env server pkt with
      | .address served client => some (served, client)
      | _ => none
  | _ => none

def selected6 (server : AddressServer) (orders : RangeOrders) (now : Int) (served : Prefix)
    (client : Applicant) : Addr :=
  (selectIP6 server.cfg server.statics.bindings server.leases orders now served client).1

theorem run6_cfg (lib : Library6) (server : AddressServer) (inputs : List Input) :
    (run (step6 lib) server inputs).cfg = server.cfg := by
  apply run_invariant (step6 lib) (fun state => state.cfg = server.cfg) (fun _ _ => True)
  · intro state input _ same
    exact (step6_cfg lib state input).trans same
  · rfl
  · intro before input after split
    trivial

theorem step6_leases (lib : Library6) (server : AddressServer) (input : Input) :
    (step6 lib server input).leases =
      match input.event with
      | .frame pkt => answer6 input.orders input.now server (ask6 lib input.env server pkt)
      | .sweep => server.leases.expireSweep input.now
      | .releaseLease ip => (server.leases.release ip).2
      | _ => server.leases := by
  unfold step6
  rw [stepWith_leases]
  cases input.event with
  | frame pkt => exact congrArg AddressServer.leases (handleFrame6_server _ _ _ _ _ _)
  | _ => rfl

def answers6 (lib : Library6) (server : AddressServer) (input : Input) :
    List (UdpFrame DHCPv6) :=
  match input.event with
  | .frame pkt => (handleFrame6 lib input.env input.orders input.now server pkt).written
  | _ => []

def asksAddress : MessageType6 → Bool
  | .solicit => true
  | .request => true
  | .renew => true
  | .rebind => true
  | _ => false

/-- The message an event makes the server call `selectIP6` for, with its DUID. -/
def Requests6 (lib : Library6) (server : AddressServer) (input : Input) (pkt : Ingress)
    (served : Prefix) (msg : DHCPv6) (duid : List UInt8) : Prop :=
  input.event = .frame pkt ∧ pkt.isUDP6 = true ∧ pkt.dstPort = dhcp6ServerPort ∧
    acceptedMessage lib input.env server pkt = some (served, msg, duid) ∧
    asksAddress msg.messageType = true

section Requests

variable {lib : Library6} {server : AddressServer} {input : Input} {pkt : Ingress}
  {served : Prefix} {msg : DHCPv6} {duid : List UInt8}

theorem handleFrame6_of_requests (requests : Requests6 lib server input pkt served msg duid) :
    handleFrame6 lib input.env input.orders input.now server pkt =
      replyAddress lib input.env input.orders input.now server served pkt msg duid
        (msg.messageType == .solicit) := by
  obtain ⟨_, udp, port, accepted, typ⟩ := requests
  unfold handleFrame6
  rw [udp, port, accepted]
  dsimp only
  rw [if_neg (by decide)]
  cases isType : msg.messageType with
  | solicit | request | renew | rebind => rfl
  | _ =>
      rw [isType] at typ
      cases typ

theorem requests6_of_ask6 {client : Applicant} (happens : input.event = .frame pkt)
    (asks : ask6 lib input.env server pkt = .address served client) :
    ∃ msg duid, Requests6 lib server input pkt served msg duid ∧
      client = applicant6 pkt duid (hostnameOf msg) := by
  unfold ask6 at asks
  split at asks
  · cases asks
  · rename_i ours
    rw [Bool.or_eq_true, not_or, Bool.not_eq_true', Bool.not_eq_false, bne_iff_ne,
      not_not] at ours
    cases accepted : acceptedMessage lib input.env server pkt with
    | none =>
        rw [accepted] at asks
        cases asks
    | some found =>
        obtain ⟨net, msg, duid⟩ := found
        rw [accepted] at asks
        dsimp only at asks
        cases typ : msg.messageType with
        | solicit | request | renew | rebind =>
            rw [typ] at asks
            cases asks
            exact ⟨msg, duid, ⟨happens, ours.1, ours.2, accepted, by rw [typ]; rfl⟩, rfl⟩
        | _ =>
            rw [typ] at asks
            cases asks

theorem step6_entry_of_idle
    (idle : ∀ pkt served msg duid, ¬ Requests6 lib server input pkt served msg duid)
    {ip : Addr} {lease : Lease}
    (found : (step6 lib server input).leases.entry ip = some lease) :
    server.leases.entry ip = some lease := by
  rw [step6_leases] at found
  cases happens : input.event with
  | frame pkt =>
      rw [happens] at found
      dsimp only at found
      cases asks : ask6 lib input.env server pkt with
      | address served client =>
          obtain ⟨msg, duid, requests, _⟩ := requests6_of_ask6 happens asks
          exact absurd requests (idle pkt served msg duid)
      | release mac clientID =>
          rw [asks] at found
          dsimp only [answer6] at found
          split at found
          · exact found
          · exact LeaseTable.entry_of_release found
      | nothing =>
          rw [asks] at found
          exact found
  | sweep =>
      rw [happens] at found
      exact (LeaseTable.entry_of_expireSweep found).1
  | releaseLease target =>
      rw [happens] at found
      exact LeaseTable.entry_of_release found
  | _ =>
      rw [happens] at found
      exact found

theorem acceptedMessage_clientID {env : Env}
    (accepted : acceptedMessage lib env server pkt = some (served, msg, duid)) :
    msg.clientID = some duid := by
  unfold acceptedMessage at accepted
  split at accepted
  · cases accepted
  · split at accepted
    · cases accepted
    · split at accepted
      · obtain ⟨found, present, same⟩ := Option.map_eq_some_iff.mp accepted
        cases same
        exact present
      · cases accepted

def buildAnswer6 (lib : Library6) (env : Env) (cfg : DHCP6Config) (served : Prefix)
    (msg : DHCPv6) (ip : Addr) : Option DHCPv6 :=
  if msg.messageType == .solicit then
    lib.newAdvertiseFromSolicit msg (addressModifiers env cfg served msg ip)
  else lib.newReplyFromMessage msg (addressModifiers env cfg served msg ip)

theorem step6_leases_of_requests (requests : Requests6 lib server input pkt served msg duid) :
    (step6 lib server input).leases =
      (selectIP6 server.cfg server.statics.bindings server.leases input.orders input.now served
        (applicant6 pkt duid (hostnameOf msg))).2 := by
  unfold step6
  rw [stepWith_leases, requests.1]
  dsimp only
  rw [handleFrame6_of_requests requests]
  rfl

theorem answers6_of_requests (requests : Requests6 lib server input pkt served msg duid)
    {ip : Addr}
    (selected : (selectIP6 server.cfg server.statics.bindings server.leases input.orders input.now
      served (applicant6 pkt duid (hostnameOf msg))).1 = ip) (valid : ip.isValid = true) :
    answers6 lib server input =
      match buildAnswer6 lib input.env server.cfg served msg ip with
      | none => []
      | some reply => transmit6 input.env pkt (preserveIAID msg reply) := by
  unfold answers6
  rw [requests.1]
  dsimp only
  rw [handleFrame6_of_requests requests]
  unfold replyAddress buildAnswer6
  dsimp only
  rw [selected, if_pos valid]

theorem buildAnswer6_isSome (env : Env) (cfg : DHCP6Config) (ip : Addr) (replies : lib.Replies)
    (requests : Requests6 lib server input pkt served msg duid) :
    ∃ reply, buildAnswer6 lib env cfg served msg ip = some reply := by
  obtain ⟨_, _, _, accepted, asks⟩ := requests
  have known : msg.clientID.isSome = true := by
    rw [acceptedMessage_clientID accepted]
    rfl
  obtain ⟨advertises, answers⟩ := replies msg (addressModifiers env cfg served msg ip) known
  unfold buildAnswer6
  cases typ : msg.messageType with
  | solicit => exact Option.isSome_iff_exists.mp (advertises typ)
  | request => exact Option.isSome_iff_exists.mp (answers (Or.inl typ))
  | renew => exact Option.isSome_iff_exists.mp (answers (Or.inr (Or.inl typ)))
  | rebind => exact Option.isSome_iff_exists.mp (answers (Or.inr (Or.inr typ)))
  | _ =>
      rw [typ] at asks
      cases asks

theorem buildAnswer6_spec {env : Env} {cfg : DHCP6Config} {ip : Addr} {reply : DHCPv6}
    (typed : lib.SetsMessageType) (addressed : lib.SetsAddresses)
    (built : buildAnswer6 lib env cfg served msg ip = some reply) :
    (reply.messageType = .advertise ∨ reply.messageType = .reply) ∧
      ∀ address, (∃ iana, reply.iana = some iana ∧ address ∈ iana.addresses) ↔
        Modifier6.withIANA address ∈ addressModifiers env cfg served msg ip := by
  unfold buildAnswer6 at built
  split at built
  · refine ⟨Or.inl ((typed msg _ reply).1 built), ?_⟩
    intro address
    exact addressed msg _ reply address (Or.inl built)
  · refine ⟨Or.inr ((typed msg _ reply).2 built), ?_⟩
    intro address
    exact addressed msg _ reply address (Or.inr built)

end Requests

end BridgeDhcp.Server
