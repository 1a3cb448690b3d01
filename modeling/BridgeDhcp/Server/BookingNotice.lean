/-
When a lease that is booked is also announced to its client.

Both servers book while they select, before they decide how to answer.  A DISCOVER
is always answered with the address that was booked.  A REQUEST is refused when
another address was due, and a DHCPv6 message without an IA_NA, or on an interface
without a link-local address, is answered without the address or not at all; what
was booked stays.
-/

import BridgeDhcp.Server.AddressStability
import BridgeDhcp.Server.Handshake4

set_option autoImplicit false

namespace BridgeDhcp.Server

open GoMap Netip Packet StepRun

/-! ### What changes in the table -/

def Books (before after : LeaseTable) (key : String) (ip : Addr) : Prop :=
  ∃ lease, after.entry ip = some lease ∧ before.entry ip ≠ some lease ∧ lease.key = key

section Books

variable {cfg : PoolConfig} {statics : Map String StaticBinding} {table : LeaseTable}
  {orders : RangeOrders} {now : Int} {served : Prefix} {client : Applicant}
  {requested : Option Addr} {key : String} {ip : Addr}

theorem not_books_of_entries {before after : LeaseTable}
    (fewer : ∀ ip lease, after.entry ip = some lease → before.entry ip = some lease) :
    ¬ Books before after key ip := by
  intro books
  obtain ⟨lease, found, changed, _⟩ := books
  exact changed (fewer ip lease found)

theorem books_selectAddress_iff :
    Books table (selectAddress cfg statics table orders now served client requested).2
        client.key ip ↔
      Due cfg statics table orders now served client requested ip ∧
        table.entry ip ≠ some (leaseFor cfg statics orders now served client ip) := by
  constructor
  · intro books
    obtain ⟨lease, found, changed, _⟩ := books
    by_cases some_ : ∃ target, Due cfg statics table orders now served client requested target
    · obtain ⟨target, due⟩ := some_
      rw [due.outcome, LeaseTable.entry_set] at found
      split at found
      · rename_i here
        have same : ip = target := here
        subst same
        cases found
        exact ⟨due, changed⟩
      · exact absurd found changed
    · rw [selectAddress_of_not_due (not_exists.mp some_)] at found
      exact absurd found changed
  · intro both
    obtain ⟨due, changed⟩ := both
    refine ⟨leaseFor cfg statics orders now served client ip, ?_, changed, rfl⟩
    rw [due.outcome]
    exact table.entry_set_self _

end Books

/-! ### DHCPv4 -/

/-- Whatever a frame books for its sender it announces in an OFFER or an ACK. -/
def Told4 (lib : Library4) (server : AddressServer) (input : Input) : Prop :=
  ∀ pkt served request ip, input.event = .frame pkt →
    acceptedRequest lib input.env server pkt = some (served, request) →
    Books server.leases (step4 lib server input).leases (applicant4 request).key ip →
    ∃ frame ∈ answers4 lib server input,
      (frame.message.messageType = .offer ∨ frame.message.messageType = .ack) ∧
      frame.message.yourIPAddr = ip.asSlice

/-- A REQUEST wants the address that is due to its sender, or the entry for that
is already there. -/
def AsksForDue4 (lib : Library4) (server : AddressServer) (input : Input) : Prop :=
  ∀ served request ip, serves4 lib server input = some (served, request) →
    request.messageType = .request →
    Due server.cfg server.statics.bindings server.leases input.orders input.now served
      (applicant4 request) (requestedAddr request) ip →
    wantedAddr request = some ip ∨
      server.leases.entry ip = some (leaseFor server.cfg server.statics.bindings input.orders
        input.now served (applicant4 request) ip)

section Told4

variable {lib : Library4} {server : AddressServer} {input : Input} {served : Prefix}
  {request : DHCPv4} {ip : Addr}

theorem selectIP_fst_of_due {orders : RangeOrders} {now : Int}
    (due : Due server.cfg server.statics.bindings server.leases orders now served
      (applicant4 request) (requestedAddr request) ip) :
    (selectIP server.cfg server.statics.bindings server.leases orders now served request).1 = ip ∧
      ip.isValid = true :=
  (selectAddress_eq_iff_due _ _ _ _ _ _ _ _ ip).mpr due

theorem replyToRequest_written {env : Env} {orders : RangeOrders} {now : Int} {want : Addr}
    (wants : wantedAddr request = some want)
    (due : Due server.cfg server.statics.bindings server.leases orders now served
      (applicant4 request) (requestedAddr request) ip) :
    (replyToRequest lib env orders now server served request).written =
      if ip = want then sendReply lib env server.cfg served request .ack ip
      else sendNak lib env served request := by
  obtain ⟨selected, valid⟩ := selectIP_fst_of_due due
  unfold replyToRequest
  rw [wants]
  dsimp only
  rw [selected, valid]
  by_cases same : ip = want
  · subst same
    simp
  · simp [same]

theorem replyToDiscover_written {env : Env} {orders : RangeOrders} {now : Int}
    (due : Due server.cfg server.statics.bindings server.leases orders now served
      (applicant4 request) (requestedAddr request) ip) :
    (replyToDiscover lib env orders now server served request).written =
      sendReply lib env server.cfg served request .offer ip := by
  obtain ⟨selected, valid⟩ := selectIP_fst_of_due due
  unfold replyToDiscover
  dsimp only
  rw [selected, if_pos valid]

theorem serves4_of_books {pkt : Ingress} (happens : input.event = .frame pkt)
    (accepted : acceptedRequest lib input.env server pkt = some (served, request))
    (books : Books server.leases (step4 lib server input).leases (applicant4 request).key ip) :
    serves4 lib server input = some (served, request) := by
  have cases := step4_tableStep lib server input
  generalize (step4 lib server input).leases = after at cases books
  cases cases with
  | selected net other serves =>
      obtain ⟨frame, again, _, _, acceptedAgain, _⟩ := serves4_eq_some serves
      rw [happens] at again
      cases again
      rw [accepted] at acceptedAgain
      cases acceptedAgain
      exact serves
  | unchanged _ => exact absurd books (not_books_of_entries (fun _ _ found => found))
  | swept _ =>
      exact absurd books (not_books_of_entries
        (fun _ _ found => (LeaseTable.entry_of_expireSweep found).1))
  | released target _ _ =>
      exact absurd books (not_books_of_entries (fun _ _ found => LeaseTable.entry_of_release found))
  | declined target _ _ =>
      -- The placeholder is nobody's lease.
      exfalso
      obtain ⟨lease, found, changed, own⟩ := books
      rw [LeaseTable.entry_set] at found
      split at found
      · cases found
        exact applicant4_key_ne_declined request own.symm
      · exact changed found

theorem told4_iff (replies : lib.Replies) (typed : lib.SetsMessageType) (server : AddressServer)
    (input : Input) : Told4 lib server input ↔ AsksForDue4 lib server input := by
  constructor
  · intro told served request ip serves isRequest due
    by_contra neither
    obtain ⟨otherWanted, changed⟩ := not_or.mp neither
    obtain ⟨pkt, happens, udp, port, accepted, typ⟩ := serves4_eq_some serves
    have books : Books server.leases (step4 lib server input).leases (applicant4 request).key
        ip := by
      rw [step4_leases_of_serves serves]
      exact books_selectAddress_iff.mpr ⟨due, changed⟩
    obtain ⟨frame, written, announces, _⟩ := told pkt served request ip happens accepted books
    rcases typ with isDiscover | ⟨_, want, wants⟩
    · rw [isRequest] at isDiscover
      cases isDiscover
    · have different : ip ≠ want := by
        intro same
        subst same
        exact otherWanted wants
      rw [answers4_of_accepted happens udp port accepted, isRequest] at written
      dsimp only at written
      rw [replyToRequest_written wants due, if_neg different] at written
      have nak := sendNak_messageType typed written
      rw [nak] at announces
      rcases announces with offer | ack
      · cases offer
      · cases ack
  · intro asks pkt served request ip happens accepted books
    have serves := serves4_of_books happens accepted books
    obtain ⟨other, again, udp, port, _, typ⟩ := serves4_eq_some serves
    rw [happens] at again
    cases again
    rw [step4_leases_of_serves serves] at books
    obtain ⟨due, changed⟩ := books_selectAddress_iff.mp books
    rw [answers4_of_accepted happens udp port accepted]
    rcases typ with isDiscover | ⟨isRequest, want, wants⟩
    · rw [isDiscover]
      dsimp only
      rw [replyToDiscover_written due]
      obtain ⟨frame, only, isOffer, names⟩ :=
        sendReply_frame replies typed input.env server.cfg served request .offer ip
      rw [only]
      exact ⟨frame, List.mem_singleton_self frame, Or.inl isOffer, names⟩
    · rcases asks served request ip serves isRequest due with wanted | present
      · rw [wants] at wanted
        cases wanted
        rw [isRequest]
        dsimp only
        rw [replyToRequest_written wants due, if_pos rfl]
        obtain ⟨frame, only, isAck, names⟩ :=
          sendReply_frame replies typed input.env server.cfg served request .ack ip
        rw [only]
        exact ⟨frame, List.mem_singleton_self frame, Or.inr isAck, names⟩
      · exact absurd present changed

end Told4

/-! ### DHCPv6 -/

/-- Whatever a frame books for its sender it announces in the IA_NA of an
ADVERTISE or a REPLY. -/
def Told6 (lib : Library6) (server : AddressServer) (input : Input) : Prop :=
  ∀ pkt served msg duid ip, input.event = .frame pkt →
    acceptedMessage lib input.env server pkt = some (served, msg, duid) →
    Books server.leases (step6 lib server input).leases
      (applicant6 pkt duid (hostnameOf msg)).key ip →
    ∃ frame ∈ answers6 lib server input,
      (frame.message.messageType = .advertise ∨ frame.message.messageType = .reply) ∧
      ∃ iana address, frame.message.iana = some iana ∧ address ∈ iana.addresses ∧
        address.ipv6Addr = ip.asSlice

/-- A message that asks for an address has an IA_NA and can be answered, or it finds
the entry for what is due to its sender, if anything, already there. -/
def Answerable6 (lib : Library6) (server : AddressServer) (input : Input) : Prop :=
  ∀ pkt served msg duid ip, Requests6 lib server input pkt served msg duid →
    Due server.cfg server.statics.bindings server.leases input.orders input.now served
      (applicant6 pkt duid (hostnameOf msg)) none ip →
    (msg.iana.isSome = true ∧ input.env.linkLocal.isValid = true) ∨
      server.leases.entry ip = some (leaseFor server.cfg server.statics.bindings input.orders
        input.now served (applicant6 pkt duid (hostnameOf msg)) ip)

section Told6

variable {lib : Library6} {server : AddressServer} {input : Input} {pkt : Ingress}
  {served : Prefix} {msg : DHCPv6} {duid : List UInt8} {ip : Addr}

theorem requests6_of_books (happens : input.event = .frame pkt)
    (accepted : acceptedMessage lib input.env server pkt = some (served, msg, duid))
    {key : String} (books : Books server.leases (step6 lib server input).leases key ip) :
    Requests6 lib server input pkt served msg duid := by
  by_contra idle
  apply not_books_of_entries _ books
  intro address lease found
  apply step6_entry_of_idle _ found
  intro other net decoded id requests
  obtain ⟨again, udp, port, acceptedAgain, asks⟩ := requests
  rw [happens] at again
  cases again
  rw [accepted] at acceptedAgain
  cases acceptedAgain
  exact idle ⟨happens, udp, port, accepted, asks⟩

theorem told6_iff (replies : lib.Replies) (typed : lib.SetsMessageType)
    (addressed : lib.SetsAddresses) (server : AddressServer) (input : Input) :
    Told6 lib server input ↔ Answerable6 lib server input := by
  constructor
  · intro told pkt served msg duid ip requests due
    by_contra neither
    obtain ⟨unanswerable, changed⟩ := not_or.mp neither
    have books : Books server.leases (step6 lib server input).leases
        (applicant6 pkt duid (hostnameOf msg)).key ip := by
      rw [step6_leases_of_requests requests]
      exact books_selectAddress_iff.mpr ⟨due, changed⟩
    obtain ⟨frame, written, _, iana, address, carried, member, _⟩ :=
      told pkt served msg duid ip requests.1 requests.2.2.2.1 books
    obtain ⟨selected, valid⟩ := (selectAddress_eq_iff_due _ _ _ _ _ _ _ _ ip).mpr due
    rw [answers6_of_requests requests selected valid] at written
    split at written
    · cases written
    · rename_i reply built
      unfold transmit6 at written
      split at written
      · rename_i linkLocal
        rw [List.mem_singleton.mp written] at carried
        have inReply := (preserveIAID_addresses msg reply address).mp ⟨iana, carried, member⟩
        have modifier := ((buildAnswer6_spec typed addressed built).2 address).mp inReply
        rw [withIANA_mem_addressModifiers_iff] at modifier
        exact unanswerable ⟨modifier.1, linkLocal⟩
      · cases written
  · intro answerable pkt served msg duid ip happens accepted books
    have requests := requests6_of_books happens accepted books
    rw [step6_leases_of_requests requests] at books
    obtain ⟨due, changed⟩ := books_selectAddress_iff.mp books
    rcases answerable pkt served msg duid ip requests due with ⟨asked, linkLocal⟩ | present
    · obtain ⟨selected, valid⟩ := (selectAddress_eq_iff_due _ _ _ _ _ _ _ _ ip).mpr due
      obtain ⟨reply, built⟩ := buildAnswer6_isSome input.env server.cfg ip replies requests
      obtain ⟨typ, addresses⟩ := buildAnswer6_spec typed addressed built
      rw [answers6_of_requests requests selected valid, built]
      dsimp only
      unfold transmit6
      rw [if_pos linkLocal]
      refine ⟨_, List.mem_singleton_self _, ?_, ?_⟩
      · dsimp only
        rw [preserveIAID_messageType]
        exact typ
      · obtain ⟨iana, carried, member⟩ := (preserveIAID_addresses msg reply _).mpr
          ((addresses _).mpr ((withIANA_mem_addressModifiers_iff _ _ _ _ _ _).mpr ⟨asked, rfl⟩))
        exact ⟨iana, _, carried, member, rfl⟩
    · exact absurd present changed

end Told6

/-! ### Both servers -/

/-- In every state and for every event of either server, whatever is booked for
the sender is announced to it exactly when a DHCPv4 REQUEST wants what is due and
a DHCPv6 message can be answered with it. -/
theorem booking_told_iff (lib4 : Library4) (lib6 : Library6) (replies4 : lib4.Replies)
    (typed4 : lib4.SetsMessageType) (replies6 : lib6.Replies) (typed6 : lib6.SetsMessageType)
    (addressed6 : lib6.SetsAddresses) :
    (∀ server input, Told4 lib4 server input ↔ AsksForDue4 lib4 server input) ∧
      ∀ server input, Told6 lib6 server input ↔ Answerable6 lib6 server input :=
  ⟨told4_iff replies4 typed4, told6_iff replies6 typed6 addressed6⟩

theorem sampleReply6_isSome (typ : MessageType6) {msg : DHCPv6} (modifiers : List Modifier6)
    (known : msg.clientID.isSome = true) : (sampleReply6 typ msg modifiers).isSome = true := by
  unfold sampleReply6
  rw [Option.isSome_map]
  exact known

theorem sampleReply6_messageType {typ : MessageType6} {msg reply : DHCPv6}
    {modifiers : List Modifier6} (built : sampleReply6 typ msg modifiers = some reply) :
    reply.messageType = typ := by
  obtain ⟨duid, _, same⟩ := Option.map_eq_some_iff.mp built
  rw [← same]

theorem sampleReply6_addresses {typ : MessageType6} {msg reply : DHCPv6}
    {modifiers : List Modifier6} (built : sampleReply6 typ msg modifiers = some reply)
    (address : IAAddress) :
    (∃ iana, reply.iana = some iana ∧ address ∈ iana.addresses) ↔
      Modifier6.withIANA address ∈ modifiers := by
  obtain ⟨duid, _, same⟩ := Option.map_eq_some_iff.mp built
  have listed : address ∈ modifiers.filterMap sampleAddress6 ↔
      Modifier6.withIANA address ∈ modifiers := by
    rw [List.mem_filterMap]
    constructor
    · intro found
      obtain ⟨modifier, member, reads⟩ := found
      cases modifier with
      | withIANA other =>
          cases reads
          exact member
      | _ => cases reads
    · intro member
      exact ⟨.withIANA address, member, rfl⟩
  rw [← listed, ← same]
  dsimp only
  cases modifiers.filterMap sampleAddress6 with
  | nil => simp
  | cons first rest => simp

theorem sampleLibrary6_replies : sampleLibrary6.Replies := by
  intro msg modifiers known
  exact ⟨fun _ => sampleReply6_isSome .advertise modifiers known,
    fun _ => sampleReply6_isSome .reply modifiers known⟩

theorem sampleLibrary6_setsMessageType : sampleLibrary6.SetsMessageType := by
  intro msg modifiers reply
  exact ⟨sampleReply6_messageType, sampleReply6_messageType⟩

theorem sampleLibrary6_setsAddresses : sampleLibrary6.SetsAddresses := by
  intro msg modifiers reply address built
  rcases built with advertised | replied
  · exact sampleReply6_addresses advertised address
  · exact sampleReply6_addresses replied address

/-- A REQUEST for an address of the pool and a SOLICIT, both on an empty table. -/
theorem booking_told_sample :
    (Told4 sampleLibrary4 sampleServer
        (sampleFrame4 0 3 [2, 0, 0, 0, 0, 0x42] [0, 0, 0, 0] [192, 168, 50, 100]) ↔
      AsksForDue4 sampleLibrary4 sampleServer
        (sampleFrame4 0 3 [2, 0, 0, 0, 0, 0x42] [0, 0, 0, 0] [192, 168, 50, 100])) ∧
    (Told6 sampleLibrary6 sampleServer (sampleFrame6 0 1 [2, 0, 0, 0, 0, 0x77]) ↔
      Answerable6 sampleLibrary6 sampleServer (sampleFrame6 0 1 [2, 0, 0, 0, 0, 0x77])) := by
  have both := booking_told_iff sampleLibrary4 sampleLibrary6 sampleLibrary4_replies
    sampleLibrary4_setsMessageType sampleLibrary6_replies sampleLibrary6_setsMessageType
    sampleLibrary6_setsAddresses
  exact ⟨both.1 _ _, both.2 _ _⟩

/-- A REQUEST for 10.9.9.9 is refused with a NAK, and its sender is booked at
192.168.50.100 all the same. -/
theorem refused_request_books :
    ¬ Told4 sampleLibrary4 sampleServer
      (sampleFrame4 0 3 [2, 0, 0, 0, 0, 0x42] [0, 0, 0, 0] [10, 9, 9, 9]) := by
  intro told
  have announced := told _ samplePrefix4
    (sampleRequest4 3 [2, 0, 0, 0, 0, 0x42] [0, 0, 0, 0] (some [10, 9, 9, 9]))
    (.v4 0xc0a83264) rfl rfl
    ⟨{ ip := .v4 0xc0a83264
       mac := "02:00:00:00:00:42"
       clientID := ""
       hostname := ""
       expiry := defaultLeaseTime
       static := false }, by decide, by decide, by decide⟩
  exact absurd announced (by decide)

end BridgeDhcp.Server
