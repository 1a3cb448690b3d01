/-
The DHCPv4 handshake under contention.

While the static set and the prefix stay as they are and clients only discover and
request, a client without a binding holds at most one address, and that one comes from
the pool.
-/

import BridgeDhcp.Server.LeaseUniqueness

set_option autoImplicit false

namespace BridgeDhcp.Server

open GoMap Netip Packet StepRun

/-! ### Contending clients -/

/-- The event is a sweep or brings a DISCOVER or a REQUEST, under the prefix. -/
def Contention4 (lib : Library4) (served : Prefix) (input : Input) : Prop :=
  input.env.v4 = some served ∧
    (input.event = .sweep ∨
      ∃ pkt request, input.event = .frame pkt ∧ lib.fromBytes pkt.payload = some request ∧
        (request.messageType = .discover ∨ request.messageType = .request))

def Unbound (statics : StaticSet) (client : Applicant) : Prop :=
  ∀ id binding, statics.bindings.lookup id = some binding →
    bindingScore binding client.mac client.clientID = none

theorem Unbound.reservedFor {statics : StaticSet} {client : Applicant}
    (unbound : Unbound statics client) (served : Prefix) (orders : RangeOrders) :
    (reservedFor served (listBindings statics.bindings orders) client).isValid = false := by
  have unmatched : matchBinding (listBindings statics.bindings orders) client.mac
      client.clientID = none := by
    apply matchBinding_eq_none
    intro binding member
    unfold listBindings at member
    rw [RangeOrder.mem_arrange, mem_values_iff] at member
    obtain ⟨id, stored⟩ := member
    exact unbound id binding stored
  unfold Server.reservedFor
  rw [unmatched]
  rfl

/-- An address a client without a binding can have: inside the prefix, reserved
for nobody and not 0.0.0.0. -/
structure Dynamic (statics : StaticSet) (served : Prefix) (ip : Addr) : Prop where
  unreserved : ∀ orders, (staticIPs served (listBindings statics.bindings orders)).contains ip =
    false
  inside : served.contains ip = true
  positive : 0 < ip.toNat

structure Orderly (cfg : PoolConfig) (statics : StaticSet) (served : Prefix)
    (client : Applicant) (now : Int) (server : AddressServer) : Prop where
  sameCfg : server.cfg = cfg
  sameStatics : server.statics = statics
  sole : server.leases.SoleAt now client.key
  dynamic : ∀ ip lease, server.leases.entry ip = some lease → lease.key = client.key →
    Dynamic statics served ip

section Steps

variable {lib : Library4} {cfg : PoolConfig} {statics : StaticSet} {served : Prefix}
  {client : Applicant} {now : Int} {server : AddressServer} {input : Input}

theorem step4_statics (contends : Contention4 lib served input) :
    (step4 lib server input).statics = server.statics := by
  unfold step4 stepWith
  rcases contends.2 with swept | ⟨pkt, request, happens, _⟩
  · rw [swept]
  · rw [happens]
    dsimp only
    rw [handleFrame4_server]

theorem ask4_of_contention {env : Env} {pkt : Ingress} {request : DHCPv4}
    (decodes : lib.fromBytes pkt.payload = some request)
    (typ : request.messageType = .discover ∨ request.messageType = .request) :
    (∀ other ip, ask4 lib env server pkt ≠ .release other ip) ∧
      ∀ net other ip, ask4 lib env server pkt ≠ .decline net other ip := by
  by_cases ours : pkt.isUDP4 = true ∧ pkt.dstPort = dhcp4ServerPort ∧
      ∃ net other, acceptedRequest lib env server pkt = some (net, other)
  · obtain ⟨udp, port, net, other, accepted⟩ := ours
    have same : some request = some other :=
      decodes.symm.trans (acceptedRequest_eq_some accepted).2.2.1
    cases same
    rw [ask4_of_accepted udp port accepted]
    rcases typ with discovers | requests
    · rw [discovers]
      constructor <;> intros <;> exact Ask4.noConfusion
    · rw [requests]
      cases wantedAddr request with
      | none => constructor <;> intros <;> exact Ask4.noConfusion
      | some want => constructor <;> intros <;> exact Ask4.noConfusion
  · rw [ask4_of_not_accepted ours]
    constructor <;> intros <;> exact Ask4.noConfusion

theorem contention4_tableStep (server : AddressServer) (contends : Contention4 lib served input) :
    (step4 lib server input).leases = server.leases ∨
      (step4 lib server input).leases = server.leases.expireSweep input.now ∨
      ∃ request, serves4 lib server input = some (served, request) ∧
        (step4 lib server input).leases =
          (selectIP server.cfg server.statics.bindings server.leases input.orders input.now served
            request).2 := by
  have cases := step4_tableStep lib server input
  generalize (step4 lib server input).leases = after at cases
  cases cases with
  | unchanged _ => exact Or.inl rfl
  | swept _ => exact Or.inr (Or.inl rfl)
  | selected net request serves =>
      obtain ⟨pkt, _, _, _, accepted, _⟩ := serves4_eq_some serves
      have same : some net = some served :=
        (acceptedRequest_eq_some accepted).1.symm.trans contends.1
      cases same
      exact Or.inr (Or.inr ⟨request, serves, rfl⟩)
  | released ip _ cause =>
      exfalso
      rcases contends.2 with swept | ⟨pkt, request, happens, decodes, typ⟩
      · rcases cause with byApi | ⟨_, _, byFrame, _⟩
        · rw [swept] at byApi
          cases byApi
        · rw [swept] at byFrame
          cases byFrame
      · rcases cause with byApi | ⟨other, asker, byFrame, asks⟩
        · rw [happens] at byApi
          cases byApi
        · rw [happens] at byFrame
          cases byFrame
          exact (ask4_of_contention decodes typ).1 asker ip asks
  | declined ip _ cause =>
      exfalso
      obtain ⟨other, net, asker, byFrame, asks⟩ := cause
      rcases contends.2 with swept | ⟨pkt, request, happens, decodes, typ⟩
      · rw [swept] at byFrame
        cases byFrame
      · rw [happens] at byFrame
        cases byFrame
        exact (ask4_of_contention decodes typ).2 net asker ip asks

theorem PoolDue.positive {table : LeaseTable} {reserved : List Addr} {requested : Option Addr}
    {ip : Addr} (due : PoolDue cfg table now served reserved client requested ip)
    (start : cfg.poolOffsetStart ≠ 0) : 0 < ip.toNat := by
  have offset : 0 < cfg.poolOffsetStart.toNat := by
    rw [Nat.pos_iff_ne_zero]
    intro zero
    exact start (UInt64.toNat_inj.mp zero)
  have atLeast (startValid : (addrAtOffset served cfg.poolOffsetStart).isValid = true)
      (endValid : (addrAtOffset served cfg.poolOffsetEnd).isValid = true)
      (notAbove : (addrAtOffset served cfg.poolOffsetEnd).less ip = false)
      (notBelow : ip.less (addrAtOffset served cfg.poolOffsetStart) = false) : 0 < ip.toNat := by
    have above := ((Addr.between_iff (addrAtOffset_family served startValid endValid)).mp
      ⟨notAbove, notBelow⟩).2.1
    rw [addrAtOffset_toNat startValid] at above
    omega
  cases due with
  | granted startValid endValid _ grants =>
      unfold grantable at grants
      simp only [Bool.and_eq_true, Bool.not_eq_true'] at grants
      obtain ⟨⟨⟨⟨notAbove, notBelow⟩, _⟩, _⟩, _⟩ := grants
      exact atLeast startValid endValid notAbove notBelow
  | lowest startValid endValid _ least =>
      exact atLeast startValid endValid least.1.notAbove least.1.notBelow

theorem applicant4_eq_of_key {first second : DHCPv4}
    (same : (applicant4 first).key = (applicant4 second).key) :
    (applicant4 first).mac = (applicant4 second).mac ∧
      (applicant4 first).clientID = (applicant4 second).clientID :=
  clientKey_injective (hexText_hardwareAddrString _) (hexText_hexEncode _)
    (hexText_hardwareAddrString _) (hexText_hexEncode _) same

theorem Unbound.of_key {first second : DHCPv4} (unbound : Unbound statics (applicant4 first))
    (same : (applicant4 second).key = (applicant4 first).key) :
    Unbound statics (applicant4 second) := by
  obtain ⟨mac, clientID⟩ := applicant4_eq_of_key same
  intro id binding stored
  rw [mac, clientID]
  exact unbound id binding stored

theorem Orderly.due {discover request : DHCPv4} {ip : Addr}
    (orderly : Orderly cfg statics served (applicant4 discover) now server)
    (unbound : Unbound statics (applicant4 discover))
    (same : (applicant4 request).key = (applicant4 discover).key)
    (enabled : server.cfg.enabled = true) {orders : RangeOrders}
    (due : Due server.cfg server.statics.bindings server.leases orders now served
      (applicant4 request) (requestedAddr request) ip) : Dynamic statics served ip := by
  have unreserved := (unbound.of_key same).reservedFor served orders
  rw [← orderly.sameStatics] at unreserved
  have stays := due.mayKeep
  rw [mayKeep_of_unreserved unreserved, orderly.sameStatics] at stays
  refine ⟨?_, stays.2, ?_⟩
  · intro other
    rw [staticIPs_contains_eq statics.bindings served other orders]
    exact stays.1
  · cases due with
    | reserved reservation valid _ =>
        rw [reservation, valid] at unreserved
        cases unreserved
    | kept current _ found _ address =>
        obtain ⟨present, own, _⟩ := LeaseTable.byClient_some found
        rw [← address]
        exact (orderly.dynamic current.ip current present (own.trans same)).positive
    | pooled _ _ pool => exact pool.positive (server.normalized.startPositive enabled)

theorem Orderly.settled {discover request : DHCPv4}
    (orderly : Orderly cfg statics served (applicant4 discover) now server)
    (unbound : Unbound statics (applicant4 discover))
    (same : (applicant4 request).key = (applicant4 discover).key) (orders : RangeOrders) :
    Settled server.leases now served (listBindings server.statics.bindings orders)
      (applicant4 request) := by
  intro ip held
  obtain ⟨lease, found, own, _⟩ := held
  have dynamic := orderly.dynamic ip lease found (own.trans same)
  have unreserved := (unbound.of_key same).reservedFor served orders
  rw [orderly.sameStatics, mayKeep_of_unreserved unreserved]
  exact ⟨dynamic.unreserved orders, dynamic.inside⟩

theorem Orderly.due_of_held {discover request : DHCPv4} {ip : Addr} (orders : RangeOrders)
    (orderly : Orderly cfg statics served (applicant4 discover) now server)
    (unbound : Unbound statics (applicant4 discover))
    (same : (applicant4 request).key = (applicant4 discover).key)
    (held : server.leases.HeldUntil (applicant4 discover).key ip now) :
    Due server.cfg server.statics.bindings server.leases orders now served (applicant4 request)
      (requestedAddr request) ip := by
  have ours := held
  rw [← same] at ours
  obtain ⟨current, found⟩ := LeaseTable.byClient_of_heldUntil orders.leases ours
  have holds := LeaseTable.heldUntil_of_byClient found
  change server.leases.HeldUntil (applicant4 request).key current.ip now at holds
  rw [same] at holds
  have address : current.ip = ip := orderly.sole current.ip ip holds held
  have unreserved := (unbound.of_key same).reservedFor served orders
  rw [← orderly.sameStatics] at unreserved
  apply Due.kept current unreserved found _ address
  obtain ⟨lease, present, own, _⟩ := holds
  have dynamic := orderly.dynamic current.ip lease present own
  rw [keepable_iff, orderly.sameStatics]
  exact ⟨dynamic.unreserved orders, dynamic.inside⟩

theorem Orderly.step {discover : DHCPv4}
    (orderly : Orderly cfg statics served (applicant4 discover) input.now server)
    (unbound : Unbound statics (applicant4 discover))
    (contends : Contention4 lib served input) :
    Orderly cfg statics served (applicant4 discover) input.now (step4 lib server input) := by
  have sameCfg := (step4_cfg lib server input).trans orderly.sameCfg
  have sameStatics := (step4_statics contends).trans orderly.sameStatics
  rcases contention4_tableStep server contends with unchanged | swept | ⟨request, serves, selected⟩
  · exact ⟨sameCfg, sameStatics, unchanged ▸ orderly.sole, unchanged ▸ orderly.dynamic⟩
  · refine ⟨sameCfg, sameStatics, ?_, ?_⟩
    · rw [swept]
      apply orderly.sole.of_entries
      intro ip lease found
      exact (LeaseTable.entry_of_expireSweep found).1
    · intro ip lease found own
      rw [swept] at found
      exact orderly.dynamic ip lease (LeaseTable.entry_of_expireSweep found).1 own
  · refine ⟨sameCfg, sameStatics, ?_, ?_⟩
    · rw [selected]
      apply selectAddress_soleAt orderly.sole
      intro same
      exact Or.inl (orderly.settled unbound same input.orders)
    · intro ip lease found own
      rw [selected] at found
      obtain ⟨pkt, _, _, _, accepted, _⟩ := serves4_eq_some serves
      have enabled := (acceptedRequest_eq_some accepted).2.1
      rcases selectAddress_cases server.cfg server.statics.bindings server.leases input.orders
          input.now served (applicant4 request) (requestedAddr request) with
        refused | ⟨booked, stored, outcome, booking, _⟩
      · have entry : server.leases.entry ip = some lease := by
          unfold selectIP at found
          rw [refused] at found
          exact found
        exact orderly.dynamic ip lease entry own
      · have due := (selectAddress_eq_iff_due _ _ _ _ _ _ _ _ booked).mp
          ⟨congrArg Prod.fst outcome, booking.valid⟩
        unfold selectIP at found
        rw [outcome, LeaseTable.entry_set] at found
        split at found
        · rename_i here
          cases found
          rw [here, booking.address]
          exact orderly.due unbound (booking.key.symm.trans own) enabled due
        · exact orderly.dynamic ip lease found own

theorem step4_heldUntil {key : String} {ip : Addr} {deadline : Int}
    (held : server.leases.HeldUntil key ip deadline) (contends : Contention4 lib served input)
    (early : input.now ≤ deadline) (covers : deadline ≤ input.now + server.cfg.leaseTime) :
    (step4 lib server input).leases.HeldUntil key ip deadline := by
  rcases contention4_tableStep server contends with unchanged | swept | ⟨request, _, selected⟩
  · rw [unchanged]
    exact held
  · rw [swept]
    exact held.expireSweep early
  · rw [selected]
    exact held.selectAddress early covers

end Steps

/-! ### Runs -/

section Runs

variable {lib : Library4} {start : AddressServer} {served : Prefix} {inputs : List Input}

theorem run4_orderly {discover : DHCPv4} (empty : start.leases = LeaseTable.newLeaseTable)
    (unbound : Unbound start.statics (applicant4 discover))
    (contention : ∀ input ∈ inputs, Contention4 lib served input)
    (ordered : Chronological Input.now inputs) (now : Int)
    (reached : ∀ input ∈ inputs, input.now ≤ now) :
    Orderly start.cfg start.statics served (applicant4 discover) now
      (run (step4 lib) start inputs) := by
  apply run_invariant_always (step4 lib) Input.now
    (fun instant state => Orderly start.cfg start.statics served (applicant4 discover) instant
      state)
    (fun _ input => Contention4 lib served input)
  · intro earlier later state waits orderly
    exact ⟨orderly.sameCfg, orderly.sameStatics, orderly.sole.later waits, orderly.dynamic⟩
  · intro state input contends orderly
    exact orderly.step unbound contends
  · intro instant
    have none : ∀ ip lease, start.leases.entry ip ≠ some lease := by
      intro ip lease found
      rw [empty, LeaseTable.entry_newLeaseTable] at found
      cases found
    refine ⟨rfl, rfl, ?_, ?_⟩
    · intro first second held
      obtain ⟨lease, found, _⟩ := held
      exact absurd found (none first lease)
    · intro ip lease found
      exact absurd found (none ip lease)
  · exact ordered
  · exact throughout_of_forall (step4 lib) contention
  · exact reached

theorem run4_heldUntil {key : String} {ip : Addr} {booked : Int}
    (held : start.leases.HeldUntil key ip (booked + start.cfg.leaseTime))
    (contention : ∀ input ∈ inputs, Contention4 lib served input)
    (later : ∀ input ∈ inputs, booked ≤ input.now)
    (early : ∀ input ∈ inputs, input.now ≤ booked + start.cfg.leaseTime) :
    (run (step4 lib) start inputs).leases.HeldUntil key ip (booked + start.cfg.leaseTime) := by
  have kept := run_invariant (step4 lib)
    (fun state => state.cfg = start.cfg ∧
      state.leases.HeldUntil key ip (booked + start.cfg.leaseTime))
    (fun _ input => Contention4 lib served input ∧ booked ≤ input.now ∧
      input.now ≤ booked + start.cfg.leaseTime)
    (by
      intro state input allowed good
      obtain ⟨contends, notBefore, notAfter⟩ := allowed
      obtain ⟨sameCfg, holds⟩ := good
      refine ⟨(step4_cfg lib state input).trans sameCfg, ?_⟩
      apply step4_heldUntil holds contends notAfter
      rw [sameCfg]
      omega)
    start inputs ⟨rfl, held⟩
    (throughout_of_forall (step4 lib)
      (fun input member => ⟨contention input member, later input member, early input member⟩))
  exact kept.2

end Runs

/-! ### Offer and acknowledgement -/

section Messages

variable {lib : Library4} {server : AddressServer} {input : Input} {served : Prefix}
  {ip : Addr}

theorem selected_of_offer {discover : DHCPv4} (carries : Carries4 lib input discover)
    (serving : input.env.v4 = some served) (isDiscover : discover.messageType = .discover)
    (is4 : ip.is4 = true)
    (offered : ∃ frame ∈ answers4 lib server input, frame.message.yourIPAddr = ip.asSlice) :
    server.cfg.enabled = true ∧ serves4 lib server input = some (served, discover) ∧
      (selectIP server.cfg server.statics.bindings server.leases input.orders input.now served
        discover).1 = ip := by
  obtain ⟨frame, written, names⟩ := offered
  have enabled : server.cfg.enabled = true := by
    apply eq_true_of_ne_false
    intro disabled
    rw [answers4_of_disabled disabled] at written
    cases written
  obtain ⟨pkt, happens, udp, port, accepted⟩ := carries.accepted serving enabled
  refine ⟨enabled, ?_, ?_⟩
  · rw [serves4_of_frame lib server happens, ask4_of_accepted udp port accepted, isDiscover]
  · rw [answers4_of_accepted happens udp port accepted, isDiscover] at written
    dsimp only [replyToDiscover] at written
    split at written
    · rename_i valid
      have selectedIs4 : (selectIP server.cfg server.statics.bindings server.leases input.orders
          input.now served discover).1.is4 = true := by
        obtain ⟨lease, _, booking⟩ := selectAddress_booking rfl valid
        exact Addr.is4_of_bitLen ((served.contains_iff _).mp booking.inside).1
          (input.env.v4Is4 served serving)
      unfold sendReply at written
      split at written
      · cases written
      · rw [List.mem_singleton.mp written] at names
        exact asSlice_injective_is4 selectedIs4 is4 names
    · cases written

theorem wantedAddr_of_option50 {request : DHCPv4} (is4 : ip.is4 = true)
    (positive : 0 < ip.toNat) (names : request.requestedIPAddress = some ip.asSlice) :
    wantedAddr request = some ip := by
  have read : requestedAddr request = some ip := by
    unfold requestedAddr
    rw [names]
    exact addrFromSlice_asSlice is4
  have valid : ip.isValid = true := by
    cases ip with
    | invalid => cases is4
    | v4 value => rfl
    | v6 value => rfl
  unfold wantedAddr
  rw [read]
  dsimp only [Option.getD]
  rw [valid, Addr.isUnspecified_eq_false positive]
  rfl

theorem answers4_ack {request : DHCPv4} (replies : lib.Replies) (typed : lib.SetsMessageType)
    (carries : Carries4 lib input request) (serving : input.env.v4 = some served)
    (enabled : server.cfg.enabled = true) (isRequest : request.messageType = .request)
    (wants : wantedAddr request = some ip) (valid : ip.isValid = true)
    (selected : (selectIP server.cfg server.statics.bindings server.leases input.orders input.now
      served request).1 = ip) :
    ∃ frame, answers4 lib server input = [frame] ∧ frame.message.messageType = .ack ∧
      frame.message.yourIPAddr = ip.asSlice := by
  obtain ⟨pkt, happens, udp, port, accepted⟩ := carries.accepted serving enabled
  rw [answers4_of_accepted happens udp port accepted, isRequest]
  dsimp only
  unfold replyToRequest
  rw [wants]
  dsimp only
  rw [selected, valid]
  simp only [Bool.not_true, bne_self_eq_false, Bool.or_self, Bool.false_eq_true, if_false]
  exact sendReply_frame replies typed input.env server.cfg served request .ack ip

end Messages

theorem isValid_of_is4 {ip : Addr} (is4 : ip.is4 = true) : ip.isValid = true := by
  cases ip with
  | invalid => cases is4
  | v4 value => rfl
  | v6 value => rfl

/-- From its OFFER on, and through contention up to one lease time later, a client
holds the offered address. -/
theorem offer4_heldUntil {lib : Library4} {booked : AddressServer} {served : Prefix}
    {between : List Input} {offer : Input} {discover : DHCPv4} {ip : Addr} {now : Int}
    (contention : ∀ input ∈ offer :: between, Contention4 lib served input)
    (later : ∀ input ∈ between, offer.now ≤ input.now)
    (reached : ∀ input ∈ between, input.now ≤ now)
    (within : now ≤ offer.now + booked.cfg.leaseTime)
    (serves : serves4 lib booked offer = some (served, discover))
    (selected : (selectIP booked.cfg booked.statics.bindings booked.leases offer.orders offer.now
      served discover).1 = ip) (valid : ip.isValid = true) :
    (run (step4 lib) booked (offer :: between)).leases.HeldUntil (applicant4 discover).key ip
      now := by
  have sameCfg : (step4 lib booked offer).cfg = booked.cfg := step4_cfg lib booked offer
  have held : (step4 lib booked offer).leases.HeldUntil (applicant4 discover).key ip
      (offer.now + (step4 lib booked offer).cfg.leaseTime) := by
    rw [step4_leases_of_serves serves, sameCfg]
    exact selectAddress_heldUntil selected valid
  have inBetween : ∀ input ∈ between, Contention4 lib served input := by
    intro input member
    exact contention input (List.mem_cons_of_mem _ member)
  have early : ∀ input ∈ between,
      input.now ≤ offer.now + (step4 lib booked offer).cfg.leaseTime := by
    intro input member
    have notAfter := reached input member
    rw [sameCfg]
    omega
  have kept := run4_heldUntil held inBetween later early
  rw [sameCfg] at kept
  exact kept.earlier within

/-- Starting without leases, under one prefix, pool and static set, whatever other
clients discover and request: once a DISCOVER of a client without a binding was
answered with an OFFER of `ip`, its REQUEST for `ip` within the lease time is
answered with one frame, an ACK of `ip`. -/
theorem handshake4_completes (lib : Library4) (start : AddressServer) (served : Prefix)
    (before between : List Input) (offer ask : Input) (discover request : DHCPv4) (ip : Addr)
    (replies : lib.Replies) (typed : lib.SetsMessageType)
    (empty : start.leases = LeaseTable.newLeaseTable)
    (contention : ∀ input ∈ before ++ offer :: (between ++ [ask]),
      Contention4 lib served input)
    (ordered : Chronological Input.now (before ++ offer :: (between ++ [ask])))
    (unbound : Unbound start.statics (applicant4 discover))
    (discovers : Carries4 lib offer discover) (isDiscover : discover.messageType = .discover)
    (is4 : ip.is4 = true)
    (offered : ∃ frame ∈ answers4 lib (run (step4 lib) start before) offer,
      frame.message.messageType = .offer ∧ frame.message.yourIPAddr = ip.asSlice)
    (requests : Carries4 lib ask request) (isRequest : request.messageType = .request)
    (sameClient : (applicant4 request).key = (applicant4 discover).key)
    (names : request.requestedIPAddress = some ip.asSlice)
    (within : ask.now ≤ offer.now + start.cfg.leaseTime) :
    ∃ frame, answers4 lib (run (step4 lib) start (before ++ offer :: between)) ask = [frame] ∧
      frame.message.messageType = .ack ∧ frame.message.yourIPAddr = ip.asSlice := by
  let booked := run (step4 lib) start before
  let final := run (step4 lib) start (before ++ offer :: between)
  have bookedCfg : booked.cfg = start.cfg := run4_cfg lib start before
  have tailOrdered : Chronological Input.now (offer :: (between ++ [ask])) :=
    ordered.right Input.now
  have regroup : before ++ offer :: (between ++ [ask]) = (before ++ offer :: between) ++ [ask] := by
    rw [List.append_assoc, List.cons_append]
  rw [regroup] at contention ordered
  have earlier : ∀ input ∈ before ++ offer :: between, Contention4 lib served input := by
    intro input member
    exact contention input (List.mem_append_left _ member)
  have reached : ∀ input ∈ before ++ offer :: between, input.now ≤ ask.now := by
    intro input member
    exact ordered.across Input.now member (List.mem_singleton_self ask)
  have offerServing := (earlier offer (List.mem_append_right _ List.mem_cons_self)).1
  have askServing := (contention ask (List.mem_append_right _ (List.mem_singleton_self ask))).1
  -- The OFFER booked the address for the client.
  have offeredNames : ∃ frame ∈ answers4 lib booked offer,
      frame.message.yourIPAddr = ip.asSlice := by
    obtain ⟨frame, written, _, bytes⟩ := offered
    exact ⟨frame, written, bytes⟩
  obtain ⟨enabled, serves, selected⟩ :=
    selected_of_offer discovers offerServing isDiscover is4 offeredNames
  have valid := isValid_of_is4 is4
  -- It is still there when the REQUEST arrives, and it is all the client holds.
  have held : final.leases.HeldUntil (applicant4 discover).key ip ask.now := by
    change (run (step4 lib) start (before ++ offer :: between)).leases.HeldUntil _ _ _
    rw [run_append]
    apply offer4_heldUntil _ _ _ _ serves selected valid
    · intro input member
      exact earlier input (List.mem_append_right _ member)
    · intro input member
      exact tailOrdered.head_le Input.now (List.mem_append_left _ member)
    · intro input member
      exact reached input (List.mem_append_right _ (List.mem_cons_of_mem _ member))
    · rw [run4_cfg]
      exact within
  have orderly : Orderly start.cfg start.statics served (applicant4 discover) ask.now final :=
    run4_orderly empty unbound earlier (ordered.left Input.now) ask.now reached
  have positive : 0 < ip.toNat := by
    obtain ⟨lease, present, own, _⟩ := held
    exact (orderly.dynamic ip lease present own).positive
  have due := Orderly.due_of_held ask.orders orderly unbound sameClient held
  have finalEnabled : final.cfg.enabled = true := by
    rw [orderly.sameCfg, ← bookedCfg]
    exact enabled
  exact answers4_ack replies typed requests askServing finalEnabled isRequest
    (wantedAddr_of_option50 is4 positive names) valid
    ((selectAddress_eq_iff_due _ _ _ _ _ _ _ _ ip).mpr due).1

theorem sampleLibrary4_replies : sampleLibrary4.Replies := by
  intro request modifiers
  rfl

theorem foldl_sampleModify4_messageType (others : List Modifier4) (reply : DHCPv4)
    (none : ∀ typ, Modifier4.withMessageType typ ∉ others) :
    (others.foldl sampleModify4 reply).messageType = reply.messageType := by
  induction others generalizing reply with
  | nil => rfl
  | cons first rest ih =>
      have restNone : ∀ typ, Modifier4.withMessageType typ ∉ rest := by
        intro typ member
        exact none typ (List.mem_cons_of_mem first member)
      rw [List.foldl_cons, ih (sampleModify4 reply first) restNone]
      cases first with
      | withMessageType typ => exact absurd List.mem_cons_self (none typ)
      | _ => rfl

theorem sampleLibrary4_setsMessageType : sampleLibrary4.SetsMessageType := by
  intro request typ others reply single built
  cases built
  rw [List.foldl_cons, foldl_sampleModify4_messageType others _ single]
  rfl

/-- The handshake of one client while a second one asks for the same address. -/
theorem handshake4_completes_sample :
    ∃ frame,
      answers4 sampleLibrary4
        (run (step4 sampleLibrary4) sampleServer
          ([] ++ sampleFrame4 0 1 [2, 0, 0, 0, 0, 0x42] [0, 0, 0, 0] [] ::
            [sampleFrame4 3 3 [2, 0, 0, 0, 0, 0x43] [0, 0, 0, 0] [192, 168, 50, 100]]))
        (sampleFrame4 5 3 [2, 0, 0, 0, 0, 0x42] [0, 0, 0, 0] [192, 168, 50, 100]) = [frame] ∧
      frame.message.messageType = .ack ∧
      frame.message.yourIPAddr = (Addr.v4 0xc0a83264).asSlice := by
  apply handshake4_completes sampleLibrary4 sampleServer samplePrefix4 []
    [sampleFrame4 3 3 [2, 0, 0, 0, 0, 0x43] [0, 0, 0, 0] [192, 168, 50, 100]]
    (sampleFrame4 0 1 [2, 0, 0, 0, 0, 0x42] [0, 0, 0, 0] [])
    (sampleFrame4 5 3 [2, 0, 0, 0, 0, 0x42] [0, 0, 0, 0] [192, 168, 50, 100])
    (sampleRequest4 1 [2, 0, 0, 0, 0, 0x42] [0, 0, 0, 0] none)
    (sampleRequest4 3 [2, 0, 0, 0, 0, 0x42] [0, 0, 0, 0] (some [192, 168, 50, 100]))
    (.v4 0xc0a83264) sampleLibrary4_replies sampleLibrary4_setsMessageType rfl
  case contention =>
    intro input member
    simp only [List.nil_append, List.singleton_append, List.mem_cons, List.not_mem_nil,
      or_false] at member
    rcases member with discovers | requests | asks
    · rw [discovers]
      exact ⟨rfl, Or.inr ⟨_, _, rfl, rfl, Or.inl rfl⟩⟩
    · rw [requests]
      exact ⟨rfl, Or.inr ⟨_, _, rfl, rfl, Or.inr rfl⟩⟩
    · rw [asks]
      exact ⟨rfl, Or.inr ⟨_, _, rfl, rfl, Or.inr rfl⟩⟩
  case ordered =>
    unfold Chronological
    decide
  case unbound =>
    intro id binding stored
    cases stored
  case discovers => exact ⟨_, rfl, rfl, rfl, rfl, rfl⟩
  case requests => exact ⟨_, rfl, rfl, rfl, rfl, rfl⟩
  case offered => exact ⟨_, List.mem_cons_self, rfl, rfl⟩
  case within => decide
  all_goals rfl

end BridgeDhcp.Server
