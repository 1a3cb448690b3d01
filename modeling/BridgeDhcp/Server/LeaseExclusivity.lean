/-
A booked address stays with its client for one lease time.

The invariant of a run is that one table entry is held by one client up to a
deadline.  Every selection, sweep and static edit keeps it; only a release of
that address can end it.
-/

import BridgeDhcp.Server.SelectionSoundness

set_option autoImplicit false

namespace BridgeDhcp.Server

open GoMap Netip Packet StepRun

/-! ### Holding an address -/

namespace LeaseTable

/-- The client with this key has the address up to the deadline. -/
def HeldUntil (table : LeaseTable) (key : String) (ip : Addr) (deadline : Int) : Prop :=
  ∃ lease, table.entry ip = some lease ∧ lease.key = key ∧ deadline ≤ lease.expiry

variable {table : LeaseTable} {key : String} {ip : Addr} {deadline now : Int}

theorem HeldUntil.inUse (held : table.HeldUntil key ip deadline) (early : now ≤ deadline)
    {mac clientID : String} (free : table.inUse now ip mac clientID = false) :
    key = clientKey mac clientID := by
  obtain ⟨lease, found, own, lasts⟩ := held
  rw [← own]
  apply (inUse_eq_false_iff table now ip mac clientID).mp free lease found
  rw [Lease.expired_eq_false_iff]
  omega

theorem HeldUntil.set_ne (held : table.HeldUntil key ip deadline) {lease : Lease}
    (other : ip ≠ lease.ip) : (table.set lease).HeldUntil key ip deadline := by
  obtain ⟨present, found, own, lasts⟩ := held
  refine ⟨present, ?_, own, lasts⟩
  rw [entry_set_ne table lease other]
  exact found

theorem HeldUntil.release_ne (held : table.HeldUntil key ip deadline) {target : Addr}
    (other : ip ≠ target) : (table.release target).2.HeldUntil key ip deadline := by
  obtain ⟨present, found, own, lasts⟩ := held
  refine ⟨present, ?_, own, lasts⟩
  rw [entry_release, if_neg other]
  exact found

theorem HeldUntil.expireSweep (held : table.HeldUntil key ip deadline) (early : now ≤ deadline) :
    (table.expireSweep now).HeldUntil key ip deadline := by
  obtain ⟨lease, found, own, lasts⟩ := held
  refine ⟨lease, entry_expireSweep_of_active found ?_, own, lasts⟩
  rw [Lease.expired_eq_false_iff]
  omega

/-- A booking leaves the holder in place: either it is the holder's own and
lasts longer, or it is somewhere else. -/
theorem HeldUntil.booked {cfg : PoolConfig} {served : Prefix} {client : Applicant}
    {target : Addr} {lease : Lease} (held : table.HeldUntil key ip deadline)
    (early : now ≤ deadline) (covers : deadline ≤ now + cfg.leaseTime)
    (booking : Booking cfg table now served client target lease) :
    (table.set lease).HeldUntil key ip deadline := by
  by_cases same : ip = target
  · subst same
    refine ⟨lease, ?_, ?_, ?_⟩
    · rw [← booking.address]
      exact table.entry_set_self lease
    · rw [booking.key]
      exact (held.inUse early booking.free).symm
    · rw [booking.expiry]
      exact covers
  · apply held.set_ne
    rw [booking.address]
    exact same

theorem HeldUntil.selectAddress {cfg : PoolConfig} {statics : Map String StaticBinding}
    {orders : RangeOrders} {served : Prefix} {client : Applicant} {requested : Option Addr}
    (held : table.HeldUntil key ip deadline) (early : now ≤ deadline)
    (covers : deadline ≤ now + cfg.leaseTime) :
    (selectAddress cfg statics table orders now served client requested).2.HeldUntil
      key ip deadline := by
  rcases selectAddress_cases cfg statics table orders now served client requested with
    refused | ⟨target, lease, outcome, booking, _⟩
  · rw [refused]
    exact held
  · rw [outcome]
    exact held.booked early covers booking

end LeaseTable

theorem selectAddress_heldUntil {cfg : PoolConfig} {statics : Map String StaticBinding}
    {table : LeaseTable} {orders : RangeOrders} {now : Int} {served : Prefix}
    {client : Applicant} {requested : Option Addr} {ip : Addr}
    (selected : (selectAddress cfg statics table orders now served client requested).1 = ip)
    (valid : ip.isValid = true) :
    (selectAddress cfg statics table orders now served client requested).2.HeldUntil
      client.key ip (now + cfg.leaseTime) := by
  obtain ⟨lease, outcome, booking⟩ := selectAddress_booking selected valid
  rw [outcome]
  refine ⟨lease, ?_, booking.key, Int.le_of_eq booking.expiry.symm⟩
  rw [← booking.address]
  exact table.entry_set_self lease

theorem selectAddress_holder {cfg : PoolConfig} {statics : Map String StaticBinding}
    {table : LeaseTable} {orders : RangeOrders} {now : Int} {served : Prefix}
    {client : Applicant} {requested : Option Addr} {key : String} {ip : Addr}
    (selected : (selectAddress cfg statics table orders now served client requested).1 = ip)
    (valid : ip.isValid = true) (held : table.HeldUntil key ip now) : key = client.key := by
  obtain ⟨lease, _, booking⟩ := selectAddress_booking selected valid
  exact held.inUse (Int.le_refl now) booking.free

/-! ### Runs of the DHCPv6 server -/

/-- The client a frame is served for and the address `selectIP6` returns. -/
def selects6 (lib : Library6) (server : AddressServer) (input : Input) :
    Option (Applicant × Addr) :=
  match input.event with
  | .frame pkt =>
      match ask6 lib input.env server pkt with
      | .address served client =>
          let ip := (selectIP6 server.cfg server.statics.bindings server.leases input.orders
            input.now served client).1
          if ip.isValid then some (client, ip) else none
      | _ => none
  | _ => none

/-- The event removes the entry at an address: it is a RELEASE sent by the client
with this key, or the API's `ReleaseLease`. -/
def Removes6 (lib : Library6) (key : String) (ip : Addr) (server : AddressServer)
    (input : Input) : Prop :=
  (server.leases.entry ip).isSome = true ∧ (step6 lib server input).leases.entry ip = none ∧
    ((∃ pkt mac clientID, input.event = .frame pkt ∧
        ask6 lib input.env server pkt = .release mac clientID ∧ clientKey mac clientID = key) ∨
      input.event = .releaseLease ip)

theorem selects6_eq_some {lib : Library6} {server : AddressServer} {input : Input}
    {client : Applicant} {ip : Addr} (selected : selects6 lib server input = some (client, ip)) :
    ∃ pkt served, input.event = .frame pkt ∧
      ask6 lib input.env server pkt = .address served client ∧
      (selectIP6 server.cfg server.statics.bindings server.leases input.orders input.now served
        client).1 = ip ∧ ip.isValid = true := by
  unfold selects6 at selected
  split at selected
  · rename_i pkt isFrame
    split at selected
    · rename_i served asker asks
      dsimp only at selected
      split at selected
      · rename_i valid
        cases selected
        exact ⟨pkt, served, isFrame, asks, rfl, valid⟩
      · cases selected
    · cases selected
  · cases selected

theorem step6_heldUntil_or_removes {lib : Library6} {server : AddressServer} {input : Input}
    {key : String} {ip : Addr} {deadline : Int} (held : server.leases.HeldUntil key ip deadline)
    (early : input.now ≤ deadline) (covers : deadline ≤ input.now + server.cfg.leaseTime) :
    (step6 lib server input).leases.HeldUntil key ip deadline ∨
      Removes6 lib key ip server input := by
  have present : (server.leases.entry ip).isSome = true := by
    obtain ⟨lease, found, _, _⟩ := held
    rw [found]
    rfl
  have after := step6_leases lib server input
  cases happens : input.event with
  | frame pkt =>
      rw [happens] at after
      dsimp only at after
      cases asks : ask6 lib input.env server pkt with
      | nothing =>
          left
          rw [after, asks]
          exact held
      | address served client =>
          left
          rw [after, asks]
          exact held.selectAddress early covers
      | release mac clientID =>
          rw [asks] at after
          dsimp only [answer6] at after
          cases found : server.leases.byClient input.orders.leases input.now mac clientID with
          | none =>
              left
              rw [after, found]
              exact held
          | some lease =>
              rw [found] at after
              dsimp only at after
              by_cases same : ip = lease.ip
              · -- The released entry is the one held, so its owner sent the RELEASE.
                right
                obtain ⟨stored, own, _⟩ := LeaseTable.byClient_some found
                obtain ⟨holder, holds, holderKey, _⟩ := held
                rw [← same, holds] at stored
                cases stored
                refine ⟨present, ?_, Or.inl ⟨pkt, mac, clientID, happens, asks, ?_⟩⟩
                · rw [after, LeaseTable.entry_release, if_pos same]
                · rw [← own, holderKey]
              · left
                rw [after]
                exact held.release_ne same
  | sweep =>
      left
      rw [after, happens]
      exact held.expireSweep early
  | putStatic binding =>
      left
      rw [after, happens]
      exact held
  | replaceStatics bindings =>
      left
      rw [after, happens]
      exact held
  | deleteStatic id =>
      left
      rw [after, happens]
      exact held
  | releaseLease target =>
      rw [happens] at after
      dsimp only at after
      by_cases same : ip = target
      · right
        subst same
        refine ⟨present, ?_, Or.inr happens⟩
        rw [after, LeaseTable.entry_release, if_pos rfl]
      · left
        rw [after]
        exact held.release_ne same

theorem run6_heldUntil_or_removes {lib : Library6} {server : AddressServer}
    {inputs : List Input} {key : String} {ip : Addr} {booked : Int}
    (held : server.leases.HeldUntil key ip (booked + server.cfg.leaseTime))
    (later : ∀ input ∈ inputs, booked ≤ input.now)
    (early : ∀ input ∈ inputs, input.now ≤ booked + server.cfg.leaseTime) :
    (run (step6 lib) server inputs).leases.HeldUntil key ip (booked + server.cfg.leaseTime) ∨
      Occurs (step6 lib) (Removes6 lib key ip) server inputs := by
  have lifted := run_keeps_or_occurs (step6 lib)
    (fun state => state.cfg = server.cfg ∧
      state.leases.HeldUntil key ip (booked + server.cfg.leaseTime))
    (Removes6 lib key ip)
    (fun input => booked ≤ input.now ∧ input.now ≤ booked + server.cfg.leaseTime)
    (by
      rintro state input ⟨notBefore, notAfter⟩ ⟨sameCfg, holds⟩
      have covers : booked + server.cfg.leaseTime ≤ input.now + state.cfg.leaseTime := by
        rw [sameCfg]
        omega
      rcases step6_heldUntil_or_removes holds notAfter covers with kept | removed
      · exact Or.inl ⟨(step6_cfg lib state input).trans sameCfg, kept⟩
      · exact Or.inr removed)
    server inputs ⟨rfl, held⟩
    (fun input member => ⟨later input member, early input member⟩)
  rcases lifted with kept | removed
  · exact Or.inl kept.2
  · exact Or.inr removed

theorem selects6_heldUntil {lib : Library6} {server : AddressServer} {input : Input}
    {client : Applicant} {ip : Addr} (selected : selects6 lib server input = some (client, ip)) :
    (step6 lib server input).leases.HeldUntil client.key ip
      (input.now + server.cfg.leaseTime) := by
  obtain ⟨pkt, served, happens, asks, result, valid⟩ := selects6_eq_some selected
  rw [step6_leases, happens]
  dsimp only
  rw [asks]
  exact selectAddress_heldUntil result valid

/-- From the answer of one event to a later one within the lease time the client
holds its address, unless it was removed in between. -/
theorem selects6_held_or_removed {lib : Library6} {start : AddressServer}
    {before between : List Input} {first last : Input} {holder : Applicant} {ip : Addr}
    (ordered : Chronological Input.now (before ++ first :: (between ++ [last])))
    (given : selects6 lib (run (step6 lib) start before) first = some (holder, ip))
    (within : last.now ≤ first.now + start.cfg.leaseTime) :
    (run (step6 lib) start (before ++ first :: between)).leases.HeldUntil holder.key ip
        last.now ∨
      Occurs (step6 lib) (Removes6 lib holder.key ip)
        (run (step6 lib) start (before ++ [first])) between := by
  let middle := run (step6 lib) start (before ++ [first])
  have middleEq : middle = step6 lib (run (step6 lib) start before) first := by
    change run (step6 lib) start (before ++ [first]) = _
    rw [run_append]
    rfl
  have sameCfg : middle.cfg = start.cfg := run6_cfg lib start _
  have held : middle.leases.HeldUntil holder.key ip (first.now + middle.cfg.leaseTime) := by
    rw [sameCfg, ← run6_cfg lib start before, middleEq]
    exact selects6_heldUntil given
  have tailOrdered : Chronological Input.now (first :: (between ++ [last])) :=
    ordered.right Input.now
  have later : ∀ input ∈ between, first.now ≤ input.now := by
    intro input member
    exact tailOrdered.head_le Input.now (List.mem_append_left _ member)
  have early : ∀ input ∈ between, input.now ≤ first.now + middle.cfg.leaseTime := by
    intro input member
    have notAfter : input.now ≤ last.now :=
      (tailOrdered.tail Input.now).across Input.now member (List.mem_singleton_self last)
    rw [sameCfg]
    omega
  have final : run (step6 lib) start (before ++ first :: between) =
      run (step6 lib) middle between := by
    rw [← List.singleton_append, ← List.append_assoc, run_append]
  rcases run6_heldUntil_or_removes held later early with kept | removed
  · left
    obtain ⟨lease, found, own, lasts⟩ := kept
    rw [sameCfg] at lasts
    rw [final]
    exact ⟨lease, found, own, by omega⟩
  · exact Or.inr removed

/-- No address is given to two clients within one lease time.  From any server
state and in any order of events, if `selectIP6` returned `ip` for one client and
later, within the lease time of the first answer, for a client with another key,
then in between the entry for `ip` was removed by a RELEASE of the first client
or through the API. -/
theorem selectIP6_exclusive (lib : Library6) (start : AddressServer)
    (before between : List Input) (first last : Input) (holder other : Applicant) (ip : Addr)
    (ordered : Chronological Input.now (before ++ first :: (between ++ [last])))
    (given : selects6 lib (run (step6 lib) start before) first = some (holder, ip))
    (givenAgain : selects6 lib (run (step6 lib) start (before ++ first :: between)) last =
      some (other, ip))
    (different : holder.key ≠ other.key)
    (within : last.now ≤ first.now + start.cfg.leaseTime) :
    Occurs (step6 lib) (Removes6 lib holder.key ip)
      (run (step6 lib) start (before ++ [first])) between := by
  rcases selects6_held_or_removed ordered given within with held | removed
  · exfalso
    obtain ⟨pkt, served, happens, asks, result, valid⟩ := selects6_eq_some givenAgain
    exact different (selectAddress_holder result valid held)
  · exact removed

/-! ### Sample traffic -/

/-- A message on the wire: a link-layer DUID for the hardware address, then an
empty IA_NA. -/
def samplePayload6 (code : UInt8) (mac : List UInt8) : List UInt8 :=
  [code, 0, 0, 1, 0, 1, 0, 10, 0, 3, 0, 1] ++ mac ++
    [0, 3, 0, 12, 0, 0, 0, 7, 0, 0, 0, 0, 0, 0, 0, 0]

def sampleType6 : UInt8 → MessageType6
  | 1 => .solicit
  | 3 => .request
  | 5 => .renew
  | 6 => .rebind
  | 8 => .release
  | code => .other code

/-- What decoding gives for messages of that shape, with or without the IA_NA. -/
def sampleDecode6 : List UInt8 → Option Decoded6
  | code :: _ :: _ :: _ :: 0 :: 1 :: 0 :: 10 :: rest =>
      some (.message
        { messageType := sampleType6 code
          clientID := some (rest.take 10)
          iana := if rest.drop 10 = [] then none
            else some { iaid := (rest.drop 14).take 4, addresses := [] }
          fqdn := none })
  | _ => none

def sampleAddress6 : Modifier6 → Option IAAddress
  | .withIANA address => some address
  | _ => none

def sampleReply6 (typ : MessageType6) (msg : DHCPv6) (modifiers : List Modifier6) :
    Option DHCPv6 :=
  msg.clientID.map (fun duid =>
    { messageType := typ
      clientID := some duid
      iana := match modifiers.filterMap sampleAddress6 with
        | [] => none
        | addresses => some { iaid := [0, 0, 0, 0], addresses := addresses }
      fqdn := none })

def sampleLibrary6 : Library6 where
  fromBytes := sampleDecode6
  newAdvertiseFromSolicit := sampleReply6 .advertise
  newReplyFromMessage := sampleReply6 .reply

def sampleConfig : PoolConfig where
  enabled := true
  poolOffsetStart := 100
  poolOffsetEnd := 110
  leaseTime := defaultLeaseTime
  dns := []

theorem sampleConfig_normalized : sampleConfig.Normalized :=
  ⟨fun _ => by decide, fun _ => by decide, fun _ => defaultLeaseTime_pos⟩

def sampleServer : AddressServer where
  cfg := sampleConfig
  normalized := sampleConfig_normalized
  statics := StaticSet.empty
  leases := LeaseTable.newLeaseTable

def samplePrefix6 : Prefix where
  addr := .v6 (0xfd50 <<< 112 + 1)
  bits := 64
  addrValid := rfl
  bitsFit := by decide

def sampleEnv : Env where
  mac := [2, 0, 0, 0, 0, 1]
  v4 := none
  v6 := some samplePrefix6
  linkLocal := .v6 (0xfe80 <<< 112 + 1)
  v4Is4 := by rintro served ⟨⟩
  v6Is6 := by rintro served ⟨⟩; rfl

def storedOrders : RangeOrders where
  statics := RangeOrder.stored
  leases := RangeOrder.stored

def sampleFrame6 (now : Int) (code : UInt8) (mac : List UInt8) : Input where
  now := now
  env := sampleEnv
  orders := storedOrders
  event := .frame
    { srcMAC := mac
      isUDP4 := false
      isUDP6 := true
      isICMP6 := false
      srcIP := (Addr.v6 (0xfe80 <<< 112 + 2)).asSlice
      dstIP := (Addr.v6 (0xff02 <<< 112 + 0x10002)).asSlice
      srcPort := 546
      dstPort := 547
      icmpTyp := 0
      payload := samplePayload6 code mac }

def sampleClient (mac : List UInt8) : Applicant where
  mac := hardwareAddrString mac
  clientID := hexEncode ([0, 3, 0, 1] ++ mac)
  hostname := ""

/-- One client solicits and releases, and another one then gets the same address. -/
theorem selectIP6_exclusive_released :
    Occurs (step6 sampleLibrary6)
      (Removes6 sampleLibrary6 (sampleClient [2, 0, 0, 0, 0, 0x77]).key
        (.v6 (0xfd50 <<< 112 + 100)))
      (run (step6 sampleLibrary6) sampleServer
        ([] ++ [sampleFrame6 0 1 [2, 0, 0, 0, 0, 0x77]]))
      [sampleFrame6 5 8 [2, 0, 0, 0, 0, 0x77]] :=
  selectIP6_exclusive sampleLibrary6 sampleServer [] [sampleFrame6 5 8 [2, 0, 0, 0, 0, 0x77]]
    (sampleFrame6 0 1 [2, 0, 0, 0, 0, 0x77]) (sampleFrame6 9 1 [2, 0, 0, 0, 0, 0x78])
    (sampleClient [2, 0, 0, 0, 0, 0x77]) (sampleClient [2, 0, 0, 0, 0, 0x78])
    (.v6 (0xfd50 <<< 112 + 100))
    (by unfold Chronological; decide) (by decide) (by decide) (by decide) (by decide)

end BridgeDhcp.Server
