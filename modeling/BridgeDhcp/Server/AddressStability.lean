/-
When a DHCPv6 client is given the same address again.

Between two requests of one client under one prefix and one static set the entry
of its address stays in place.  Whether the second request finds it depends on
what else the client holds: the lookup by client returns any of its active
entries, and one left over from another prefix or from an earlier reservation
sends the client to the pool.
-/

import BridgeDhcp.Server.LeaseUniqueness

set_option autoImplicit false

namespace BridgeDhcp.Server

open GoMap Netip Packet StepRun

section Again

variable {cfg : PoolConfig} {statics : Map String StaticBinding} {table : LeaseTable}
  {orders : RangeOrders} {now : Int} {served : Prefix} {client : Applicant} {ip : Addr}

theorem not_poolDue_of_heldUntil {reserved : List Addr}
    (held : table.HeldUntil client.key ip now) :
    ¬ PoolDue cfg table now served reserved client none ip := by
  intro due
  cases due with
  | granted _ _ asked _ => cases asked
  | lowest _ _ _ least =>
      have free := least.1.notOccupied
      rw [LeaseTable.occupied_of_heldUntil held] at free
      cases free

/-- A held address is due under every order of the table exactly when the client
may keep it and, unless it is its reservation, holds nothing else. -/
theorem due_every_order_iff (held : table.HeldUntil client.key ip now) :
    (∀ order, Due cfg statics table { orders with leases := order } now served client none ip) ↔
      MayKeep served (listBindings statics orders) client ip ∧
        ((reservedFor served (listBindings statics orders) client).isValid = false →
          ∀ other, table.HeldUntil client.key other now → other = ip) := by
  constructor
  · intro always
    refine ⟨(always orders.leases).mayKeep, ?_⟩
    intro unreserved other otherHeld
    obtain ⟨lease, present, own, lasts⟩ := otherHeld
    have active := (lease.expired_eq_false_iff now).mpr lasts
    -- The order that meets the other entry first makes the code use it.
    have picks := LeaseTable.byClient_startingWith present own active
    have due := always (RangeOrder.startingWith lease)
    cases due with
    | reserved reservation valid _ =>
        rw [← reservation] at valid
        exact absurd valid (Bool.eq_false_iff.mp unreserved)
    | kept current _ found _ address =>
        have same : some lease = some current := picks.symm.trans found
        cases same
        exact (LeaseTable.entry_ip present).symm.trans address
    | pooled _ _ pool => exact absurd pool (not_poolDue_of_heldUntil held)
  · intro both order
    obtain ⟨stays, sole⟩ := both
    by_cases valid : (reservedFor served (listBindings statics orders) client).isValid = true
    · unfold MayKeep at stays
      rw [if_pos valid] at stays
      refine .reserved stays (stays ▸ valid) ?_
      rw [LeaseTable.inUse_eq_false_iff]
      intro lease found _
      obtain ⟨holder, present, own, _⟩ := held
      rw [present] at found
      cases found
      exact own
    · have unreserved := Bool.eq_false_iff.mpr valid
      obtain ⟨current, found⟩ := LeaseTable.byClient_of_heldUntil order held
      have same : current.ip = ip :=
        sole unreserved current.ip (LeaseTable.heldUntil_of_byClient found)
      rw [mayKeep_of_unreserved unreserved] at stays
      refine .kept current unreserved found ?_ same
      rw [keepable_iff, same]
      exact stays

/-- An address once given under a static set may be kept under the same set exactly
when the reservation of the client is still the same. -/
theorem mayKeep_iff_same_reservation {first last : RangeOrders} {later : Applicant}
    (given : MayKeep served (listBindings statics first) client ip) (valid : ip.isValid = true) :
    MayKeep served (listBindings statics last) later ip ↔
      reservedFor served (listBindings statics last) later =
        reservedFor served (listBindings statics first) client := by
  have sameSet := staticIPs_contains_eq statics served last first ip
  by_cases validFirst :
      (reservedFor served (listBindings statics first) client).isValid = true
  · unfold MayKeep at given
    rw [if_pos validFirst] at given
    have setAside : (staticIPs served (listBindings statics last)).contains ip = true := by
      rw [sameSet, List.contains_iff_mem, ← given]
      exact reservedFor_mem_staticIPs validFirst
    rw [given]
    unfold MayKeep
    split
    · exact Iff.rfl
    · rename_i validLast
      rw [setAside]
      constructor
      · intro impossible
        cases impossible.1
      · intro same
        rw [same] at validLast
        exact absurd valid validLast
  · have unreserved := Bool.eq_false_iff.mpr validFirst
    rw [mayKeep_of_unreserved unreserved] at given
    have invalid : reservedFor served (listBindings statics first) client = .invalid := by
      by_contra notInvalid
      exact validFirst ((Addr.isValid_iff_ne _).mpr notInvalid)
    rw [invalid]
    unfold MayKeep
    split
    · rename_i validLast
      constructor
      · intro same
        exfalso
        have setAside := reservedFor_mem_staticIPs validLast
        rw [same, ← List.contains_iff_mem, sameSet, given.1] at setAside
        cases setAside
      · intro same
        rw [same] at validLast
        cases validLast
    · rename_i invalidLast
      rw [sameSet]
      refine iff_of_true given ?_
      by_contra notInvalid
      exact invalidLast ((Addr.isValid_iff_ne _).mpr notInvalid)

end Again

/-! ### Runs of the DHCPv6 server -/

/-- The event is a RELEASE of the client with this key or a deletion by the API. -/
def GivesUp6 (lib : Library6) (key : String) (server : AddressServer) (input : Input) : Prop :=
  (∃ pkt mac clientID, input.event = .frame pkt ∧
      ask6 lib input.env server pkt = .release mac clientID ∧ clientKey mac clientID = key) ∨
    ∃ ip, input.event = .releaseLease ip

/-- What the later request needs to find: the client's reservation is what it was
at the first one, and without a reservation the client holds nothing but `ip`. -/
def Undisturbed (server : AddressServer) (first last : RangeOrders) (now : Int)
    (served : Prefix) (client : Applicant) (ip : Addr) : Prop :=
  reservedFor served (listBindings server.statics.bindings last) client =
      reservedFor served (listBindings server.statics.bindings first) client ∧
    ((reservedFor served (listBindings server.statics.bindings last) client).isValid = false →
      ∀ other, server.leases.HeldUntil client.key other now → other = ip)

theorem serves6_eq_some {lib : Library6} {server : AddressServer} {input : Input}
    {served : Prefix} {client : Applicant}
    (serves : serves6 lib server input = some (served, client)) :
    ∃ pkt, input.event = .frame pkt ∧ ask6 lib input.env server pkt = .address served client := by
  unfold serves6 at serves
  split at serves
  · rename_i pkt happens
    split at serves
    · rename_i asks
      cases serves
      exact ⟨pkt, happens, asks⟩
    · cases serves
  · cases serves

theorem selects6_of_serves6 {lib : Library6} {server : AddressServer} {input : Input}
    {served : Prefix} {client : Applicant} {ip : Addr}
    (serves : serves6 lib server input = some (served, client))
    (given : selected6 server input.orders input.now served client = ip)
    (valid : ip.isValid = true) : selects6 lib server input = some (client, ip) := by
  obtain ⟨pkt, happens, asks⟩ := serves6_eq_some serves
  unfold selects6
  rw [happens]
  dsimp only
  rw [asks]
  dsimp only
  unfold selected6 at given
  rw [given, if_pos valid]

theorem ask6_address_hexText {lib : Library6} {env : Env} {server : AddressServer}
    {pkt : Ingress} {served : Prefix} {client : Applicant}
    (asks : ask6 lib env server pkt = .address served client) :
    HexText client.mac ∧ HexText client.clientID := by
  unfold ask6 at asks
  split at asks
  · cases asks
  · split at asks
    · cases asks
    · dsimp only at asks
      split at asks
      all_goals cases asks
      all_goals exact ⟨hexText_hardwareAddrString _, hexText_hexEncode _⟩

theorem reservedFor_congr {served : Prefix} {bindings : List StaticBinding}
    {client later : Applicant} (mac : later.mac = client.mac)
    (clientID : later.clientID = client.clientID) :
    reservedFor served bindings later = reservedFor served bindings client := by
  unfold reservedFor
  rw [mac, clientID]

/-- If `selectIP6` gave a client an address, then within the lease time, under the
same prefix and static set and unless the client gave something up or the API
deleted a lease, its next request is answered with the same address under every
order of the table exactly when it is undisturbed. -/
theorem selectIP6_stable_iff (lib : Library6) (start : AddressServer)
    (before between : List Input) (first last : Input) (client later : Applicant)
    (served : Prefix) (ip : Addr)
    (ordered : Chronological Input.now (before ++ first :: (between ++ [last])))
    (asked : serves6 lib (run (step6 lib) start before) first = some (served, client))
    (given : selected6 (run (step6 lib) start before) first.orders first.now served client = ip)
    (valid : ip.isValid = true)
    (askedAgain : serves6 lib (run (step6 lib) start (before ++ first :: between)) last =
      some (served, later))
    (sameClient : later.key = client.key)
    (sameStatics : (run (step6 lib) start (before ++ first :: between)).statics =
      (run (step6 lib) start before).statics)
    (kept : Throughout (step6 lib) (fun state input => ¬ GivesUp6 lib client.key state input)
      (run (step6 lib) start (before ++ [first])) between)
    (within : last.now ≤ first.now + start.cfg.leaseTime) :
    (∀ order, selected6 (run (step6 lib) start (before ++ first :: between))
        { last.orders with leases := order } last.now served later = ip) ↔
      Undisturbed (run (step6 lib) start (before ++ first :: between)) first.orders last.orders
        last.now served later ip := by
  have held : (run (step6 lib) start (before ++ first :: between)).leases.HeldUntil later.key ip
      last.now := by
    rw [sameClient]
    rcases selects6_held_or_removed ordered (selects6_of_serves6 asked given valid) within with
      held | ⟨earlier, culprit, rest, split, removes⟩
    · exact held
    · exfalso
      apply kept earlier culprit rest split
      rcases removes.2.2 with byClient | byApi
      · exact Or.inl byClient
      · exact Or.inr ⟨ip, byApi⟩
  have sameTexts : client.mac = later.mac ∧ client.clientID = later.clientID := by
    obtain ⟨_, _, asks⟩ := serves6_eq_some asked
    obtain ⟨_, _, asksAgain⟩ := serves6_eq_some askedAgain
    obtain ⟨macHex, clientHex⟩ := ask6_address_hexText asks
    obtain ⟨laterMacHex, laterHex⟩ := ask6_address_hexText asksAgain
    exact clientKey_injective macHex clientHex laterMacHex laterHex sameClient.symm
  have mayKeep : MayKeep served
      (listBindings (run (step6 lib) start (before ++ first :: between)).statics.bindings
        first.orders) later ip := by
    have due := (selectAddress_eq_iff_due _ _ _ _ _ _ _ _ ip).mp ⟨given, valid⟩
    rw [sameStatics]
    have stays := due.mayKeep
    unfold MayKeep at stays ⊢
    rw [← reservedFor_congr sameTexts.1 sameTexts.2]
    exact stays
  unfold Undisturbed
  rw [← mayKeep_iff_same_reservation mayKeep valid, ← due_every_order_iff held]
  constructor
  · intro always order
    rw [← selectAddress_eq_iff_due]
    exact ⟨always order, valid⟩
  · intro always order
    exact ((selectAddress_eq_iff_due _ _ _ _ _ _ _ _ ip).mpr (always order)).1

/-- A SOLICIT and the REQUEST that follows it, and between them the SOLICIT of another
client. -/
theorem selectIP6_stable_request :
    let after := run (step6 sampleLibrary6) sampleServer
      [sampleFrame6 0 1 [2, 0, 0, 0, 0, 0x77], sampleFrame6 2 1 [2, 0, 0, 0, 0, 0x78]]
    (∀ order, selected6 after
        { (sampleFrame6 5 3 [2, 0, 0, 0, 0, 0x77]).orders with leases := order } 5 samplePrefix6
        (sampleClient [2, 0, 0, 0, 0, 0x77]) = .v6 (0xfd50 <<< 112 + 100)) ↔
      Undisturbed after storedOrders storedOrders 5 samplePrefix6
        (sampleClient [2, 0, 0, 0, 0, 0x77]) (.v6 (0xfd50 <<< 112 + 100)) :=
  selectIP6_stable_iff sampleLibrary6 sampleServer [] [sampleFrame6 2 1 [2, 0, 0, 0, 0, 0x78]]
    (sampleFrame6 0 1 [2, 0, 0, 0, 0, 0x77]) (sampleFrame6 5 3 [2, 0, 0, 0, 0, 0x77])
    (sampleClient [2, 0, 0, 0, 0, 0x77]) (sampleClient [2, 0, 0, 0, 0, 0x77]) samplePrefix6
    (.v6 (0xfd50 <<< 112 + 100))
    (by unfold Chronological; decide) (by decide) (by decide) rfl (by decide +kernel) rfl rfl
    (by
      rw [throughout_cons_iff]
      constructor
      · rintro (⟨pkt, mac, clientID, happens, asks, _⟩ | ⟨ip, deletes⟩)
        · cases happens
          cases asks
        · cases deletes
      · intro before input after split
        exact absurd split.symm (List.append_ne_nil_of_right_ne_nil before (List.cons_ne_nil _ _)))
    (by decide)

def renumberedPrefix6 : Prefix where
  addr := .v6 (0xfd51 <<< 112 + 1)
  bits := 64
  addrValid := rfl
  bitsFit := by decide

def renumberedFrame6 (now : Int) (code : UInt8) (mac : List UInt8) : Input :=
  { sampleFrame6 now code mac with
    env :=
      { sampleEnv with
        v6 := some renumberedPrefix6
        v6Is6 := by rintro served ⟨⟩; rfl } }

/-- A client has a lease under fd50::/64 when the server is renumbered.  Its
SOLICIT is answered with fd51::64, but an order that meets the old entry first
makes the REQUEST that follows book another address. -/
theorem renumbered_client_moves :
    serves6 sampleLibrary6
        (run (step6 sampleLibrary6) sampleServer [sampleFrame6 0 1 [2, 0, 0, 0, 0, 0x77]])
        (renumberedFrame6 5 1 [2, 0, 0, 0, 0, 0x77]) =
        some (renumberedPrefix6, sampleClient [2, 0, 0, 0, 0, 0x77]) ∧
      selected6
        (run (step6 sampleLibrary6) sampleServer [sampleFrame6 0 1 [2, 0, 0, 0, 0, 0x77]])
        storedOrders 5 renumberedPrefix6 (sampleClient [2, 0, 0, 0, 0, 0x77]) =
        .v6 (0xfd51 <<< 112 + 100) ∧
      serves6 sampleLibrary6
        (run (step6 sampleLibrary6) sampleServer
          [sampleFrame6 0 1 [2, 0, 0, 0, 0, 0x77], renumberedFrame6 5 1 [2, 0, 0, 0, 0, 0x77]])
        (renumberedFrame6 6 3 [2, 0, 0, 0, 0, 0x77]) =
        some (renumberedPrefix6, sampleClient [2, 0, 0, 0, 0, 0x77]) ∧
      selected6
        (run (step6 sampleLibrary6) sampleServer
          [sampleFrame6 0 1 [2, 0, 0, 0, 0, 0x77], renumberedFrame6 5 1 [2, 0, 0, 0, 0, 0x77]])
        { storedOrders with leases := RangeOrder.reversed } 6 renumberedPrefix6
        (sampleClient [2, 0, 0, 0, 0, 0x77]) =
        .v6 (0xfd51 <<< 112 + 101) := by
  decide

end BridgeDhcp.Server
