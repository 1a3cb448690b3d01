/-
When the messages of one DHCPv4 client leave the leases of others alone.

Selections do, always.  A RELEASE deletes whatever entry its ciaddr names and a
DECLINE overwrites whatever entry its option 50 names, so those two respect the
other clients exactly when the address they name is the sender's to give up.
-/

import BridgeDhcp.Server.LeaseExclusivity

set_option autoImplicit false

namespace BridgeDhcp.Server

open GoMap Netip Packet StepRun

/-! ### The property and the condition -/

/-- Every entry that changes was expired or belonged to the client with the key. -/
def LeavesOthers (before after : LeaseTable) (now : Int) (key : String) : Prop :=
  ∀ ip lease, before.entry ip = some lease → after.entry ip ≠ some lease →
    lease.expired now = true ∨ lease.key = key

def CreatesInside (before after : LeaseTable) (served : Prefix) : Prop :=
  ∀ ip, before.entry ip = none → after.entry ip ≠ none → served.masked.contains ip = true

/-- A frame changes an entry only if it was absent, expired or the sender's own,
and a DECLINE creates no entry outside the served prefix. -/
def Noninterfering4 (lib : Library4) (server : AddressServer) (input : Input)
    (pkt : Ingress) : Prop :=
  ∀ served request, pkt.isUDP4 = true → pkt.dstPort = dhcp4ServerPort →
    acceptedRequest lib input.env server pkt = some (served, request) →
    let after := (handleFrame4 lib input.env input.orders input.now server pkt).server.leases
    LeavesOthers server.leases after input.now (applicant4 request).key ∧
      (request.messageType = .decline → CreatesInside server.leases after served)

/-- What a RELEASE or a DECLINE has to name for that: an address whose entry is
absent, expired or the sender's own.  A DECLINE may also repeat the placeholder
that is already there, and names an unused address only inside the prefix. -/
def NamesOwnAddress (lib : Library4) (server : AddressServer) (input : Input)
    (pkt : Ingress) : Prop :=
  match ask4 lib input.env server pkt with
  | .release request ip =>
      ∀ lease, server.leases.entry ip = some lease →
        lease.expired input.now = true ∨ lease.key = (applicant4 request).key
  | .decline served request ip =>
      (server.leases.entry ip = none → served.masked.contains ip = true) ∧
      ∀ lease, server.leases.entry ip = some lease →
        lease.expired input.now = true ∨ lease.key = (applicant4 request).key ∨
          lease = declinedLease server.cfg input.now ip
  | _ => True

/-! ### Single table operations -/

section Operations

variable (table : LeaseTable) (now : Int) (key : String)

theorem leavesOthers_refl : LeavesOthers table table now key := by
  intro ip lease found changed
  exact absurd found changed

theorem leavesOthers_release_iff (ip : Addr) :
    LeavesOthers table (table.release ip).2 now key ↔
      ∀ lease, table.entry ip = some lease → lease.expired now = true ∨ lease.key = key := by
  constructor
  · intro leaves lease found
    apply leaves ip lease found
    rw [LeaseTable.entry_release, if_pos rfl]
    exact Option.some_ne_none lease ∘ Eq.symm
  · intro ours other lease found changed
    rw [LeaseTable.entry_release] at changed
    by_cases same : other = ip
    · rw [same] at found
      exact ours lease found
    · rw [if_neg same] at changed
      exact absurd found changed

theorem leavesOthers_set_iff (stored : Lease) :
    LeavesOthers table (table.set stored) now key ↔
      ∀ lease, table.entry stored.ip = some lease →
        lease.expired now = true ∨ lease.key = key ∨ lease = stored := by
  constructor
  · intro leaves lease found
    by_cases same : lease = stored
    · exact Or.inr (Or.inr same)
    · have changed : (table.set stored).entry stored.ip ≠ some lease := by
        rw [LeaseTable.entry_set_self]
        intro equal
        exact same (Option.some.inj equal).symm
      rcases leaves stored.ip lease found changed with gone | own
      · exact Or.inl gone
      · exact Or.inr (Or.inl own)
  · intro ours ip lease found changed
    by_cases same : ip = stored.ip
    · subst same
      rcases ours lease found with gone | own | equal
      · exact Or.inl gone
      · exact Or.inr own
      · rw [LeaseTable.entry_set_self, equal] at changed
        exact absurd rfl changed
    · rw [table.entry_set_ne stored same] at changed
      exact absurd found changed

theorem createsInside_set_iff (stored : Lease) (served : Prefix) :
    CreatesInside table (table.set stored) served ↔
      (table.entry stored.ip = none → served.masked.contains stored.ip = true) := by
  constructor
  · intro inside unused
    apply inside stored.ip unused
    rw [LeaseTable.entry_set_self]
    exact Option.some_ne_none stored
  · intro inside ip unused created
    by_cases same : ip = stored.ip
    · subst same
      exact inside unused
    · rw [table.entry_set_ne stored same] at created
      exact absurd unused created

theorem leavesOthers_selectAddress (cfg : PoolConfig) (statics : Map String StaticBinding)
    (orders : RangeOrders) (served : Prefix) (client : Applicant) (requested : Option Addr) :
    LeavesOthers table
      (selectAddress cfg statics table orders now served client requested).2 now client.key := by
  rcases selectAddress_cases cfg statics table orders now served client requested with
    refused | ⟨ip, lease, outcome, booking, _⟩
  · rw [refused]
    exact leavesOthers_refl table now client.key
  · rw [outcome, leavesOthers_set_iff, booking.address]
    intro held found
    cases active : held.expired now with
    | true => exact Or.inl rfl
    | false =>
        exact Or.inr (Or.inl ((LeaseTable.inUse_eq_false_iff table now ip client.mac
          client.clientID).mp booking.free held found active))

end Operations

/-! ### One frame -/

theorem noninterfering4_of_accepted {lib : Library4} {server : AddressServer} {input : Input}
    {pkt : Ingress} {served : Prefix} {request : DHCPv4} (udp : pkt.isUDP4 = true)
    (port : pkt.dstPort = dhcp4ServerPort)
    (accepted : acceptedRequest lib input.env server pkt = some (served, request)) :
    Noninterfering4 lib server input pkt ↔
      LeavesOthers server.leases
          (answer4 input.orders input.now server (ask4 lib input.env server pkt)) input.now
          (applicant4 request).key ∧
        (request.messageType = .decline → CreatesInside server.leases
          (answer4 input.orders input.now server (ask4 lib input.env server pkt)) served) := by
  unfold Noninterfering4
  rw [handleFrame4_server]
  constructor
  · intro holds
    exact holds served request udp port accepted
  · intro holds other again _ _ same
    rw [accepted] at same
    cases same
    exact holds

theorem noninterfering4_iff_namesOwnAddress (lib : Library4) (server : AddressServer)
    (input : Input) (pkt : Ingress) :
    Noninterfering4 lib server input pkt ↔ NamesOwnAddress lib server input pkt := by
  by_cases ours : pkt.isUDP4 = true ∧ pkt.dstPort = dhcp4ServerPort ∧
      ∃ served request, acceptedRequest lib input.env server pkt = some (served, request)
  · obtain ⟨udp, port, served, request, accepted⟩ := ours
    rw [noninterfering4_of_accepted udp port accepted]
    unfold NamesOwnAddress
    rw [ask4_of_accepted udp port accepted]
    have unchanged : LeavesOthers server.leases server.leases input.now (applicant4 request).key :=
      leavesOthers_refl _ _ _
    cases typ : request.messageType with
    | discover =>
        dsimp only [answer4]
        refine iff_of_true ⟨?_, by rintro ⟨⟩⟩ trivial
        exact leavesOthers_selectAddress _ _ _ _ _ _ _ _
    | request =>
        dsimp only
        cases wantedAddr request with
        | none => exact iff_of_true ⟨unchanged, by rintro ⟨⟩⟩ trivial
        | some want =>
            refine iff_of_true ⟨?_, by rintro ⟨⟩⟩ trivial
            exact leavesOthers_selectAddress _ _ _ _ _ _ _ _
    | release =>
        dsimp only
        cases addrFromSlice (to4 request.clientIPAddr) with
        | none => exact iff_of_true ⟨unchanged, by rintro ⟨⟩⟩ trivial
        | some ip =>
            dsimp only [answer4]
            rw [leavesOthers_release_iff]
            constructor
            · intro both
              exact both.1
            · intro own
              exact ⟨own, by rintro ⟨⟩⟩
    | decline =>
        dsimp only
        cases requestedAddr request with
        | none =>
            refine iff_of_true ⟨unchanged, ?_⟩ trivial
            intro _ ip unused created
            exact absurd unused created
        | some ip =>
            dsimp only [answer4]
            rw [leavesOthers_set_iff, createsInside_set_iff]
            constructor
            · intro both
              exact ⟨both.2 rfl, both.1⟩
            · intro both
              exact ⟨both.2, fun _ => both.1⟩
    | _ => exact iff_of_true ⟨unchanged, by rintro ⟨⟩⟩ trivial
  · unfold NamesOwnAddress
    rw [ask4_of_not_accepted ours]
    refine iff_of_true ?_ trivial
    intro served request udp port accepted
    exact absurd ⟨udp, port, served, request, accepted⟩ ours

/-! ### Runs -/

/-- In a run of the DHCPv4 server no frame interferes with another client exactly
when every RELEASE and DECLINE in it names an address the sender may give up. -/
theorem run4_noninterfering_iff (lib : Library4) (start : AddressServer) (inputs : List Input) :
    (∀ before input after pkt, inputs = before ++ input :: after → input.event = .frame pkt →
      Noninterfering4 lib (run (step4 lib) start before) input pkt) ↔
    (∀ before input after pkt, inputs = before ++ input :: after → input.event = .frame pkt →
      NamesOwnAddress lib (run (step4 lib) start before) input pkt) := by
  constructor
  · intro holds before input after pkt split happens
    rw [← noninterfering4_iff_namesOwnAddress]
    exact holds before input after pkt split happens
  · intro holds before input after pkt split happens
    rw [noninterfering4_iff_namesOwnAddress]
    exact holds before input after pkt split happens

/-! ### Sample traffic -/

/-- A message on the wire: the fixed header, the message type and, if there are
bytes for it, option 50. -/
def samplePayload4 (code : UInt8) (mac ciaddr requested : List UInt8) : List UInt8 :=
  [1, 1, 6, 0, 0, 0, 0, 1, 0, 0, 0, 0] ++ ciaddr ++ List.replicate 12 0 ++ mac ++
    List.replicate 202 0 ++ [99, 130, 83, 99, 53, 1, code] ++
    (if requested = [] then [] else [50, 4] ++ requested) ++ [255]

def sampleType4 : UInt8 → MessageType4
  | 1 => .discover
  | 3 => .request
  | 4 => .decline
  | 7 => .release
  | code => .other code

def sampleRequest4 (code : UInt8) (mac ciaddr : List UInt8) (requested : Option (List UInt8)) :
    DHCPv4 where
  opCode := .bootRequest
  messageType := sampleType4 code
  clientHWAddr := mac
  clientIPAddr := ciaddr
  yourIPAddr := [0, 0, 0, 0]
  isBroadcast := false
  clientIdentifier := []
  requestedIPAddress := requested
  hostName := ""

def sampleDecode4 (payload : List UInt8) : Option DHCPv4 :=
  match payload.drop 240 with
  | 53 :: 1 :: code :: options =>
      some (sampleRequest4 code ((payload.drop 28).take 6) ((payload.drop 12).take 4)
        (match options with
        | 50 :: 4 :: rest => some (rest.take 4)
        | _ => none))
  | _ => none

def sampleModify4 (reply : DHCPv4) : Modifier4 → DHCPv4
  | .withMessageType typ => { reply with messageType := typ }
  | _ => reply

def sampleReply4 (request : DHCPv4) (modifiers : List Modifier4) : Option DHCPv4 :=
  some (modifiers.foldl sampleModify4
    { request with opCode := .bootReply, requestedIPAddress := none })

def sampleLibrary4 : Library4 where
  fromBytes := sampleDecode4
  newReplyFromRequest := sampleReply4

def samplePrefix4 : Prefix where
  addr := .v4 0xc0a83201
  bits := 24
  addrValid := rfl
  bitsFit := by decide

def sampleEnv4 : Env :=
  { sampleEnv with
    v4 := some samplePrefix4
    v4Is4 := by rintro served ⟨⟩; rfl }

def sampleIngress4 (code : UInt8) (mac ciaddr requested : List UInt8) : Ingress where
  srcMAC := mac
  isUDP4 := true
  isUDP6 := false
  isICMP6 := false
  srcIP := [0, 0, 0, 0]
  dstIP := [255, 255, 255, 255]
  srcPort := 68
  dstPort := 67
  icmpTyp := 0
  payload := samplePayload4 code mac ciaddr requested

def sampleFrame4 (now : Int) (code : UInt8) (mac ciaddr requested : List UInt8) : Input where
  now := now
  env := sampleEnv4
  orders := storedOrders
  event := .frame (sampleIngress4 code mac ciaddr requested)

/-- One client is offered 192.168.50.100; a RELEASE that another client sends
with that address as its ciaddr deletes the lease. -/
theorem release_deletes_lease_of_other :
    ¬ Noninterfering4 sampleLibrary4
      (run (step4 sampleLibrary4) sampleServer
        [sampleFrame4 0 1 [2, 0, 0, 0, 0, 0x42] [0, 0, 0, 0] []])
      (sampleFrame4 5 7 [2, 0, 0, 0, 0, 0x43] [192, 168, 50, 100] [])
      (sampleIngress4 7 [2, 0, 0, 0, 0, 0x43] [192, 168, 50, 100] []) := by
  intro quiet
  have leaves := (quiet samplePrefix4
    (sampleRequest4 7 [2, 0, 0, 0, 0, 0x43] [192, 168, 50, 100] none) rfl rfl rfl).1
  have verdict := leaves (.v4 0xc0a83264)
    { ip := .v4 0xc0a83264
      mac := "02:00:00:00:00:42"
      clientID := ""
      hostname := ""
      expiry := defaultLeaseTime
      static := false } (by decide) (by decide)
  exact absurd verdict (by decide)

end BridgeDhcp.Server
