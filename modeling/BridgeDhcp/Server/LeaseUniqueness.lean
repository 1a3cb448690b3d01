/-
How many addresses one client can hold.

The table is keyed by address, so nothing in its shape keeps a client to a single entry.
A selection does so for a client whose active entries are all at an address it may keep.
-/

import BridgeDhcp.Server.AddressDue
import BridgeDhcp.Server.ClientKey
import BridgeDhcp.Server.ClientNoninterference

set_option autoImplicit false

namespace BridgeDhcp.Server

open GoMap Netip Packet StepRun

/-! ### At most one address -/

namespace LeaseTable

/-- All addresses the client with this key holds at an instant are the same. -/
def SoleAt (table : LeaseTable) (now : Int) (key : String) : Prop :=
  ∀ first second, table.HeldUntil key first now → table.HeldUntil key second now →
    first = second

section Sole

variable {table after : LeaseTable} {now : Int} {key : String}

theorem HeldUntil.earlier {ip : Addr} {deadline sooner : Int}
    (held : table.HeldUntil key ip deadline) (order : sooner ≤ deadline) :
    table.HeldUntil key ip sooner := by
  obtain ⟨lease, found, own, lasts⟩ := held
  exact ⟨lease, found, own, Int.le_trans order lasts⟩

theorem SoleAt.later {since : Int} (sole : table.SoleAt since key) (order : since ≤ now) :
    table.SoleAt now key := by
  intro first second holdsFirst holdsSecond
  exact sole first second (holdsFirst.earlier order) (holdsSecond.earlier order)

theorem SoleAt.of_entries (sole : table.SoleAt now key)
    (fewer : ∀ ip lease, after.entry ip = some lease → table.entry ip = some lease) :
    after.SoleAt now key := by
  intro first second holdsFirst holdsSecond
  obtain ⟨lease, found, own, lasts⟩ := holdsFirst
  obtain ⟨other, otherFound, otherOwn, otherLasts⟩ := holdsSecond
  exact sole first second ⟨lease, fewer first lease found, own, lasts⟩
    ⟨other, fewer second other otherFound, otherOwn, otherLasts⟩

theorem heldUntil_of_set {lease : Lease} {ip : Addr}
    (held : (table.set lease).HeldUntil key ip now) :
    (ip = lease.ip ∧ lease.key = key) ∨ table.HeldUntil key ip now := by
  obtain ⟨stored, found, own, lasts⟩ := held
  rw [entry_set] at found
  split at found
  · rename_i same
    cases found
    exact Or.inl ⟨same, own⟩
  · exact Or.inr ⟨stored, found, own, lasts⟩

theorem SoleAt.set {lease : Lease} (sole : table.SoleAt now key)
    (nowhereElse : lease.key = key → ∀ ip, table.HeldUntil key ip now → ip = lease.ip) :
    (table.set lease).SoleAt now key := by
  intro first second holdsFirst holdsSecond
  rcases heldUntil_of_set holdsFirst with ⟨firstHere, own⟩ | firstBefore
  · rcases heldUntil_of_set holdsSecond with ⟨secondHere, _⟩ | secondBefore
    · exact firstHere.trans secondHere.symm
    · exact firstHere.trans (nowhereElse own second secondBefore).symm
  · rcases heldUntil_of_set holdsSecond with ⟨secondHere, own⟩ | secondBefore
    · exact (nowhereElse own first firstBefore).trans secondHere.symm
    · exact sole first second firstBefore secondBefore

theorem heldUntil_of_byClient {order : RangeOrder Lease} {mac clientID : String} {lease : Lease}
    (found : table.byClient order now mac clientID = some lease) :
    table.HeldUntil (clientKey mac clientID) lease.ip now := by
  obtain ⟨present, own, active⟩ := byClient_some found
  exact ⟨lease, present, own, (lease.expired_eq_false_iff now).mp active⟩

theorem byClient_of_heldUntil (order : RangeOrder Lease) {mac clientID : String} {ip : Addr}
    (held : table.HeldUntil (clientKey mac clientID) ip now) :
    ∃ lease, table.byClient order now mac clientID = some lease := by
  cases found : table.byClient order now mac clientID with
  | some lease => exact ⟨lease, rfl⟩
  | none =>
      exfalso
      obtain ⟨lease, present, own, lasts⟩ := held
      have gone := (byClient_none_iff table order now mac clientID).mp found ip lease present own
      rw [(lease.expired_eq_false_iff now).mpr lasts] at gone
      cases gone

theorem occupied_of_heldUntil {ip : Addr} (held : table.HeldUntil key ip now) :
    table.occupied now ip = true := by
  obtain ⟨lease, present, _, lasts⟩ := held
  unfold occupied
  rw [present]
  dsimp only
  rw [(lease.expired_eq_false_iff now).mpr lasts]
  rfl

end Sole

end LeaseTable

/-! ### Clients that hold nothing they have to give up -/

/-- The client may stay at the address: it is its usable reservation, or it has
none and the address is inside the prefix and reserved for nobody. -/
def MayKeep (served : Prefix) (bindings : List StaticBinding) (client : Applicant)
    (ip : Addr) : Prop :=
  if (reservedFor served bindings client).isValid = true then
    reservedFor served bindings client = ip
  else (staticIPs served bindings).contains ip = false ∧ served.contains ip = true

def Settled (table : LeaseTable) (now : Int) (served : Prefix) (bindings : List StaticBinding)
    (client : Applicant) : Prop :=
  ∀ ip, table.HeldUntil client.key ip now → MayKeep served bindings client ip

section Settled

variable {cfg : PoolConfig} {statics : Map String StaticBinding} {table : LeaseTable}
  {orders : RangeOrders} {now : Int} {served : Prefix} {client : Applicant}
  {requested : Option Addr} {ip : Addr}

theorem keepable_iff (served : Prefix) (reserved : List Addr) (current : Lease) :
    keepable served reserved current = true ↔
      reserved.contains current.ip = false ∧ served.contains current.ip = true := by
  unfold keepable
  rw [Bool.and_eq_true, Bool.not_eq_true', Prefix.contains_masked]

theorem mayKeep_of_unreserved {bindings : List StaticBinding}
    (unreserved : (reservedFor served bindings client).isValid = false) :
    MayKeep served bindings client ip ↔
      (staticIPs served bindings).contains ip = false ∧ served.contains ip = true := by
  unfold MayKeep
  rw [if_neg (Bool.eq_false_iff.mp unreserved)]

theorem Due.mayKeep (due : Due cfg statics table orders now served client requested ip) :
    MayKeep served (listBindings statics orders) client ip := by
  cases due with
  | reserved reservation valid _ =>
      unfold MayKeep
      rw [reservation, if_pos valid]
  | kept current unreserved _ keeps address =>
      rw [mayKeep_of_unreserved unreserved, ← address, ← keepable_iff]
      exact keeps
  | pooled unreserved _ pool =>
      rw [mayKeep_of_unreserved unreserved]
      have returned := (selectFromPool_eq_iff_due cfg table now served _ client requested ip).mpr
        pool
      rcases selectFromPool_cases cfg table now served
          (staticIPs served (listBindings statics orders)) client requested with
        refused | ⟨booked, outcome, booking, notReserved, _⟩
      · rw [refused] at returned
        rw [← returned.1] at returned
        cases returned.2
      · rw [outcome] at returned
        have same : booked = ip := returned.1
        subst same
        exact ⟨notReserved, booking.inside⟩

theorem Due.eq_of_heldUntil (due : Due cfg statics table orders now served client requested ip)
    (sole : table.SoleAt now client.key)
    (settled : Settled table now served (listBindings statics orders) client)
    {other : Addr} (held : table.HeldUntil client.key other now) : other = ip := by
  have stays := settled other held
  cases due with
  | reserved reservation valid _ =>
      unfold MayKeep at stays
      rw [reservation, if_pos valid] at stays
      exact stays.symm
  | kept current _ found _ address =>
      rw [← address]
      exact sole other current.ip held (LeaseTable.heldUntil_of_byClient found)
  | pooled unreserved unkept _ =>
      -- The lookup finds one of the client's entries, and the client may keep it.
      exfalso
      obtain ⟨current, found⟩ := LeaseTable.byClient_of_heldUntil orders.leases held
      have currentStays := settled current.ip (LeaseTable.heldUntil_of_byClient found)
      rw [mayKeep_of_unreserved unreserved, ← keepable_iff, unkept current found] at currentStays
      cases currentStays

theorem Due.booking (due : Due cfg statics table orders now served client requested ip) :
    ∃ lease, selectAddress cfg statics table orders now served client requested =
        (ip, table.set lease) ∧ Booking cfg table now served client ip lease := by
  obtain ⟨returned, valid⟩ :=
    (selectAddress_eq_iff_due cfg statics table orders now served client requested ip).mpr due
  exact selectAddress_booking returned valid

theorem selectAddress_of_not_due
    (none : ∀ ip, ¬ Due cfg statics table orders now served client requested ip) :
    selectAddress cfg statics table orders now served client requested = (.invalid, table) := by
  rcases selectAddress_cases cfg statics table orders now served client requested with
    refused | ⟨ip, lease, outcome, booking, _⟩
  · exact refused
  · exfalso
    apply none ip
    rw [← selectAddress_eq_iff_due, outcome]
    exact ⟨rfl, booking.valid⟩

/-- What a selection needs so that its client ends up with one address: the
client has nothing to give up, or there is no address for it. -/
def SafeToServe (cfg : PoolConfig) (statics : Map String StaticBinding) (table : LeaseTable)
    (orders : RangeOrders) (now : Int) (served : Prefix) (client : Applicant)
    (requested : Option Addr) : Prop :=
  Settled table now served (listBindings statics orders) client ∨
    ∀ ip, ¬ Due cfg statics table orders now served client requested ip

theorem selectAddress_soleAt {key : String} (sole : table.SoleAt now key)
    (safe : client.key = key → SafeToServe cfg statics table orders now served client requested) :
    (selectAddress cfg statics table orders now served client requested).2.SoleAt now key := by
  rcases selectAddress_cases cfg statics table orders now served client requested with
    refused | ⟨ip, lease, outcome, booking, _⟩
  · rw [refused]
    exact sole
  · have due : Due cfg statics table orders now served client requested ip := by
      rw [← selectAddress_eq_iff_due, outcome]
      exact ⟨rfl, booking.valid⟩
    rw [outcome]
    apply sole.set
    intro own other held
    have same : client.key = key := booking.key.symm.trans own
    subst same
    rw [booking.address]
    rcases safe rfl with settled | none
    · exact due.eq_of_heldUntil sole settled held
    · exact absurd due (none ip)

/-- An unsettled client that is given an address ends up with two of them: the
one it may not keep stays active beside the new one. -/
theorem not_soleAt_of_unsettled (positive : 0 < cfg.leaseTime)
    (risky : ¬ SafeToServe cfg statics table orders now served client requested) :
    ¬ (selectAddress cfg statics table orders now served client requested).2.SoleAt now
      client.key := by
  unfold SafeToServe at risky
  rw [not_or, not_forall] at risky
  obtain ⟨unsettled, ip, notNotDue⟩ := risky
  have due := not_not.mp notNotDue
  unfold Settled at unsettled
  rw [not_forall] at unsettled
  obtain ⟨other, remains⟩ := unsettled
  rw [Classical.not_imp] at remains
  obtain ⟨held, leaves⟩ := remains
  have different : other ≠ ip := by
    intro same
    subst same
    exact leaves due.mayKeep
  obtain ⟨lease, outcome, booking⟩ := due.booking
  rw [outcome]
  intro sole
  apply different
  apply sole other ip
  · apply held.set_ne
    rw [booking.address]
    exact different
  · refine ⟨lease, ?_, booking.key, ?_⟩
    · rw [← booking.address]
      exact table.entry_set_self lease
    · rw [booking.expiry]
      omega

end Settled

/-! ### Runs of the DHCPv4 server -/

def declinedKey : String := clientKey "declined" ""

/-- Every client, the placeholder apart, holds at most one address. -/
def OneAddressEach (table : LeaseTable) (now : Int) : Prop :=
  ∀ key, key ≠ declinedKey → table.SoleAt now key

/-- Whoever an event makes the server select an address for is safe to serve. -/
def ServesSafely4 (lib : Library4) (server : AddressServer) (input : Input) : Prop :=
  ∀ served request, serves4 lib server input = some (served, request) →
    SafeToServe server.cfg server.statics.bindings server.leases input.orders input.now served
      (applicant4 request) (requestedAddr request)

theorem applicant4_key_ne_declined (request : DHCPv4) :
    (applicant4 request).key ≠ declinedKey :=
  clientKey_ne_declined (hexText_hardwareAddrString _) (hexText_hexEncode _)

theorem step4_oneAddressEach_iff {lib : Library4} {server : AddressServer} {input : Input}
    (one : OneAddressEach server.leases input.now) :
    OneAddressEach (step4 lib server input).leases input.now ↔
      ServesSafely4 lib server input := by
  have table := step4_tableStep lib server input
  have idleSafe (idle : serves4 lib server input = none) : ServesSafely4 lib server input := by
    intro served request serves
    rw [idle] at serves
    cases serves
  generalize (step4 lib server input).leases = after at table
  cases table with
  | unchanged idle => exact iff_of_true one (idleSafe idle)
  | selected served request serves =>
      constructor
      · intro oneAfter other again same
        rw [serves] at same
        cases same
        by_contra risky
        obtain ⟨_, _, _, _, accepted, _⟩ := serves4_eq_some serves
        have positive := server.normalized.leasePositive (acceptedRequest_eq_some accepted).2.1
        exact not_soleAt_of_unsettled positive risky
          (oneAfter _ (applicant4_key_ne_declined request))
      · intro safe key other
        apply selectAddress_soleAt (one key other)
        intro _
        exact safe served request serves
  | swept idle =>
      apply iff_of_true _ (idleSafe idle)
      intro key other
      apply (one key other).of_entries
      intro ip lease found
      exact (LeaseTable.entry_of_expireSweep found).1
  | released target idle _ =>
      apply iff_of_true _ (idleSafe idle)
      intro key other
      apply (one key other).of_entries
      intro ip lease found
      exact LeaseTable.entry_of_release found
  | declined target idle _ =>
      apply iff_of_true _ (idleSafe idle)
      intro key other
      apply (one key other).set
      intro own
      exact absurd own.symm other

theorem oneAddressEach_newLeaseTable (now : Int) :
    OneAddressEach LeaseTable.newLeaseTable now := by
  intro key _ first second held
  obtain ⟨lease, found, _⟩ := held
  rw [LeaseTable.entry_newLeaseTable] at found
  cases found

/-- Starting without leases, in any run on a clock that never goes back, every
client holds at most one address in every state reached exactly when every
client is safe to serve whenever it is served. -/
theorem run4_oneAddressEach_iff (lib : Library4) (start : AddressServer) (inputs : List Input)
    (empty : start.leases = LeaseTable.newLeaseTable)
    (ordered : Chronological Input.now inputs) :
    (∀ before after now, inputs = before ++ after → (∀ input ∈ before, input.now ≤ now) →
      OneAddressEach (run (step4 lib) start before).leases now) ↔
    Throughout (step4 lib) (ServesSafely4 lib) start inputs := by
  constructor
  · intro always before input after split
    have chronology : Chronological Input.now (before ++ [input]) := by
      apply Chronological.left
      rw [List.append_assoc, List.singleton_append, ← split]
      exact ordered
    have reached : ∀ earlier ∈ before, earlier.now ≤ input.now := by
      intro earlier member
      exact chronology.across Input.now member (List.mem_singleton_self input)
    have one := always before (input :: after) input.now split reached
    have oneAfter := always (before ++ [input]) after input.now
      (by rw [split, List.append_assoc, List.singleton_append])
      (by
        intro earlier member
        rcases List.mem_append.mp member with inBefore | last
        · exact reached earlier inBefore
        · rw [List.mem_singleton.mp last])
    rw [run_append] at oneAfter
    exact (step4_oneAddressEach_iff one).mp oneAfter
  · intro safe before after now split reached
    subst split
    apply run_invariant_always (step4 lib) Input.now
      (fun instant state => OneAddressEach state.leases instant) (ServesSafely4 lib)
    · -- While the clock advances leases only run out.
      intro earlier later state waits one key other
      exact (one key other).later waits
    · intro state input safely one
      exact (step4_oneAddressEach_iff one).mpr safely
    · intro instant
      rw [empty]
      exact oneAddressEach_newLeaseTable instant
    · exact ordered.left Input.now
    · exact safe.left (step4 lib)
    · exact reached

instance (served : Prefix) (bindings : List StaticBinding) (client : Applicant) (ip : Addr) :
    Decidable (MayKeep served bindings client ip) :=
  inferInstanceAs (Decidable (if (reservedFor served bindings client).isValid = true then
    reservedFor served bindings client = ip
  else (staticIPs served bindings).contains ip = false ∧ served.contains ip = true))

def servesSettled4 (lib : Library4) (server : AddressServer) (input : Input) : Bool :=
  match serves4 lib server input with
  | none => true
  | some (served, request) =>
      (values server.leases.leases).all (fun lease =>
        decide (lease.key = (applicant4 request).key →
          MayKeep served (listBindings server.statics.bindings input.orders) (applicant4 request)
            lease.ip))

theorem servesSafely4_of_settled {lib : Library4} (server : AddressServer) (input : Input)
    (settled : servesSettled4 lib server input = true) : ServesSafely4 lib server input := by
  intro served request serves
  unfold servesSettled4 at settled
  rw [serves] at settled
  left
  intro ip held
  obtain ⟨lease, found, own, _⟩ := held
  have listed := (mem_values_iff _ _).mpr ⟨ip, found⟩
  have keeps := of_decide_eq_true (List.all_eq_true.mp settled lease listed) own
  rw [LeaseTable.entry_ip found] at keeps
  exact keeps

def sampleEdit (now : Int) (event : Event) : Input where
  now := now
  env := sampleEnv4
  orders := storedOrders
  event := event

def sampleBinding : StaticBinding where
  id := "moved"
  order := 0
  mac := some "02:00:00:00:00:42"
  clientID := none
  offset := 200

/-- A client takes an address, an offset is reserved for its neighbour, and the client
renews. -/
def sampleRenewal : List Input :=
  [sampleFrame4 0 1 [2, 0, 0, 0, 0, 0x42] [0, 0, 0, 0] [],
    sampleEdit 1 (.putStatic { sampleBinding with mac := some "02:00:00:00:00:43" }),
    sampleFrame4 2 3 [2, 0, 0, 0, 0, 0x42] [192, 168, 50, 100] []]

theorem run4_oneAddressEach_renewal :
    ((run (step4 sampleLibrary4) sampleServer sampleRenewal).leases.entry (.v4 0xc0a83264)).map
        Lease.expiry = some (2 + defaultLeaseTime) ∧
      OneAddressEach (run (step4 sampleLibrary4) sampleServer sampleRenewal).leases 2 := by
  refine ⟨by decide +kernel, ?_⟩
  have safely : Throughout (step4 sampleLibrary4) (ServesSafely4 sampleLibrary4) sampleServer
      sampleRenewal :=
    throughout_of_check _ servesSafely4_of_settled (by decide +kernel)
  apply (run4_oneAddressEach_iff sampleLibrary4 sampleServer sampleRenewal rfl
    (by unfold Chronological; decide)).mpr safely sampleRenewal [] 2 rfl
  decide

/-- A client has a lease at 192.168.50.100, a binding then reserves offset 200
for it, and its next DISCOVER leaves it with both addresses. -/
theorem moved_client_holds_two :
    ¬ OneAddressEach
      (run (step4 sampleLibrary4) sampleServer
        [sampleFrame4 0 1 [2, 0, 0, 0, 0, 0x42] [0, 0, 0, 0] [],
          sampleEdit 1 (.putStatic sampleBinding),
          sampleFrame4 2 1 [2, 0, 0, 0, 0, 0x42] [0, 0, 0, 0] []]).leases 2 := by
  intro one
  have same := one "02:00:00:00:00:42/" (by decide) (.v4 0xc0a83264) (.v4 0xc0a832c8)
    ⟨{ ip := .v4 0xc0a83264
       mac := "02:00:00:00:00:42"
       clientID := ""
       hostname := ""
       expiry := defaultLeaseTime
       static := false }, by decide, by decide, by decide⟩
    ⟨{ ip := .v4 0xc0a832c8
       mac := "02:00:00:00:00:42"
       clientID := ""
       hostname := ""
       expiry := 2 + defaultLeaseTime
       static := true }, by decide, by decide, by decide⟩
  exact absurd same (by decide)

end BridgeDhcp.Server
