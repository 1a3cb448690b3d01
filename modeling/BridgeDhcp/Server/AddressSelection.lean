/-
Pool configuration, the static binding set and the selection of an address.

DHCPv4 and DHCPv6 select alike: the reservation, the client's own lease, then
the pool.  DHCPv4 has one more stage, which honours a requested address, so the
common function takes that request as an option.  A selection books the address
it returns.
-/

import BridgeDhcp.Server.LeaseTable

set_option autoImplicit false

namespace BridgeDhcp.Server

open GoMap Netip

/-! ### Configuration -/

/-- Common shape of `DHCP4Config` and `DHCP6Config`; durations are nanoseconds. -/
structure PoolConfig where
  enabled : Bool
  poolOffsetStart : UInt64
  poolOffsetEnd : UInt64
  leaseTime : Int
  dns : List Addr
  deriving DecidableEq, Repr

abbrev DHCP4Config := PoolConfig
abbrev DHCP6Config := PoolConfig

def defaultLeaseTime : Int := 3600000000000

theorem defaultLeaseTime_pos : 0 < defaultLeaseTime := by decide

/-- Reject an empty or zero-based pool and complete the lease time. -/
def PoolConfig.normalizeAs (family : String) (cfg : PoolConfig) : Except String PoolConfig :=
  if cfg.enabled = false then .ok cfg
  else if cfg.poolOffsetStart = 0 ∨ cfg.poolOffsetEnd < cfg.poolOffsetStart then
    .error s!"{family} pool offsets invalid: [{cfg.poolOffsetStart}, {cfg.poolOffsetEnd}]"
  else if cfg.leaseTime ≤ 0 then .ok { cfg with leaseTime := defaultLeaseTime }
  else .ok cfg

def DHCP4Config.normalize (cfg : DHCP4Config) : Except String DHCP4Config :=
  cfg.normalizeAs "dhcp4"

def DHCP6Config.normalize (cfg : DHCP6Config) : Except String DHCP6Config :=
  cfg.normalizeAs "dhcp6"

structure PoolConfig.Normalized (cfg : PoolConfig) : Prop where
  startPositive : cfg.enabled = true → cfg.poolOffsetStart ≠ 0
  ordered : cfg.enabled = true → cfg.poolOffsetStart ≤ cfg.poolOffsetEnd
  leasePositive : cfg.enabled = true → 0 < cfg.leaseTime

theorem PoolConfig.normalizeAs_normalized {family : String} {cfg normal : PoolConfig}
    (accepted : cfg.normalizeAs family = .ok normal) : normal.Normalized := by
  unfold PoolConfig.normalizeAs at accepted
  split at accepted
  · rename_i disabled
    cases accepted
    constructor <;> intro enabled <;> rw [disabled] at enabled <;> cases enabled
  · split at accepted
    · cases accepted
    · rename_i offsets
      obtain ⟨positive, inOrder⟩ := not_or.mp offsets
      have ordered : cfg.poolOffsetStart ≤ cfg.poolOffsetEnd := UInt64.not_lt.mp inOrder
      split at accepted
      · cases accepted
        exact ⟨fun _ => positive, fun _ => ordered, fun _ => defaultLeaseTime_pos⟩
      · rename_i leaseTime
        cases accepted
        exact ⟨fun _ => positive, fun _ => ordered, fun _ => Int.not_le.mp leaseTime⟩

def PoolConfig.Servable (cfg : PoolConfig) : Prop :=
  cfg.enabled = true → cfg.poolOffsetStart ≠ 0 ∧ cfg.poolOffsetStart ≤ cfg.poolOffsetEnd

theorem PoolConfig.normalizeAs_isOk_iff (family : String) (cfg : PoolConfig) :
    (∃ normal, cfg.normalizeAs family = .ok normal) ↔ cfg.Servable := by
  unfold PoolConfig.normalizeAs PoolConfig.Servable
  split
  · next disabled => simp [disabled]
  · next enabled =>
      have on : cfg.enabled = true := eq_true_of_ne_false enabled
      split
      · next offsets =>
          simp only [reduceCtorEq, exists_false, on, forall_const, false_iff]
          rintro ⟨positive, ordered⟩
          rcases offsets with zero | reversed
          · exact positive zero
          · exact absurd reversed (UInt64.not_lt.mpr ordered)
      · next offsets =>
          obtain ⟨positive, inOrder⟩ := not_or.mp offsets
          have ordered : cfg.poolOffsetStart ≤ cfg.poolOffsetEnd := UInt64.not_lt.mp inOrder
          split <;> simp [positive, ordered]

/-! ### Selecting an address -/

/-- The orders in which one call ranges over the static set and the table. -/
structure RangeOrders where
  statics : RangeOrder StaticBinding
  leases : RangeOrder Lease

structure Applicant where
  mac : String
  clientID : String
  hostname : String
  deriving DecidableEq, Repr

def Applicant.key (client : Applicant) : String := clientKey client.mac client.clientID

def listBindings (statics : Map String StaticBinding) (orders : RangeOrders) :
    List StaticBinding :=
  orders.statics.arrange (values statics)

def staticIPs (served : Prefix) (bindings : List StaticBinding) : List Addr :=
  (bindings.map (fun binding => addrAtOffset served binding.offset)).filter Addr.isValid

def draftLease (cfg : PoolConfig) (now : Int) (client : Applicant) : Lease where
  ip := .invalid
  mac := client.mac
  clientID := client.clientID
  hostname := client.hostname
  expiry := now + cfg.leaseTime
  static := false

def grantable (table : LeaseTable) (now : Int) (served : Prefix) (reserved : List Addr)
    (client : Applicant) (poolStart poolEnd requested : Addr) : Bool :=
  !poolEnd.less requested && !requested.less poolStart && requested != served.addr &&
    !reserved.contains requested && !table.inUse now requested client.mac client.clientID

/-- The pool stages: a requested address if it is free, else the lowest free one. -/
def selectFromPool (cfg : PoolConfig) (table : LeaseTable) (now : Int) (served : Prefix)
    (reserved : List Addr) (client : Applicant) (requested : Option Addr) : Addr × LeaseTable :=
  let poolStart := addrAtOffset served cfg.poolOffsetStart
  let poolEnd := addrAtOffset served cfg.poolOffsetEnd
  let lease := draftLease cfg now client
  let lowest := table.allocate now poolStart poolEnd
    (fun ip => ip == served.addr || reserved.contains ip) lease
  if !poolStart.isValid || !poolEnd.isValid then (.invalid, table)
  else
    match requested with
    | none => lowest
    | some ip =>
        if grantable table now served reserved client poolStart poolEnd ip then
          (ip, table.set { lease with ip := ip })
        else lowest

def keepable (served : Prefix) (reserved : List Addr) (current : Lease) : Bool :=
  !reserved.contains current.ip && served.masked.contains current.ip

def selectDynamic (cfg : PoolConfig) (table : LeaseTable) (orders : RangeOrders) (now : Int)
    (served : Prefix) (reserved : List Addr) (client : Applicant) (requested : Option Addr) :
    Addr × LeaseTable :=
  match table.byClient orders.leases now client.mac client.clientID with
  | some current =>
      if keepable served reserved current then
        (current.ip, table.set { draftLease cfg now client with ip := current.ip })
      else selectFromPool cfg table now served reserved client requested
  | none => selectFromPool cfg table now served reserved client requested

/-- Pick and book the address of a client; invalid when none can be offered. -/
def selectAddress (cfg : PoolConfig) (statics : Map String StaticBinding) (table : LeaseTable)
    (orders : RangeOrders) (now : Int) (served : Prefix) (client : Applicant)
    (requested : Option Addr) : Addr × LeaseTable :=
  let bindings := listBindings statics orders
  let reserved := staticIPs served bindings
  let dynamic := selectDynamic cfg table orders now served reserved client requested
  match matchBinding bindings client.mac client.clientID with
  | none => dynamic
  | some binding =>
      let ip := addrAtOffset served binding.offset
      if ip.isValid then
        if table.inUse now ip client.mac client.clientID then (.invalid, table)
        else (ip, table.set { draftLease cfg now client with ip := ip, static := true })
      else dynamic

/-! ### The stages of a selection -/

/-- The address the static set gives to a client, invalid if it gives none. -/
def reservedFor (served : Prefix) (bindings : List StaticBinding) (client : Applicant) : Addr :=
  match matchBinding bindings client.mac client.clientID with
  | none => .invalid
  | some binding => addrAtOffset served binding.offset

theorem reservedFor_mem_staticIPs {served : Prefix} {bindings : List StaticBinding}
    {client : Applicant} (valid : (reservedFor served bindings client).isValid = true) :
    reservedFor served bindings client ∈ staticIPs served bindings := by
  unfold staticIPs
  rw [List.mem_filter]
  refine ⟨?_, valid⟩
  unfold reservedFor at valid ⊢
  cases picks : matchBinding bindings client.mac client.clientID with
  | none =>
      rw [picks] at valid
      cases valid
  | some picked => exact List.mem_map.mpr ⟨picked, matchBinding_mem picks, rfl⟩

theorem staticIPs_contains_eq (statics : Map String StaticBinding) (served : Prefix)
    (first second : RangeOrders) (ip : Addr) :
    (staticIPs served (listBindings statics first)).contains ip =
      (staticIPs served (listBindings statics second)).contains ip := by
  have permuted : (listBindings statics first).Perm (listBindings statics second) :=
    (first.statics.visits _).trans (second.statics.visits _).symm
  rw [Bool.eq_iff_iff, List.contains_iff_mem, List.contains_iff_mem]
  exact ((permuted.map _).filter _).mem_iff

/-- Every way a selection can end, with what the code has checked by then. -/
inductive Selection (cfg : PoolConfig) (statics : Map String StaticBinding) (table : LeaseTable)
    (orders : RangeOrders) (now : Int) (served : Prefix) (client : Applicant)
    (requested : Option Addr) : Addr × LeaseTable → Prop
  /-- The client's reservation is held by someone else. -/
  | taken (ip : Addr)
      (reservation : reservedFor served (listBindings statics orders) client = ip)
      (valid : ip.isValid = true)
      (held : table.inUse now ip client.mac client.clientID = true) :
      Selection cfg statics table orders now served client requested (.invalid, table)
  /-- The client's reservation is booked. -/
  | reserved (ip : Addr)
      (reservation : reservedFor served (listBindings statics orders) client = ip)
      (valid : ip.isValid = true)
      (free : table.inUse now ip client.mac client.clientID = false) :
      Selection cfg statics table orders now served client requested
        (ip, table.set { draftLease cfg now client with ip := ip, static := true })
  /-- The lease the client already holds is extended. -/
  | renewed (current : Lease)
      (unreserved : (reservedFor served (listBindings statics orders) client).isValid = false)
      (found : table.byClient orders.leases now client.mac client.clientID = some current)
      (keeps : keepable served (staticIPs served (listBindings statics orders)) current = true) :
      Selection cfg statics table orders now served client requested
        (current.ip, table.set { draftLease cfg now client with ip := current.ip })
  /-- The client has no lease it may keep and the pool gives what it gives. -/
  | pooled (result : Addr × LeaseTable)
      (unreserved : (reservedFor served (listBindings statics orders) client).isValid = false)
      (unkept : ∀ current,
        table.byClient orders.leases now client.mac client.clientID = some current →
        keepable served (staticIPs served (listBindings statics orders)) current = false)
      (pool : selectFromPool cfg table now served
        (staticIPs served (listBindings statics orders)) client requested = result) :
      Selection cfg statics table orders now served client requested result

section Stages

variable (cfg : PoolConfig) (statics : Map String StaticBinding) (table : LeaseTable)
  (orders : RangeOrders) (now : Int) (served : Prefix) (client : Applicant)
  (requested : Option Addr)

theorem selectAddress_eq :
    selectAddress cfg statics table orders now served client requested =
      if (reservedFor served (listBindings statics orders) client).isValid then
        if table.inUse now (reservedFor served (listBindings statics orders) client) client.mac
            client.clientID then (.invalid, table)
        else (reservedFor served (listBindings statics orders) client,
          table.set
            { draftLease cfg now client with
              ip := reservedFor served (listBindings statics orders) client
              static := true })
      else selectDynamic cfg table orders now served
        (staticIPs served (listBindings statics orders)) client requested := by
  unfold selectAddress reservedFor
  dsimp only
  cases matchBinding (listBindings statics orders) client.mac client.clientID with
  | none => rfl
  | some binding => rfl

theorem selectDynamic_selection
    (unreserved : (reservedFor served (listBindings statics orders) client).isValid = false) :
    Selection cfg statics table orders now served client requested
      (selectDynamic cfg table orders now served
        (staticIPs served (listBindings statics orders)) client requested) := by
  unfold selectDynamic
  cases found : table.byClient orders.leases now client.mac client.clientID with
  | none =>
      apply Selection.pooled _ unreserved _ rfl
      intro current impossible
      rw [found] at impossible
      cases impossible
  | some current =>
      dsimp only
      split
      · rename_i keeps
        exact Selection.renewed current unreserved found keeps
      · rename_i drops
        apply Selection.pooled _ unreserved _ rfl
        intro other same
        rw [found] at same
        cases same
        exact Bool.eq_false_iff.mpr drops

theorem selectAddress_selection :
    Selection cfg statics table orders now served client requested
      (selectAddress cfg statics table orders now served client requested) := by
  rw [selectAddress_eq]
  split
  · rename_i valid
    split
    · rename_i held
      exact Selection.taken _ rfl valid held
    · rename_i free
      exact Selection.reserved _ rfl valid (Bool.eq_false_iff.mpr free)
  · rename_i invalid
    exact selectDynamic_selection cfg statics table orders now served client requested
      (Bool.eq_false_iff.mpr invalid)

end Stages

/-! ### What a selection books -/

structure Booking (cfg : PoolConfig) (table : LeaseTable) (now : Int) (served : Prefix)
    (client : Applicant) (ip : Addr) (lease : Lease) : Prop where
  address : lease.ip = ip
  mac : lease.mac = client.mac
  clientID : lease.clientID = client.clientID
  expiry : lease.expiry = now + cfg.leaseTime
  valid : ip.isValid = true
  inside : served.contains ip = true
  free : table.inUse now ip client.mac client.clientID = false

section Booked

variable {cfg : PoolConfig} {statics : Map String StaticBinding} {table : LeaseTable}
  {orders : RangeOrders} {now : Int} {served : Prefix} {client : Applicant}
  {requested : Option Addr}

theorem Booking.key {ip : Addr} {lease : Lease}
    (booking : Booking cfg table now served client ip lease) : lease.key = client.key := by
  unfold Lease.key Applicant.key
  rw [booking.mac, booking.clientID]

theorem LeaseTable.inUse_of_not_occupied {ip : Addr} {mac clientID : String}
    (free : table.occupied now ip = false) : table.inUse now ip mac clientID = false := by
  rw [LeaseTable.inUse_eq_false_iff]
  intro lease found active
  have gone := (LeaseTable.occupied_eq_false_iff table now ip).mp free lease found
  rw [active] at gone
  cases gone

/-- A booking from the pool is inside the prefix by convexity of the pool
interval, and its address is set aside for nobody. -/
theorem selectFromPool_cases (cfg : PoolConfig) (table : LeaseTable) (now : Int)
    (served : Prefix) (reserved : List Addr) (client : Applicant) (requested : Option Addr) :
    selectFromPool cfg table now served reserved client requested = (.invalid, table) ∨
      ∃ ip, selectFromPool cfg table now served reserved client requested =
          (ip, table.set { draftLease cfg now client with ip := ip }) ∧
        Booking cfg table now served client ip { draftLease cfg now client with ip := ip } ∧
        reserved.contains ip = false ∧ ip ≠ served.addr := by
  let poolStart := addrAtOffset served cfg.poolOffsetStart
  let poolEnd := addrAtOffset served cfg.poolOffsetEnd
  let skip : Addr → Bool := fun ip => ip == served.addr || reserved.contains ip
  let lease := draftLease cfg now client
  have fromScan (startValid : poolStart.isValid = true) (endValid : poolEnd.isValid = true) :
      table.allocate now poolStart poolEnd skip lease = (.invalid, table) ∨
        ∃ ip, table.allocate now poolStart poolEnd skip lease =
            (ip, table.set { draftLease cfg now client with ip := ip }) ∧
          Booking cfg table now served client ip { draftLease cfg now client with ip := ip } ∧
          reserved.contains ip = false ∧ ip ≠ served.addr := by
    cases result : (table.allocate now poolStart poolEnd skip lease).1.isValid with
    | false => exact Or.inl (LeaseTable.allocate_failed result)
    | true =>
        obtain ⟨stored, notAbove, notBelow, notSkipped, free⟩ := LeaseTable.allocate_sound result
        right
        refine ⟨_, Prod.ext rfl stored, ?_, ?_⟩
        · exact
            { address := rfl
              mac := rfl
              clientID := rfl
              expiry := rfl
              valid := result
              inside := served.contains_of_between (addrAtOffset_contains startValid)
                (addrAtOffset_contains endValid) notAbove notBelow
              free := LeaseTable.inUse_of_not_occupied free }
        · simp only [skip, Bool.or_eq_false_iff, beq_eq_false_iff_ne] at notSkipped
          exact ⟨notSkipped.2, notSkipped.1⟩
  unfold selectFromPool
  dsimp only
  split
  · exact Or.inl rfl
  · rename_i poolValid
    rw [Bool.or_eq_true, not_or, Bool.not_eq_true', Bool.not_eq_true', Bool.not_eq_false,
      Bool.not_eq_false] at poolValid
    obtain ⟨startValid, endValid⟩ := poolValid
    cases requested with
    | none => exact fromScan startValid endValid
    | some ip =>
        dsimp only
        split
        · rename_i grants
          unfold grantable at grants
          simp only [Bool.and_eq_true, Bool.not_eq_true', bne_iff_ne] at grants
          obtain ⟨⟨⟨⟨notAbove, notBelow⟩, notGateway⟩, notReserved⟩, free⟩ := grants
          have inside : served.contains ip = true :=
            served.contains_of_between (addrAtOffset_contains startValid)
              (addrAtOffset_contains endValid) notAbove notBelow
          right
          refine ⟨ip, rfl, ?_, notReserved, notGateway⟩
          exact
            { address := rfl
              mac := rfl
              clientID := rfl
              expiry := rfl
              valid := Prefix.isValid_of_contains inside
              inside := inside
              free := free }
        · exact fromScan startValid endValid

theorem renewed_booking {reserved : List Addr} {current : Lease}
    (found : table.byClient orders.leases now client.mac client.clientID = some current)
    (keeps : keepable served reserved current = true) :
    Booking cfg table now served client current.ip
        { draftLease cfg now client with ip := current.ip } ∧
      reserved.contains current.ip = false := by
  obtain ⟨present, own, active⟩ := LeaseTable.byClient_some found
  unfold keepable at keeps
  rw [Bool.and_eq_true, Bool.not_eq_true', Prefix.contains_masked] at keeps
  refine ⟨?_, keeps.1⟩
  exact
    { address := rfl
      mac := rfl
      clientID := rfl
      expiry := rfl
      valid := Prefix.isValid_of_contains keeps.2
      inside := keeps.2
      free := by
        rw [LeaseTable.inUse_eq_false_iff]
        intro lease same _
        rw [present] at same
        cases same
        exact own }

/-- A selection refuses and changes nothing, or books one lease at the address
it returns: the client's reservation, or an address reserved for nobody. -/
theorem selectAddress_cases (cfg : PoolConfig) (statics : Map String StaticBinding)
    (table : LeaseTable) (orders : RangeOrders) (now : Int) (served : Prefix)
    (client : Applicant) (requested : Option Addr) :
    selectAddress cfg statics table orders now served client requested = (.invalid, table) ∨
      ∃ ip lease, selectAddress cfg statics table orders now served client requested =
          (ip, table.set lease) ∧
        Booking cfg table now served client ip lease ∧
        (reservedFor served (listBindings statics orders) client = ip ∨
          (staticIPs served (listBindings statics orders)).contains ip = false) := by
  have stages := selectAddress_selection cfg statics table orders now served client requested
  generalize selectAddress cfg statics table orders now served client requested = result at stages
  cases stages with
  | taken ip reservation valid held => exact Or.inl rfl
  | reserved ip reservation valid free =>
      right
      refine ⟨ip, _, rfl, ?_, Or.inl reservation⟩
      have inside : served.contains ip = true := by
        subst reservation
        unfold reservedFor at valid ⊢
        split at valid
        · cases valid
        · exact addrAtOffset_contains valid
      exact
        { address := rfl
          mac := rfl
          clientID := rfl
          expiry := rfl
          valid := valid
          inside := inside
          free := free }
  | renewed current unreserved found keeps =>
      obtain ⟨booking, notReserved⟩ := renewed_booking found keeps
      exact Or.inr ⟨current.ip, _, rfl, booking, Or.inr notReserved⟩
  | pooled _ unreserved unkept pool =>
      rcases selectFromPool_cases cfg table now served
          (staticIPs served (listBindings statics orders)) client requested with refused | booked
      · exact Or.inl (pool.symm.trans refused)
      · obtain ⟨ip, outcome, booking, notReserved, _⟩ := booked
        exact Or.inr ⟨ip, _, pool.symm.trans outcome, booking, Or.inr notReserved⟩

theorem selectAddress_booking {cfg : PoolConfig} {statics : Map String StaticBinding}
    {table : LeaseTable} {orders : RangeOrders} {now : Int} {served : Prefix}
    {client : Applicant} {requested : Option Addr} {ip : Addr}
    (selected : (selectAddress cfg statics table orders now served client requested).1 = ip)
    (valid : ip.isValid = true) :
    ∃ lease, selectAddress cfg statics table orders now served client requested =
        (ip, table.set lease) ∧ Booking cfg table now served client ip lease := by
  rcases selectAddress_cases cfg statics table orders now served client requested with
    refused | ⟨target, lease, outcome, booking, _⟩
  · rw [refused] at selected
    rw [← selected] at valid
    cases valid
  · rw [outcome] at selected
    have same : target = ip := selected
    subst same
    exact ⟨lease, outcome, booking⟩

end Booked

end BridgeDhcp.Server
