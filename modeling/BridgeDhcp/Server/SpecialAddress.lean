/-
Addresses that no client should be given: the server's own, the base of the
network, and the broadcast address of an IPv4 network with room for hosts.

The pool leaves out the server's own address, and no accepted offset is zero, but
reservations and kept leases are checked against neither.  For each special address
the module says exactly which state makes a selection return it.
-/

import BridgeDhcp.Server.AddressDue
import BridgeDhcp.Server.LeaseUniqueness

set_option autoImplicit false

namespace BridgeDhcp.Server

open GoMap Netip

/-! ### Special addresses -/

def broadcastAddr (served : Prefix) : Addr :=
  served.addr.withNat (served.network * 2 ^ served.hostBits + (2 ^ served.hostBits - 1))

inductive Special (served : Prefix) (ip : Addr) : Prop
  | gateway (own : ip = served.addr)
  | base (first : ip = served.masked.addr)
  | broadcast (v4 : served.addr.is4 = true) (hosts : served.bits ≤ 30)
      (last : ip = broadcastAddr served)

theorem contains_gateway (served : Prefix) : served.contains served.addr = true := by
  rw [Prefix.contains_iff]
  exact ⟨rfl, rfl⟩

theorem contains_base (served : Prefix) : served.contains served.masked.addr = true := by
  rw [← Prefix.contains_masked]
  exact contains_gateway served.masked

theorem contains_iff_offset (served : Prefix) (ip : Addr) :
    served.contains ip = true ↔
      ip.bitLen = served.addr.bitLen ∧ served.masked.addr.toNat ≤ ip.toNat ∧
        ip.toNat < served.masked.addr.toNat + 2 ^ served.hostBits := by
  have positive : 0 < 2 ^ served.hostBits := Nat.two_pow_pos _
  rw [Prefix.contains_iff, Prefix.toNat_masked_addr, Nat.div_eq_iff positive]
  constructor
  · rintro ⟨family, above, below⟩
    refine ⟨family, above, ?_⟩
    omega
  · rintro ⟨family, above, below⟩
    refine ⟨family, above, ?_⟩
    omega

theorem bitLen_masked (served : Prefix) : served.masked.addr.bitLen = served.addr.bitLen :=
  Addr.bitLen_withNat _ _

theorem last_lt (served : Prefix) :
    served.network * 2 ^ served.hostBits + (2 ^ served.hostBits - 1) < 2 ^ served.addr.bitLen := by
  have positive : 0 < 2 ^ served.hostBits := Nat.two_pow_pos _
  have size : 2 ^ served.addr.bitLen = 2 ^ served.bits * 2 ^ served.hostBits := by
    unfold Prefix.hostBits
    rw [← Nat.pow_add, Nat.add_sub_cancel' served.bitsFit]
  have network : served.network < 2 ^ served.bits := by
    unfold Prefix.network
    rw [Nat.div_lt_iff_lt_mul positive, ← size]
    exact served.addr.toNat_lt
  have room : (served.network + 1) * 2 ^ served.hostBits ≤ 2 ^ served.bits * 2 ^ served.hostBits :=
    Nat.mul_le_mul_right _ network
  rw [Nat.succ_mul] at room
  omega

theorem toNat_broadcastAddr (served : Prefix) :
    (broadcastAddr served).toNat = served.masked.addr.toNat + (2 ^ served.hostBits - 1) := by
  rw [broadcastAddr, Addr.toNat_withNat _ _ (last_lt served), Prefix.toNat_masked_addr]

theorem contains_broadcastAddr (served : Prefix) :
    served.contains (broadcastAddr served) = true := by
  have positive : 0 < 2 ^ served.hostBits := Nat.two_pow_pos _
  rw [contains_iff_offset, toNat_broadcastAddr]
  refine ⟨Addr.bitLen_withNat _ _, ?_, ?_⟩ <;> omega

theorem addrAtOffset_eq_iff {served : Prefix} {ip : Addr} (inside : served.contains ip = true)
    (offset : UInt64) :
    addrAtOffset served offset = ip ↔
      served.masked.addr.toNat + offset.toNat = ip.toNat := by
  constructor
  · intro same
    have valid : (addrAtOffset served offset).isValid = true := by
      rw [same]
      exact Prefix.isValid_of_contains inside
    rw [← addrAtOffset_toNat valid, same]
  · intro same
    obtain ⟨family, _, _⟩ := (contains_iff_offset served ip).mp inside
    have base : served.masked.addr.bitLen = ip.bitLen := (bitLen_masked served).trans family.symm
    have narrow : ¬ 2 ^ served.masked.addr.bitLen ≤
        served.masked.addr.toNat + offset.toNat := by
      rw [same, base]
      exact Nat.not_le.mpr ip.toNat_lt
    have address : served.masked.addr.withNat (served.masked.addr.toNat + offset.toNat) = ip := by
      apply Addr.eq_of_toNat
      · rw [Addr.bitLen_withNat, base]
      · rw [Addr.toNat_withNat _ _ (Nat.not_le.mp narrow), same]
    unfold addrAtOffset
    dsimp only
    rw [if_neg narrow, address, if_pos]
    rw [Prefix.contains_masked]
    exact inside

/-! ### How an address is given away -/

section Ways

variable (cfg : PoolConfig) (statics : Map String StaticBinding) (table : LeaseTable)
  (orders : RangeOrders) (now : Int) (served : Prefix) (client : Applicant)
  (requested : Option Addr) (ip : Addr)

/-- The client's binding points at the address and nobody else has a lease there. -/
structure Reserves : Prop where
  points : ∃ binding,
    matchBinding (listBindings statics orders) client.mac client.clientID = some binding ∧
      served.masked.addr.toNat + binding.offset.toNat = ip.toNat
  free : ∀ lease, table.entry ip = some lease → lease.expired now = false →
    lease.key = client.key

def Unreserved : Prop :=
  (reservedFor served (listBindings statics orders) client).isValid = false

/-- The table shows the client a lease at the address, which no binding points at. -/
structure Keeps : Prop where
  unreserved : Unreserved statics orders served client
  shown : ∃ current,
    table.byClient orders.leases now client.mac client.clientID = some current ∧ current.ip = ip
  unclaimed : ∀ id binding, statics.lookup id = some binding →
    served.masked.addr.toNat + binding.offset.toNat ≠ ip.toNat

/-- The client has nothing to keep and the address is what the pool has for it. -/
structure PoolGives : Prop where
  unreserved : Unreserved statics orders served client
  unkept : ∀ current,
    table.byClient orders.leases now client.mac client.clientID = some current →
    keepable served (staticIPs served (listBindings statics orders)) current = false
  pool : PoolDue cfg table now served (staticIPs served (listBindings statics orders)) client
    requested ip

end Ways

section Given

variable {cfg : PoolConfig} {statics : Map String StaticBinding} {table : LeaseTable}
  {orders : RangeOrders} {now : Int} {served : Prefix} {client : Applicant}
  {requested : Option Addr} {ip : Addr}

theorem mem_staticIPs_iff (inside : served.contains ip = true) :
    ip ∈ staticIPs served (listBindings statics orders) ↔
      ∃ id binding, statics.lookup id = some binding ∧
        served.masked.addr.toNat + binding.offset.toNat = ip.toNat := by
  unfold staticIPs listBindings
  rw [List.mem_filter, List.mem_map]
  constructor
  · rintro ⟨⟨binding, listed, same⟩, _⟩
    rw [orders.statics.mem_arrange, mem_values_iff] at listed
    obtain ⟨id, found⟩ := listed
    exact ⟨id, binding, found, (addrAtOffset_eq_iff inside binding.offset).mp same⟩
  · rintro ⟨id, binding, found, same⟩
    refine ⟨⟨binding, ?_, (addrAtOffset_eq_iff inside binding.offset).mpr same⟩,
      Prefix.isValid_of_contains inside⟩
    rw [orders.statics.mem_arrange, mem_values_iff]
    exact ⟨id, found⟩

theorem reservedFor_eq_iff (inside : served.contains ip = true) :
    reservedFor served (listBindings statics orders) client = ip ↔
      ∃ binding,
        matchBinding (listBindings statics orders) client.mac client.clientID = some binding ∧
          served.masked.addr.toNat + binding.offset.toNat = ip.toNat := by
  unfold reservedFor
  cases matchBinding (listBindings statics orders) client.mac client.clientID with
  | none =>
      simp only [reduceCtorEq, false_and, exists_false, iff_false]
      intro same
      have valid := Prefix.isValid_of_contains inside
      rw [← same] at valid
      cases valid
  | some binding =>
      simp only [Option.some.injEq, exists_eq_left']
      exact addrAtOffset_eq_iff inside binding.offset

theorem keepable_iff_unclaimed {current : Lease} (inside : served.contains current.ip = true) :
    keepable served (staticIPs served (listBindings statics orders)) current = true ↔
      ∀ id binding, statics.lookup id = some binding →
        served.masked.addr.toNat + binding.offset.toNat ≠ current.ip.toNat := by
  unfold keepable
  rw [Prefix.contains_masked, inside, Bool.and_true, Bool.not_eq_true', ← Bool.not_eq_true,
    List.contains_iff_mem, mem_staticIPs_iff inside]
  simp only [not_exists, not_and, ne_eq]

theorem selectAddress_eq_iff (inside : served.contains ip = true) :
    (selectAddress cfg statics table orders now served client requested).1 = ip ↔
      Reserves statics table orders now served client ip ∨
        Keeps statics table orders now served client ip ∨
        PoolGives cfg statics table orders now served client requested ip := by
  have valid := Prefix.isValid_of_contains inside
  have due := selectAddress_eq_iff_due cfg statics table orders now served client requested ip
  rw [and_iff_left valid] at due
  rw [due]
  constructor
  · intro given
    cases given with
    | reserved reservation _ free =>
        exact .inl ⟨(reservedFor_eq_iff inside).mp reservation,
          (LeaseTable.inUse_eq_false_iff table now ip client.mac client.clientID).mp free⟩
    | kept current unreserved found keeps address =>
        subst address
        exact .inr (.inl ⟨unreserved, ⟨current, found, rfl⟩, (keepable_iff_unclaimed inside).mp keeps⟩)
    | pooled unreserved unkept pool => exact .inr (.inr ⟨unreserved, unkept, pool⟩)
  · rintro (reserves | keeps | gives)
    · exact .reserved ((reservedFor_eq_iff inside).mpr reserves.points) valid
        ((LeaseTable.inUse_eq_false_iff table now ip client.mac client.clientID).mpr reserves.free)
    · obtain ⟨current, found, address⟩ := keeps.shown
      subst address
      exact .kept current keeps.unreserved found ((keepable_iff_unclaimed inside).mpr keeps.unclaimed) rfl
    · exact .pooled gives.unreserved gives.unkept gives.pool

/-! ### What the pool cannot give -/

theorem PoolDue.between {reserved : List Addr}
    (pool : PoolDue cfg table now served reserved client requested ip) :
    served.masked.addr.toNat + cfg.poolOffsetStart.toNat ≤ ip.toNat ∧
      ip.toNat ≤ served.masked.addr.toNat + cfg.poolOffsetEnd.toNat ∧
      served.masked.addr.toNat + cfg.poolOffsetEnd.toNat <
        served.masked.addr.toNat + 2 ^ served.hostBits ∧
      ip ≠ served.addr := by
  have ends (startValid : (addrAtOffset served cfg.poolOffsetStart).isValid = true)
      (endValid : (addrAtOffset served cfg.poolOffsetEnd).isValid = true)
      (notAbove : (addrAtOffset served cfg.poolOffsetEnd).less ip = false)
      (notBelow : ip.less (addrAtOffset served cfg.poolOffsetStart) = false) :
      served.masked.addr.toNat + cfg.poolOffsetStart.toNat ≤ ip.toNat ∧
        ip.toNat ≤ served.masked.addr.toNat + cfg.poolOffsetEnd.toNat ∧
        served.masked.addr.toNat + cfg.poolOffsetEnd.toNat <
          served.masked.addr.toNat + 2 ^ served.hostBits := by
    have family := addrAtOffset_family served startValid endValid
    obtain ⟨_, above, below⟩ := (Addr.between_iff family).mp ⟨notAbove, notBelow⟩
    have last := ((contains_iff_offset served _).mp (addrAtOffset_contains endValid)).2.2
    rw [addrAtOffset_toNat startValid] at above
    rw [addrAtOffset_toNat endValid] at below last
    exact ⟨above, below, last⟩
  cases pool with
  | granted startValid endValid _ grants =>
      unfold grantable at grants
      simp only [Bool.and_eq_true, Bool.not_eq_true', bne_iff_ne] at grants
      obtain ⟨⟨⟨⟨notAbove, notBelow⟩, notGateway⟩, _⟩, _⟩ := grants
      obtain ⟨above, below, last⟩ := ends startValid endValid notAbove notBelow
      exact ⟨above, below, last, notGateway⟩
  | lowest startValid endValid _ least =>
      obtain ⟨above, below, last⟩ :=
        ends startValid endValid least.1.notAbove least.1.notBelow
      have notSkipped := least.1.notSkipped
      rw [Bool.or_eq_false_iff, beq_eq_false_iff_ne] at notSkipped
      exact ⟨above, below, last, notSkipped.1⟩

theorem PoolGives.ne_gateway
    (gives : PoolGives cfg statics table orders now served client requested ip) :
    ip ≠ served.addr :=
  gives.pool.between.2.2.2

theorem PoolGives.start_of_base
    (gives : PoolGives cfg statics table orders now served client requested served.masked.addr) :
    cfg.poolOffsetStart = 0 := by
  obtain ⟨above, _, _, _⟩ := gives.pool.between
  apply UInt64.toNat_inj.mp
  have zero : cfg.poolOffsetStart.toNat = 0 := by omega
  rw [zero]
  rfl

theorem PoolGives.end_of_broadcast
    (gives : PoolGives cfg statics table orders now served client requested
      (broadcastAddr served)) :
    cfg.poolOffsetEnd.toNat + 1 = 2 ^ served.hostBits := by
  have positive : 0 < 2 ^ served.hostBits := Nat.two_pow_pos _
  obtain ⟨_, below, last, _⟩ := gives.pool.between
  rw [toNat_broadcastAddr] at below
  omega

theorem Reserves.ne_base {statics : StaticSet}
    (reserves : Reserves statics.bindings table orders now served client ip) :
    ip ≠ served.masked.addr := by
  obtain ⟨binding, picks, points⟩ := reserves.points
  have listed := matchBinding_mem picks
  rw [listBindings, orders.statics.mem_arrange, mem_values_iff] at listed
  obtain ⟨id, found⟩ := listed
  have positive := ((StaticBinding.validate_eq_ok_iff binding).mp
    (statics.wellFormed id binding found).2.2).2
  intro same
  rw [same] at points
  apply positive
  apply UInt64.toNat_inj.mp
  have zero : binding.offset.toNat = 0 := by omega
  rw [zero]
  rfl

end Given

/-! ### When a special address is given away -/

/-- The states in which a selection returns a special address.  The selection is
not called while the server is disabled, which is the only configuration whose
pool can start at the base. -/
inductive Hazard (server : AddressServer) (orders : RangeOrders) (now : Int) (served : Prefix)
    (client : Applicant) (requested : Option Addr) : Prop
  | gatewayReserved
      (reserves : Reserves server.statics.bindings server.leases orders now served client
        served.addr)
  | gatewayKept
      (keeps : Keeps server.statics.bindings server.leases orders now served client served.addr)
  | baseKept
      (keeps : Keeps server.statics.bindings server.leases orders now served client
        served.masked.addr)
  | basePooled (disabled : server.cfg.enabled = false)
      (gives : PoolGives server.cfg server.statics.bindings server.leases orders now served client
        requested served.masked.addr)
  | broadcastReserved (v4 : served.addr.is4 = true) (hosts : served.bits ≤ 30)
      (reserves : Reserves server.statics.bindings server.leases orders now served client
        (broadcastAddr served))
  | broadcastKept (v4 : served.addr.is4 = true) (hosts : served.bits ≤ 30)
      (keeps : Keeps server.statics.bindings server.leases orders now served client
        (broadcastAddr served))
  | broadcastPooled (v4 : served.addr.is4 = true) (hosts : served.bits ≤ 30)
      (reaches : server.cfg.poolOffsetEnd.toNat + 1 = 2 ^ served.hostBits)
      (gives : PoolGives server.cfg server.statics.bindings server.leases orders now served client
        requested (broadcastAddr served))

theorem special_iff_hazard (server : AddressServer) (orders : RangeOrders) (now : Int)
    (served : Prefix) (client : Applicant) (requested : Option Addr) :
    Special served (selectAddress server.cfg server.statics.bindings server.leases orders now
        served client requested).1 ↔
      Hazard server orders now served client requested := by
  constructor
  · intro special
    cases special with
    | gateway own =>
        rcases (selectAddress_eq_iff (contains_gateway served)).mp own with
          reserves | keeps | gives
        · exact .gatewayReserved reserves
        · exact .gatewayKept keeps
        · exact absurd rfl gives.ne_gateway
    | base first =>
        rcases (selectAddress_eq_iff (contains_base served)).mp first with
          reserves | keeps | gives
        · exact absurd rfl reserves.ne_base
        · exact .baseKept keeps
        · apply Hazard.basePooled _ gives
          rw [← Bool.not_eq_true]
          intro enabled
          exact server.normalized.startPositive enabled gives.start_of_base
    | broadcast v4 hosts last =>
        rcases (selectAddress_eq_iff (contains_broadcastAddr served)).mp last with
          reserves | keeps | gives
        · exact .broadcastReserved v4 hosts reserves
        · exact .broadcastKept v4 hosts keeps
        · exact .broadcastPooled v4 hosts gives.end_of_broadcast gives
  · intro hazard
    cases hazard with
    | gatewayReserved reserves =>
        exact .gateway ((selectAddress_eq_iff (contains_gateway served)).mpr (.inl reserves))
    | gatewayKept keeps =>
        exact .gateway ((selectAddress_eq_iff (contains_gateway served)).mpr (.inr (.inl keeps)))
    | baseKept keeps =>
        exact .base ((selectAddress_eq_iff (contains_base served)).mpr (.inr (.inl keeps)))
    | basePooled _ gives =>
        exact .base ((selectAddress_eq_iff (contains_base served)).mpr (.inr (.inr gives)))
    | broadcastReserved v4 hosts reserves =>
        exact .broadcast v4 hosts
          ((selectAddress_eq_iff (contains_broadcastAddr served)).mpr (.inl reserves))
    | broadcastKept v4 hosts keeps =>
        exact .broadcast v4 hosts
          ((selectAddress_eq_iff (contains_broadcastAddr served)).mpr (.inr (.inl keeps)))
    | broadcastPooled v4 hosts _ gives =>
        exact .broadcast v4 hosts
          ((selectAddress_eq_iff (contains_broadcastAddr served)).mpr (.inr (.inr gives)))

/-- For every configuration, static set and table, and for every request, neither
selection returns a special address exactly if the state is no hazard. -/
theorem selected_not_special_iff (server : AddressServer) (orders : RangeOrders) (now : Int)
    (served : Prefix) :
    (∀ request : DHCPv4,
      ¬ Special served
          (selectIP server.cfg server.statics.bindings server.leases orders now served request).1 ↔
        ¬ Hazard server orders now served (applicant4 request) (requestedAddr request)) ∧
    (∀ client : Applicant,
      ¬ Special served
          (selectIP6 server.cfg server.statics.bindings server.leases orders now served client).1 ↔
        ¬ Hazard server orders now served client none) := by
  constructor
  · intro request
    exact not_congr (special_iff_hazard server orders now served (applicant4 request)
      (requestedAddr request))
  · intro client
    exact not_congr (special_iff_hazard server orders now served client none)

/-! ### Each kind of special address, given away -/

def bindingAtOffset (offset : UInt64) : AddressServer :=
  keepOnError sampleServer (sampleServer.putStatic { sampleBinding with offset := offset })

def fullPool : PoolConfig := { sampleConfig with poolOffsetEnd := 255 }

def baseLease : Lease where
  ip := .v4 0xc0a83200
  mac := "02:00:00:00:00:42"
  clientID := ""
  hostname := ""
  expiry := defaultLeaseTime
  static := false

/-- On 192.168.50.1/24 and fd50::1/64 a binding at offset 1 gives away the server's
own address.  On the former a binding at offset 255 gives away the broadcast
address, a pool up to 255 does so on request, and a restored lease on the base is
renewed.  All of these settings are accepted. -/
theorem special_addresses_given_away :
    (sampleServer.putStatic { sampleBinding with offset := 1 }).isOk = true ∧
    (sampleServer.putStatic { sampleBinding with offset := 255 }).isOk = true ∧
    DHCP4Config.normalize fullPool = .ok fullPool ∧
    Special samplePrefix4
      (selectIP (bindingAtOffset 1).cfg (bindingAtOffset 1).statics.bindings
        (bindingAtOffset 1).leases storedOrders 0 samplePrefix4
        (sampleRequest4 1 [2, 0, 0, 0, 0, 0x42] [0, 0, 0, 0] none)).1 ∧
    Special samplePrefix6
      (selectIP6 (bindingAtOffset 1).cfg (bindingAtOffset 1).statics.bindings
        (bindingAtOffset 1).leases storedOrders 0 samplePrefix6
        (sampleClient [2, 0, 0, 0, 0, 0x42])).1 ∧
    Special samplePrefix4
      (selectIP (bindingAtOffset 255).cfg (bindingAtOffset 255).statics.bindings
        (bindingAtOffset 255).leases storedOrders 0 samplePrefix4
        (sampleRequest4 1 [2, 0, 0, 0, 0, 0x42] [0, 0, 0, 0] none)).1 ∧
    Special samplePrefix4
      (selectIP fullPool ∅ LeaseTable.newLeaseTable storedOrders 0 samplePrefix4
        (sampleRequest4 1 [2, 0, 0, 0, 0, 0x42] [0, 0, 0, 0] (some [192, 168, 50, 255]))).1 ∧
    Special samplePrefix4
      (selectIP sampleConfig ∅ (LeaseTable.newLeaseTable.load [baseLease]) storedOrders 0
        samplePrefix4 (sampleRequest4 1 [2, 0, 0, 0, 0, 0x42] [0, 0, 0, 0] none)).1 := by
  refine ⟨by decide, by decide, by decide, ?_, ?_, ?_, ?_, ?_⟩
  · exact .gateway (by decide +kernel)
  · exact .gateway (by decide +kernel)
  · exact .broadcast rfl (by decide) (by decide +kernel)
  · exact .broadcast rfl (by decide) (by decide +kernel)
  · exact .base (by decide +kernel)

end BridgeDhcp.Server
