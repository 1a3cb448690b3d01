/-
Soundness of address selection in both servers.

Whatever stage a selection ends in, the address it returns is inside the served
prefix, in nobody else's use and not set aside for anybody else, and it is the
only table entry the selection touches.
-/

import BridgeDhcp.Server.Dhcp4Server
import BridgeDhcp.Server.Dhcp6Server

set_option autoImplicit false

namespace BridgeDhcp.Server

open GoMap Netip

structure SoundSelection (cfg : PoolConfig) (statics : Map String StaticBinding)
    (table : LeaseTable) (orders : RangeOrders) (now : Int) (served : Prefix)
    (client : Applicant) (result : Addr × LeaseTable) : Prop where
  /-- The address lies inside the served prefix. -/
  inside : result.1.isValid = true → served.masked.contains result.1 = true
  /-- Before the call no other client had an unexpired lease on it. -/
  exclusive : result.1.isValid = true → ∀ lease, table.entry result.1 = some lease →
    lease.expired now = false → lease.key = client.key
  /-- A reserved address goes only to the client whose best binding resolves to it. -/
  reservation : result.1.isValid = true → ∀ id binding, statics.lookup id = some binding →
    addrAtOffset served binding.offset = result.1 →
    ∃ picked, matchBinding (listBindings statics orders) client.mac client.clientID = some picked ∧
      addrAtOffset served picked.offset = result.1
  /-- Afterwards the entry is the client's and lasts one lease time. -/
  booked : result.1.isValid = true → ∃ lease, result.2.entry result.1 = some lease ∧
    lease.mac = client.mac ∧ lease.clientID = client.clientID ∧
    lease.expiry = now + cfg.leaseTime
  /-- No other entry changes. -/
  others : result.1.isValid = true → ∀ ip, ip ≠ result.1 → result.2.entry ip = table.entry ip
  /-- Without an address nothing changes. -/
  refused : result.1.isValid = false → result.2 = table

section Reservations

variable {statics : Map String StaticBinding} {orders : RangeOrders} {served : Prefix}
  {client : Applicant} {ip : Addr}

theorem mem_staticIPs_of_lookup {id : String} {binding : StaticBinding}
    (stored : statics.lookup id = some binding)
    (resolves : addrAtOffset served binding.offset = ip) (valid : ip.isValid = true) :
    ip ∈ staticIPs served (listBindings statics orders) := by
  unfold staticIPs listBindings
  rw [List.mem_filter, List.mem_map]
  refine ⟨⟨binding, ?_, resolves⟩, valid⟩
  rw [RangeOrder.mem_arrange, mem_values_iff]
  exact ⟨id, stored⟩

theorem picked_of_reservedFor (valid : ip.isValid = true)
    (reservation : reservedFor served (listBindings statics orders) client = ip) :
    ∃ picked, matchBinding (listBindings statics orders) client.mac client.clientID = some picked ∧
      addrAtOffset served picked.offset = ip := by
  unfold reservedFor at reservation
  split at reservation
  · rw [← reservation] at valid
    cases valid
  · rename_i picked found
    exact ⟨picked, found, reservation⟩

end Reservations

theorem selectAddress_sound (cfg : PoolConfig) (statics : Map String StaticBinding)
    (table : LeaseTable) (orders : RangeOrders) (now : Int) (served : Prefix)
    (client : Applicant) (requested : Option Addr) :
    SoundSelection cfg statics table orders now served client
      (selectAddress cfg statics table orders now served client requested) := by
  rcases selectAddress_cases cfg statics table orders now served client requested with
    refused | ⟨ip, lease, outcome, booking, origin⟩
  · rw [refused]
    constructor
    case refused => intro _; rfl
    all_goals
      intro impossible
      cases impossible
  · rw [outcome]
    constructor
    case inside =>
      intro _
      rw [Prefix.contains_masked]
      exact booking.inside
    case exclusive =>
      intro _ held found active
      exact (LeaseTable.inUse_eq_false_iff table now ip client.mac client.clientID).mp
        booking.free held found active
    case reservation =>
      intro valid id binding stored resolves
      rcases origin with reservation | notReserved
      · exact picked_of_reservedFor valid reservation
      · have member : ip ∈ staticIPs served (listBindings statics orders) :=
          mem_staticIPs_of_lookup stored resolves valid
        rw [← List.contains_iff_mem, notReserved] at member
        cases member
    case booked =>
      intro _
      refine ⟨lease, ?_, booking.mac, booking.clientID, booking.expiry⟩
      rw [← booking.address]
      exact table.entry_set_self lease
    case others =>
      intro _ other different
      apply table.entry_set_ne
      rw [booking.address]
      exact different
    case refused =>
      intro invalid
      rw [booking.valid] at invalid
      cases invalid

/-- Both servers select soundly, from every table, static set and configuration,
under every iteration order. -/
theorem selectIP_selectIP6_sound (cfg : PoolConfig) (statics : Map String StaticBinding)
    (table : LeaseTable) (orders : RangeOrders) (now : Int) (served : Prefix) :
    (∀ request : DHCPv4,
      SoundSelection cfg statics table orders now served (applicant4 request)
        (selectIP cfg statics table orders now served request)) ∧
    (∀ client : Applicant,
      SoundSelection cfg statics table orders now served client
        (selectIP6 cfg statics table orders now served client)) := by
  constructor
  · intro request
    exact selectAddress_sound cfg statics table orders now served _ _
  · intro client
    exact selectAddress_sound cfg statics table orders now served _ _

end BridgeDhcp.Server
