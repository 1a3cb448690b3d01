/-
The address that is due to a client, stated without the code's search.

A client with a usable reservation is due that address unless someone else holds it.
Any other client is due the address of the lease the table shows for it if it may keep
it, and otherwise one from the pool: the requested address if it may be granted, else
the least free one.
-/

import BridgeDhcp.Server.AddressSelection

set_option autoImplicit false

namespace BridgeDhcp.Server

open GoMap Netip

/-! ### The least free address of an interval -/

namespace LeaseTable

structure FreeWithin (table : LeaseTable) (now : Int) (start stop : Addr) (skip : Addr → Bool)
    (ip : Addr) : Prop where
  valid : ip.isValid = true
  notAbove : stop.less ip = false
  notBelow : ip.less start = false
  notSkipped : skip ip = false
  notOccupied : table.occupied now ip = false

def LeastFree (table : LeaseTable) (now : Int) (start stop : Addr) (skip : Addr → Bool)
    (ip : Addr) : Prop :=
  table.FreeWithin now start stop skip ip ∧
    ∀ other, table.FreeWithin now start stop skip other → other.less ip = false

section Least

variable {table : LeaseTable} {now : Int} {start stop : Addr} {skip : Addr → Bool}

theorem LeastFree.unique (family : start.bitLen = stop.bitLen) {first second : Addr}
    (left : table.LeastFree now start stop skip first)
    (right : table.LeastFree now start stop skip second) : first = second := by
  have leftFamily := ((Addr.between_iff family).mp ⟨left.1.notAbove, left.1.notBelow⟩).1
  have rightFamily := ((Addr.between_iff family).mp ⟨right.1.notAbove, right.1.notBelow⟩).1
  have notMore := left.2 second right.1
  have notLess := right.2 first left.1
  rw [← Bool.not_eq_true, Addr.less_iff] at notMore notLess
  apply Addr.eq_of_toNat (leftFamily.trans rightFamily.symm)
  omega

theorem allocate_complete (family : start.bitLen = stop.bitLen) (lease : Lease) {ip : Addr}
    (free : table.FreeWithin now start stop skip ip) :
    (table.allocate now start stop skip lease).1.isValid = true ∧
      ip.less (table.allocate now start stop skip lease).1 = false := by
  obtain ⟨sameFamily, above, _⟩ := (Addr.between_iff family).mp ⟨free.notAbove, free.notBelow⟩
  have enough : 2 ^ start.bitLen ≤ start.toNat + (2 ^ start.bitLen - start.toNat) := by omega
  obtain ⟨found, atMost⟩ := scan_complete table now stop skip _ start ip enough free.valid
    sameFamily above free.notAbove free.notSkipped free.notOccupied
  have foundFamily := (scan_sound table now stop skip _ start _ found rfl).1
  unfold allocate
  dsimp only
  rw [if_pos found]
  refine ⟨found, ?_⟩
  rw [← Bool.not_eq_true, Addr.less_iff]
  dsimp only
  omega

theorem allocate_leastFree (family : start.bitLen = stop.bitLen) {lease : Lease}
    (valid : (table.allocate now start stop skip lease).1.isValid = true) :
    table.LeastFree now start stop skip (table.allocate now start stop skip lease).1 := by
  obtain ⟨_, notAbove, notBelow, notSkipped, notOccupied⟩ := allocate_sound valid
  refine ⟨⟨valid, notAbove, notBelow, notSkipped, notOccupied⟩, ?_⟩
  intro other free
  exact (allocate_complete family lease free).2

theorem allocate_eq_iff_leastFree (family : start.bitLen = stop.bitLen) (lease : Lease)
    (ip : Addr) :
    ((table.allocate now start stop skip lease).1 = ip ∧ ip.isValid = true) ↔
      table.LeastFree now start stop skip ip := by
  constructor
  · intro returned
    obtain ⟨same, valid⟩ := returned
    subst same
    exact allocate_leastFree family valid
  · intro least
    have valid := (allocate_complete family lease least.1).1
    exact ⟨(allocate_leastFree family valid).unique family least, least.1.valid⟩

/-! ### The end of the scan -/

variable (table now stop skip) in
/-- What the loop of `allocate` has returned after at most so many turns, none if it
is still running. -/
def scanWithin : Nat → Addr → Option Addr
  | 0, _ => none
  | turns + 1, ip =>
      if ip.isValid && !stop.less ip then
        if skip ip then scanWithin turns ip.next
        else if table.occupied now ip then scanWithin turns ip.next
        else some ip
      else some .invalid

theorem scanWithin_invalid (turns : Nat) :
    scanWithin table now stop skip (turns + 1) .invalid = some .invalid := rfl

/-- The loop ends at the latest one turn after the last address of the family, whose
successor is invalid. -/
theorem scanWithin_eq_scan (fuel : Nat) (ip : Addr) (enough : 2 ^ ip.bitLen ≤ ip.toNat + fuel) :
    scanWithin table now stop skip (fuel + 1) ip = some (table.scan now stop skip fuel ip) := by
  induction fuel generalizing ip with
  | zero =>
      have bound := ip.toNat_lt
      omega
  | succ fuel ih =>
      have continues : scanWithin table now stop skip (fuel + 1) ip.next =
          some (table.scan now stop skip fuel ip.next) := by
        cases successor : ip.next.isValid with
        | true =>
            obtain ⟨family, number⟩ := ip.next_of_isValid successor
            apply ih
            rw [family, number]
            omega
        | false =>
            have last : ip.next = .invalid := by
              by_contra other
              rw [(Addr.isValid_iff_ne _).mpr other] at successor
              cases successor
            rw [last, scanWithin_invalid, scan_invalid]
      unfold scanWithin scan
      split
      · split
        · exact continues
        · split
          · exact continues
          · rfl
      · rfl

theorem allocate_fst (lease : Lease) :
    (table.allocate now start stop skip lease).1 =
      table.scan now stop skip (2 ^ start.bitLen - start.toNat) start := by
  unfold allocate
  dsimp only
  split
  · rfl
  · next failed =>
      by_contra other
      exact failed ((Addr.isValid_iff_ne _).mpr (Ne.symm other))

theorem occupied_iff (ip : Addr) :
    table.occupied now ip = true ↔
      ∃ current, table.entry ip = some current ∧ current.expired now = false := by
  unfold occupied
  cases table.entry ip with
  | none => simp
  | some current => simp

theorem allocate_eq_invalid_iff (family : start.bitLen = stop.bitLen) (lease : Lease) :
    (table.allocate now start stop skip lease).1 = .invalid ↔
      ∀ ip, ¬ table.FreeWithin now start stop skip ip := by
  constructor
  · intro failed ip free
    have valid := (allocate_complete family lease free).1
    rw [failed] at valid
    cases valid
  · intro none
    by_contra other
    have valid := (Addr.isValid_iff_ne _).mpr other
    exact none _ (allocate_leastFree family valid).1

/-- For every table, clock, predicate and interval of one family, the scan ends.  It
returns the least free address and stores the lease there and nowhere else; it
returns the invalid address and changes nothing exactly if no address of the interval
is free. -/
theorem allocate_lowest_free (table : LeaseTable) (now : Int) (start stop : Addr)
    (skip : Addr → Bool) (lease : Lease) (family : start.bitLen = stop.bitLen) :
    (∃ turns, scanWithin table now stop skip turns start =
      some (table.allocate now start stop skip lease).1) ∧
    ((table.allocate now start stop skip lease).1.isValid = true →
      table.LeastFree now start stop skip (table.allocate now start stop skip lease).1 ∧
      ∀ ip, (table.allocate now start stop skip lease).2.entry ip =
        if ip = (table.allocate now start stop skip lease).1 then
          some { lease with ip := (table.allocate now start stop skip lease).1 }
        else table.entry ip) ∧
    ((table.allocate now start stop skip lease).1 = .invalid ↔
      ∀ ip, ip.isValid = true → stop.less ip = false → ip.less start = false →
        skip ip = true ∨
          ∃ current, table.entry ip = some current ∧ current.expired now = false) ∧
    ((table.allocate now start stop skip lease).1 = .invalid →
      (table.allocate now start stop skip lease).2 = table) := by
  refine ⟨?_, ?_, ?_, ?_⟩
  · refine ⟨2 ^ start.bitLen - start.toNat + 1, ?_⟩
    rw [allocate_fst]
    exact scanWithin_eq_scan _ start (by omega)
  · intro valid
    refine ⟨allocate_leastFree family valid, ?_⟩
    intro ip
    rw [(allocate_sound valid).1]
    exact entry_set table _ ip
  · rw [allocate_eq_invalid_iff family lease]
    constructor
    · intro none ip valid notAbove notBelow
      rw [← occupied_iff]
      by_contra free
      rw [not_or, Bool.not_eq_true, Bool.not_eq_true] at free
      exact none ip ⟨valid, notAbove, notBelow, free.1, free.2⟩
    · intro all ip free
      have either := all ip free.valid free.notAbove free.notBelow
      rw [← occupied_iff, free.notSkipped, free.notOccupied] at either
      rcases either with impossible | impossible
      · cases impossible
      · cases impossible
  · intro failed
    have changed := @allocate_failed table now start stop skip lease (by rw [failed]; rfl)
    rw [changed]

/-- The last address of the family is found although it has no successor. -/
theorem allocate_lowest_free_last :
    (Addr.v4 0xfffffff0).bitLen = (Addr.v4 0xffffffff).bitLen ∧
    (newLeaseTable.allocate 0 (.v4 0xfffffff0) (.v4 0xffffffff) (fun ip => ip != .v4 0xffffffff)
      ⟨.invalid, "", "", "", 0, false⟩).1 = .v4 0xffffffff ∧
    newLeaseTable.LeastFree 0 (.v4 0xfffffff0) (.v4 0xffffffff) (fun ip => ip != .v4 0xffffffff)
      (newLeaseTable.allocate 0 (.v4 0xfffffff0) (.v4 0xffffffff)
        (fun ip => ip != .v4 0xffffffff) ⟨.invalid, "", "", "", 0, false⟩).1 := by
  refine ⟨rfl, by decide +kernel, ?_⟩
  exact ((allocate_lowest_free newLeaseTable 0 (.v4 0xfffffff0) (.v4 0xffffffff)
    (fun ip => ip != .v4 0xffffffff) ⟨.invalid, "", "", "", 0, false⟩ rfl).2.1
    (by decide +kernel)).1

end Least

end LeaseTable

/-! ### What is due -/

inductive PoolDue (cfg : PoolConfig) (table : LeaseTable) (now : Int) (served : Prefix)
    (reserved : List Addr) (client : Applicant) (requested : Option Addr) (ip : Addr) : Prop
  | granted
      (startValid : (addrAtOffset served cfg.poolOffsetStart).isValid = true)
      (endValid : (addrAtOffset served cfg.poolOffsetEnd).isValid = true)
      (asked : requested = some ip)
      (grants : grantable table now served reserved client
        (addrAtOffset served cfg.poolOffsetStart) (addrAtOffset served cfg.poolOffsetEnd) ip =
          true)
  | lowest
      (startValid : (addrAtOffset served cfg.poolOffsetStart).isValid = true)
      (endValid : (addrAtOffset served cfg.poolOffsetEnd).isValid = true)
      (declined : ∀ asked, requested = some asked →
        grantable table now served reserved client
          (addrAtOffset served cfg.poolOffsetStart) (addrAtOffset served cfg.poolOffsetEnd)
            asked = false)
      (least : table.LeastFree now (addrAtOffset served cfg.poolOffsetStart)
        (addrAtOffset served cfg.poolOffsetEnd)
        (fun addr => addr == served.addr || reserved.contains addr) ip)

inductive Due (cfg : PoolConfig) (statics : Map String StaticBinding) (table : LeaseTable)
    (orders : RangeOrders) (now : Int) (served : Prefix) (client : Applicant)
    (requested : Option Addr) (ip : Addr) : Prop
  | reserved
      (reservation : reservedFor served (listBindings statics orders) client = ip)
      (valid : ip.isValid = true)
      (free : table.inUse now ip client.mac client.clientID = false)
  | kept (current : Lease)
      (unreserved : (reservedFor served (listBindings statics orders) client).isValid = false)
      (found : table.byClient orders.leases now client.mac client.clientID = some current)
      (keeps : keepable served (staticIPs served (listBindings statics orders)) current = true)
      (address : current.ip = ip)
  | pooled
      (unreserved : (reservedFor served (listBindings statics orders) client).isValid = false)
      (unkept : ∀ current,
        table.byClient orders.leases now client.mac client.clientID = some current →
        keepable served (staticIPs served (listBindings statics orders)) current = false)
      (pool : PoolDue cfg table now served (staticIPs served (listBindings statics orders))
        client requested ip)

/-! ### The selection returns what is due -/

section Selected

variable (cfg : PoolConfig) (statics : Map String StaticBinding) (table : LeaseTable)
  (orders : RangeOrders) (now : Int) (served : Prefix) (reserved : List Addr)
  (client : Applicant) (requested : Option Addr) (ip : Addr)

theorem addrAtOffset_family {first second : UInt64}
    (firstValid : (addrAtOffset served first).isValid = true)
    (secondValid : (addrAtOffset served second).isValid = true) :
    (addrAtOffset served first).bitLen = (addrAtOffset served second).bitLen := by
  have firstFamily := ((served.contains_iff _).mp (addrAtOffset_contains firstValid)).1
  have secondFamily := ((served.contains_iff _).mp (addrAtOffset_contains secondValid)).1
  exact firstFamily.trans secondFamily.symm

theorem grantable_isValid {table : LeaseTable} {now : Int} {served : Prefix}
    {reserved : List Addr} {client : Applicant} {first last : UInt64} {ip : Addr}
    (startValid : (addrAtOffset served first).isValid = true)
    (endValid : (addrAtOffset served last).isValid = true)
    (grants : grantable table now served reserved client (addrAtOffset served first)
      (addrAtOffset served last) ip = true) : ip.isValid = true := by
  unfold grantable at grants
  simp only [Bool.and_eq_true, Bool.not_eq_true'] at grants
  obtain ⟨⟨⟨⟨notAbove, notBelow⟩, _⟩, _⟩, _⟩ := grants
  exact Prefix.isValid_of_contains (served.contains_of_between (addrAtOffset_contains startValid)
    (addrAtOffset_contains endValid) notAbove notBelow)

theorem selectFromPool_eq_iff_due :
    ((selectFromPool cfg table now served reserved client requested).1 = ip ∧
        ip.isValid = true) ↔
      PoolDue cfg table now served reserved client requested ip := by
  by_cases resolves : (addrAtOffset served cfg.poolOffsetStart).isValid = true ∧
      (addrAtOffset served cfg.poolOffsetEnd).isValid = true
  · obtain ⟨startValid, endValid⟩ := resolves
    have scans : ((table.allocate now (addrAtOffset served cfg.poolOffsetStart)
          (addrAtOffset served cfg.poolOffsetEnd)
          (fun addr => addr == served.addr || reserved.contains addr)
          (draftLease cfg now client)).1 = ip ∧ ip.isValid = true) ↔ _ :=
      LeaseTable.allocate_eq_iff_leastFree (addrAtOffset_family served startValid endValid)
        (draftLease cfg now client) ip
    unfold selectFromPool
    dsimp only
    rw [startValid, endValid]
    simp only [Bool.not_true, Bool.or_self, Bool.false_eq_true, if_false]
    cases requested with
    | none =>
        dsimp only
        rw [scans]
        constructor
        · intro least
          exact .lowest startValid endValid (by intro asked impossible; cases impossible) least
        · intro due
          cases due with
          | granted _ _ asked _ => cases asked
          | lowest _ _ _ least => exact least
    | some asked =>
        dsimp only
        cases grants : grantable table now served reserved client
            (addrAtOffset served cfg.poolOffsetStart) (addrAtOffset served cfg.poolOffsetEnd)
            asked with
        | true =>
            rw [if_pos rfl]
            dsimp only
            constructor
            · intro returned
              obtain ⟨same, _⟩ := returned
              subst same
              exact .granted startValid endValid rfl grants
            · intro due
              cases due with
              | granted _ _ same _ =>
                  cases same
                  exact ⟨rfl, grantable_isValid startValid endValid grants⟩
              | lowest _ _ declined _ =>
                  have refused := declined asked rfl
                  rw [grants] at refused
                  cases refused
        | false =>
            rw [if_neg Bool.false_ne_true, scans]
            constructor
            · intro least
              apply PoolDue.lowest startValid endValid _ least
              intro other same
              cases same
              exact grants
            · intro due
              cases due with
              | granted _ _ same granted =>
                  cases same
                  rw [grants] at granted
                  cases granted
              | lowest _ _ _ least => exact least
  · constructor
    · intro returned
      exfalso
      obtain ⟨same, valid⟩ := returned
      have refused : selectFromPool cfg table now served reserved client requested =
          (.invalid, table) := by
        unfold selectFromPool
        dsimp only
        rw [if_pos]
        rw [Bool.or_eq_true, Bool.not_eq_true', Bool.not_eq_true']
        by_cases startValid : (addrAtOffset served cfg.poolOffsetStart).isValid = true
        · exact Or.inr (Bool.eq_false_iff.mpr (fun endValid => resolves ⟨startValid, endValid⟩))
        · exact Or.inl (Bool.eq_false_iff.mpr startValid)
      rw [refused] at same
      subst same
      cases valid
    · intro due
      cases due with
      | granted startValid endValid _ _ => exact absurd ⟨startValid, endValid⟩ resolves
      | lowest startValid endValid _ _ => exact absurd ⟨startValid, endValid⟩ resolves

theorem selectDynamic_eq_of_kept {current : Lease}
    (found : table.byClient orders.leases now client.mac client.clientID = some current)
    (keeps : keepable served reserved current = true) :
    selectDynamic cfg table orders now served reserved client requested =
      (current.ip, table.set { draftLease cfg now client with ip := current.ip }) := by
  unfold selectDynamic
  rw [found]
  dsimp only
  rw [if_pos keeps]

theorem selectDynamic_eq_of_unkept
    (unkept : ∀ current,
      table.byClient orders.leases now client.mac client.clientID = some current →
      keepable served reserved current = false) :
    selectDynamic cfg table orders now served reserved client requested =
      selectFromPool cfg table now served reserved client requested := by
  unfold selectDynamic
  cases found : table.byClient orders.leases now client.mac client.clientID with
  | none => rfl
  | some current =>
      dsimp only
      rw [unkept current found]
      rfl

theorem selectAddress_eq_iff_due :
    ((selectAddress cfg statics table orders now served client requested).1 = ip ∧
        ip.isValid = true) ↔
      Due cfg statics table orders now served client requested ip := by
  constructor
  · intro returned
    obtain ⟨same, valid⟩ := returned
    have stages := selectAddress_selection cfg statics table orders now served client requested
    generalize selectAddress cfg statics table orders now served client requested = result
      at stages same
    subst same
    cases stages with
    | taken _ _ _ _ => cases valid
    | reserved _ reservation _ free => exact .reserved reservation valid free
    | renewed current unreserved found keeps => exact .kept current unreserved found keeps rfl
    | pooled _ unreserved unkept pool =>
        subst pool
        apply Due.pooled unreserved unkept
        rw [← selectFromPool_eq_iff_due]
        exact ⟨rfl, valid⟩
  · intro due
    rw [selectAddress_eq]
    cases due with
    | reserved reservation valid free =>
        rw [reservation, if_pos valid, if_neg (Bool.eq_false_iff.mp free)]
        exact ⟨rfl, valid⟩
    | kept current unreserved found keeps address =>
        rw [if_neg (Bool.eq_false_iff.mp unreserved), selectDynamic_eq_of_kept _ _ _ _ _ _ _ _
          found keeps]
        have booking : Booking cfg table now served client current.ip _ :=
          (renewed_booking found keeps).1
        exact ⟨address, address ▸ booking.valid⟩
    | pooled unreserved unkept pool =>
        rw [if_neg (Bool.eq_false_iff.mp unreserved), selectDynamic_eq_of_unkept _ _ _ _ _ _ _ _
          unkept, selectFromPool_eq_iff_due]
        exact pool

def leaseFor (ip : Addr) : Lease :=
  { draftLease cfg now client with
    ip := ip
    static := (reservedFor served (listBindings statics orders) client).isValid }

theorem Due.outcome {cfg : PoolConfig} {statics : Map String StaticBinding} {table : LeaseTable}
    {orders : RangeOrders} {now : Int} {served : Prefix} {client : Applicant}
    {requested : Option Addr} {ip : Addr}
    (due : Due cfg statics table orders now served client requested ip) :
    selectAddress cfg statics table orders now served client requested =
      (ip, table.set (leaseFor cfg statics orders now served client ip)) := by
  obtain ⟨returned, valid⟩ :=
    (selectAddress_eq_iff_due cfg statics table orders now served client requested ip).mpr due
  have stages := selectAddress_selection cfg statics table orders now served client requested
  generalize selectAddress cfg statics table orders now served client requested = result
    at stages returned
  subst returned
  unfold leaseFor
  cases stages with
  | taken _ _ _ _ => cases valid
  | reserved _ reservation valid _ => rw [reservation, valid]
  | renewed _ unreserved _ _ => rw [unreserved]; rfl
  | pooled _ unreserved _ pool =>
      rw [unreserved]
      rcases selectFromPool_cases cfg table now served
          (staticIPs served (listBindings statics orders)) client requested with
        refused | ⟨ip, booked, _⟩
      · rw [pool] at refused
        rw [refused] at valid
        cases valid
      · rw [pool] at booked
        rw [booked]
        rfl

end Selected

end BridgeDhcp.Server
