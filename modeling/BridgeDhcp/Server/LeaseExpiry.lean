/-
Expired leases cannot be observed.

An expired entry stays in the table until a sweep drops it, and a restart drops it by
saving only active leases.
-/

import BridgeDhcp.Server.LeaseTable

set_option autoImplicit false

namespace BridgeDhcp.Server

open GoMap Netip

namespace LeaseTable

/-! ### Snapshots -/

theorem mem_snapshot_iff (table : LeaseTable) (order : RangeOrder Lease) (now : Int)
    (lease : Lease) :
    lease ∈ table.snapshot order now ↔
      table.entry lease.ip = some lease ∧ lease.expired now = false := by
  unfold snapshot
  rw [(List.perm_insertionSort Sorted _).mem_iff, List.mem_filter, order.mem_arrange,
    mem_values_iff, Bool.not_eq_true']
  constructor
  · rintro ⟨⟨ip, found⟩, active⟩
    have own : lease.ip = ip := table.keyed ip lease found
    rw [own]
    exact ⟨found, active⟩
  · rintro ⟨found, active⟩
    exact ⟨⟨lease.ip, found⟩, active⟩

theorem nodup_values (table : LeaseTable) : (values table.leases).Nodup := by
  apply List.Nodup.map_on
  · intro left leftListed right rightListed same
    have leftKey : left.2.ip = left.1 := table.keyed _ _ (AList.mem_lookup_iff.mpr leftListed)
    have rightKey : right.2.ip = right.1 := table.keyed _ _ (AList.mem_lookup_iff.mpr rightListed)
    have keys : left.1 = right.1 := by rw [← leftKey, ← rightKey, same]
    cases left
    cases right
    cases keys
    cases same
    rfl
  · exact table.leases.nodupKeys.nodup

theorem nodup_snapshot (table : LeaseTable) (order : RangeOrder Lease) (now : Int) :
    (table.snapshot order now).Nodup := by
  unfold snapshot
  rw [(List.perm_insertionSort Sorted _).nodup_iff]
  exact ((order.visits _).nodup_iff.mpr table.nodup_values).filter _

instance total_sorted : Std.Total Sorted where
  total left right := by
    unfold Sorted
    rcases Bool.eq_false_or_eq_true (right.ip.less left.ip) with before | notBefore
    · refine .inr ?_
      rw [Addr.less_iff] at before
      apply Bool.eq_false_iff.mpr
      intro after
      rw [Addr.less_iff] at after
      omega
    · exact .inl notBefore

instance trans_sorted : IsTrans Lease Sorted where
  trans first second third := by
    unfold Sorted
    intro early late
    apply Bool.eq_false_iff.mpr
    intro before
    have early := Bool.eq_false_iff.mp early
    have late := Bool.eq_false_iff.mp late
    rw [ne_eq, Addr.less_iff] at early late
    rw [Addr.less_iff] at before
    omega

theorem ip_eq_of_sorted {left right : Lease} (before : Sorted left right)
    (after : Sorted right left) : left.ip = right.ip := by
  have before := Bool.eq_false_iff.mp before
  have after := Bool.eq_false_iff.mp after
  rw [ne_eq, Addr.less_iff] at before after
  exact Addr.eq_of_toNat (by omega) (by omega)

/-! ### Tables that agree on what is active -/

def AgreeAt (instant : Int) (left right : LeaseTable) : Prop :=
  ∀ ip lease, lease.expired instant = false →
    (left.entry ip = some lease ↔ right.entry ip = some lease)

theorem AgreeAt.symm {instant : Int} {left right : LeaseTable} (agree : AgreeAt instant left right) :
    AgreeAt instant right left :=
  fun ip lease active => (agree ip lease active).symm

theorem AgreeAt.later {instant now : Int} {left right : LeaseTable}
    (agree : AgreeAt instant left right) (later : instant ≤ now) : AgreeAt now left right := by
  intro ip lease active
  apply agree
  rw [Lease.expired_eq_false_iff] at active ⊢
  exact Int.le_trans later active

theorem agreeAt_expireSweep (table : LeaseTable) (instant : Int) :
    AgreeAt instant table (table.expireSweep instant) := by
  intro ip lease active
  constructor
  · intro found
    exact entry_expireSweep_of_active found active
  · intro found
    exact (entry_of_expireSweep found).1

def loadOne (loaded : LeaseTable) (lease : Lease) : LeaseTable :=
  if lease.ip.isValid then loaded.assign lease else loaded

theorem entry_loadOne (loaded : LeaseTable) (lease : Lease) {ip : Addr} (valid : ip.isValid = true) :
    (loadOne loaded lease).entry ip = if ip = lease.ip then some lease else loaded.entry ip := by
  unfold loadOne
  split
  · exact lookup_insert_cases loaded.leases lease.ip ip lease
  · next invalid =>
    have other : ip ≠ lease.ip := fun same => invalid (same ▸ valid)
    rw [if_neg other]

theorem entry_loadOne_invalid (loaded : LeaseTable) (lease : Lease) {ip : Addr}
    (invalid : ip.isValid = false) : (loadOne loaded lease).entry ip = loaded.entry ip := by
  unfold loadOne
  split
  · next valid =>
    have other : ip ≠ lease.ip := by
      intro same
      rw [same, valid] at invalid
      cases invalid
    exact (lookup_insert_cases loaded.leases lease.ip ip lease).trans (if_neg other)
  · rfl

theorem entry_foldl_loadOne (restored : List Lease) (loaded : LeaseTable) {ip : Addr}
    (valid : ip.isValid = true) :
    (restored.foldl loadOne loaded).entry ip =
      ((restored.filter (fun lease => lease.ip = ip)).getLast?).or (loaded.entry ip) := by
  induction restored generalizing loaded with
  | nil => simp
  | cons lease rest ih =>
      rw [List.foldl_cons, ih, entry_loadOne loaded lease valid]
      by_cases here : ip = lease.ip
      · subst here
        simp [List.getLast?_cons]
      · simp [here, Ne.symm here]

theorem entry_foldl_loadOne_invalid (restored : List Lease) (loaded : LeaseTable) {ip : Addr}
    (invalid : ip.isValid = false) :
    (restored.foldl loadOne loaded).entry ip = loaded.entry ip := by
  induction restored generalizing loaded with
  | nil => rfl
  | cons lease rest ih => rw [List.foldl_cons, ih, entry_loadOne_invalid loaded lease invalid]

def ValidKeys (table : LeaseTable) : Prop :=
  ∀ ip lease, table.entry ip = some lease → ip.isValid = true

theorem agreeAt_load_snapshot {table : LeaseTable} (valid : table.ValidKeys) (other : LeaseTable)
    (order : RangeOrder Lease) (instant : Int) :
    AgreeAt instant table (other.load (table.snapshot order instant)) := by
  intro ip lease active
  change _ ↔ ((table.snapshot order instant).foldl loadOne _).entry ip = some lease
  cases validity : ip.isValid with
  | false =>
      rw [entry_foldl_loadOne_invalid _ _ validity]
      constructor
      · intro found
        rw [valid ip lease found] at validity
        cases validity
      · intro found
        cases found
  | true =>
      rw [entry_foldl_loadOne _ _ validity]
      change _ ↔ (List.getLast? _).or none = some lease
      rw [Option.or_none]
      -- the snapshot has no other lease at this address
      have only : ∀ found ∈ (table.snapshot order instant).filter (fun held => held.ip = ip),
          table.entry ip = some found := by
        intro found listed
        rcases List.mem_filter.mp listed with ⟨saved, here⟩
        have own : found.ip = ip := of_decide_eq_true here
        rw [← own]
        exact ((mem_snapshot_iff table order instant found).mp saved).1
      constructor
      · intro found
        have own : lease.ip = ip := table.keyed ip lease found
        have saved : lease ∈ (table.snapshot order instant).filter (fun held => held.ip = ip) := by
          rw [List.mem_filter, mem_snapshot_iff, own]
          exact ⟨⟨found, active⟩, decide_eq_true rfl⟩
        have nonempty := List.ne_nil_of_mem saved
        have last := only _ (List.getLast_mem nonempty)
        rw [found] at last
        rw [List.getLast?_eq_some_getLast nonempty]
        exact last.symm
      · intro last
        exact only lease (List.mem_of_getLast? last)

/-! ### Calls and their answers -/

inductive Call where
  | byClient (mac clientID : String)
  | inUse (ip : Addr) (mac clientID : String)
  | set (lease : Lease)
  | allocate (start stop : Addr) (skip : Addr → Bool) (lease : Lease)
  | snapshot

inductive Answer where
  | lease (found : Option Lease)
  | used (flag : Bool)
  | stored
  | booked (ip : Addr)
  | listed (leases : List Lease)
  deriving DecidableEq, Repr

/-- What a call at an instant answers and leaves, under one iteration order. -/
def answer (table : LeaseTable) (order : RangeOrder Lease) (now : Int) : Call → Answer × LeaseTable
  | .byClient mac clientID => (.lease (table.byClient order now mac clientID), table)
  | .inUse ip mac clientID => (.used (table.inUse now ip mac clientID), table)
  | .set lease => (.stored, table.set lease)
  | .allocate start stop skip lease =>
      let booked := table.allocate now start stop skip lease
      (.booked booked.1, booked.2)
  | .snapshot => (.listed (table.snapshot order now), table)

/-- The answers a sequence of calls can give, whatever the iteration orders. -/
inductive Possible : LeaseTable → List (Int × Call) → List Answer → Prop where
  | done (table : LeaseTable) : Possible table [] []
  | call {table : LeaseTable} {now : Int} {call : Call} {rest : List (Int × Call)}
      {answers : List Answer} (order : RangeOrder Lease)
      (next : Possible (table.answer order now call).2 rest answers) :
      Possible table ((now, call) :: rest) ((table.answer order now call).1 :: answers)

section Agreement

variable {now : Int} {left right : LeaseTable}

theorem AgreeAt.occupied (agree : AgreeAt now left right) (ip : Addr) :
    left.occupied now ip = right.occupied now ip := by
  have transfer : ∀ {first second : LeaseTable}, AgreeAt now first second →
      first.occupied now ip = true → second.occupied now ip = true := by
    intro first second same busy
    unfold LeaseTable.occupied at busy ⊢
    cases found : first.entry ip with
    | none =>
        rw [found] at busy
        cases busy
    | some lease =>
        rw [found] at busy
        have active : lease.expired now = false := by simpa using busy
        rw [(same ip lease active).mp found]
        exact busy
  exact Bool.eq_iff_iff.mpr ⟨transfer agree, transfer agree.symm⟩

theorem AgreeAt.inUse (agree : AgreeAt now left right) (ip : Addr) (mac clientID : String) :
    left.inUse now ip mac clientID = right.inUse now ip mac clientID := by
  have transfer : ∀ {first second : LeaseTable}, AgreeAt now first second →
      first.inUse now ip mac clientID = true → second.inUse now ip mac clientID = true := by
    intro first second same busy
    unfold LeaseTable.inUse at busy ⊢
    cases found : first.entry ip with
    | none =>
        rw [found] at busy
        cases busy
    | some lease =>
        rw [found] at busy
        cases expiry : lease.expired now with
        | true => simp [expiry] at busy
        | false =>
            rw [(same ip lease expiry).mp found]
            exact busy
  exact Bool.eq_iff_iff.mpr ⟨transfer agree, transfer agree.symm⟩

theorem AgreeAt.scan (agree : AgreeAt now left right) (stop : Addr) (skip : Addr → Bool)
    (fuel : Nat) (ip : Addr) :
    left.scan now stop skip fuel ip = right.scan now stop skip fuel ip := by
  induction fuel generalizing ip with
  | zero => rfl
  | succ fuel ih =>
      unfold LeaseTable.scan
      rw [agree.occupied ip, ih ip.next]

theorem AgreeAt.snapshot (agree : AgreeAt now left right) (leftOrder rightOrder : RangeOrder Lease) :
    left.snapshot leftOrder now = right.snapshot rightOrder now := by
  have same : (left.snapshot leftOrder now).Perm (right.snapshot rightOrder now) := by
    rw [List.perm_ext_iff_of_nodup (nodup_snapshot left leftOrder now)
      (nodup_snapshot right rightOrder now)]
    intro lease
    rw [mem_snapshot_iff, mem_snapshot_iff]
    constructor
    · rintro ⟨found, active⟩
      exact ⟨(agree lease.ip lease active).mp found, active⟩
    · rintro ⟨found, active⟩
      exact ⟨(agree lease.ip lease active).mpr found, active⟩
  refine same.eq_of_pairwise ?_ (List.pairwise_insertionSort Sorted _)
    (List.pairwise_insertionSort Sorted _)
  intro first second firstListed secondListed before after
  have ips := ip_eq_of_sorted before after
  have firstFound := ((mem_snapshot_iff _ _ _ _).mp (same.mem_iff.mp firstListed)).1
  have secondFound := ((mem_snapshot_iff _ _ _ _).mp secondListed).1
  rw [ips, secondFound] at firstFound
  exact (Option.some.inj firstFound).symm

theorem AgreeAt.byClient (agree : AgreeAt now left right) (order : RangeOrder Lease)
    (mac clientID : String) :
    ∃ other : RangeOrder Lease,
      right.byClient other now mac clientID = left.byClient order now mac clientID := by
  cases result : left.byClient order now mac clientID with
  | none =>
      refine ⟨order, ?_⟩
      rw [byClient_none_iff] at result ⊢
      intro ip lease found own
      cases expiry : lease.expired now with
      | true => rfl
      | false => exact expiry.symm.trans (result ip lease ((agree ip lease expiry).mpr found) own)
  | some lease =>
      rcases byClient_some result with ⟨found, own, active⟩
      exact ⟨RangeOrder.startingWith lease,
        byClient_startingWith ((agree lease.ip lease active).mp found) own active⟩

end Agreement

theorem AgreeAt.set {instant : Int} {left right : LeaseTable} (agree : AgreeAt instant left right)
    (lease : Lease) : AgreeAt instant (left.set lease) (right.set lease) := by
  intro ip held active
  rw [entry_set, entry_set]
  split
  · exact Iff.rfl
  · exact agree ip held active

theorem AgreeAt.answer {instant now : Int} {left right : LeaseTable}
    (agree : AgreeAt instant left right) (later : instant ≤ now) (order : RangeOrder Lease)
    (call : Call) :
    ∃ other : RangeOrder Lease,
      (right.answer other now call).1 = (left.answer order now call).1 ∧
        AgreeAt instant (left.answer order now call).2 (right.answer other now call).2 := by
  have active := agree.later later
  cases call with
  | byClient mac clientID =>
      rcases active.byClient order mac clientID with ⟨other, same⟩
      exact ⟨other, congrArg Answer.lease same, agree⟩
  | inUse ip mac clientID =>
      exact ⟨order, congrArg Answer.used (active.inUse ip mac clientID).symm, agree⟩
  | set lease => exact ⟨order, rfl, agree.set lease⟩
  | allocate start stop skip lease =>
      have scanned := active.scan stop skip (2 ^ start.bitLen - start.toNat) start
      refine ⟨order, ?_, ?_⟩
      · simp only [LeaseTable.answer, LeaseTable.allocate, scanned]
        split <;> rfl
      · simp only [LeaseTable.answer, LeaseTable.allocate, scanned]
        split
        · exact agree.set _
        · exact agree
  | snapshot => exact ⟨order, congrArg Answer.listed (active.snapshot order order).symm, agree⟩

theorem AgreeAt.possible {instant : Int} {left right : LeaseTable}
    (agree : AgreeAt instant left right) {calls : List (Int × Call)} {answers : List Answer}
    (later : ∀ call ∈ calls, instant ≤ call.1) (possible : Possible left calls answers) :
    Possible right calls answers := by
  induction possible generalizing right with
  | done table => exact .done right
  | call order next ih =>
      rcases agree.answer (later _ List.mem_cons_self) order _ with ⟨other, same, agrees⟩
      rw [← same]
      exact .call other (ih agrees fun call listed => later call (List.mem_cons_of_mem _ listed))

/-- A table, the table after a sweep, and the table a restart loads answer every later sequence
of calls in the same ways. -/
theorem dropping_expired_unobservable (table : LeaseTable) (valid : table.ValidKeys) (instant : Int)
    (order : RangeOrder Lease) (blank : LeaseTable) (calls : List (Int × Call))
    (later : ∀ call ∈ calls, instant ≤ call.1) (answers : List Answer) :
    (Possible (table.expireSweep instant) calls answers ↔ Possible table calls answers) ∧
      (Possible (blank.load (table.snapshot order instant)) calls answers ↔
        Possible table calls answers) := by
  have swept := agreeAt_expireSweep table instant
  have loaded := agreeAt_load_snapshot valid blank order instant
  exact ⟨⟨swept.symm.possible later, swept.possible later⟩,
    ⟨loaded.symm.possible later, loaded.possible later⟩⟩

def staleTable : LeaseTable :=
  newLeaseTable.set
    { ip := .v4 0x0a000005, mac := "02:00:00:00:00:01", clientID := "", hostname := ""
      expiry := 5, static := false }

theorem validKeys_staleTable : staleTable.ValidKeys := by
  intro ip lease found
  rw [staleTable, entry_set] at found
  split at found
  · next same =>
    rw [same]
    rfl
  · cases found

theorem possible_staleTable :
    Possible staleTable [(10, .byClient "02:00:00:00:00:01" ""), (11, .snapshot)]
      [.lease none, .listed []] := by
  have forgotten : (staleTable.answer .stored 10 (.byClient "02:00:00:00:00:01" "")).1 =
      .lease none := by decide +kernel
  have empty : (staleTable.answer .stored 11 .snapshot).1 = .listed [] := by decide +kernel
  rw [← forgotten, ← empty]
  exact .call .stored (.call .stored (.done staleTable))

theorem dropping_stale_unobservable :
    Possible (staleTable.expireSweep 10)
        [(10, .byClient "02:00:00:00:00:01" ""), (11, .snapshot)] [.lease none, .listed []] ∧
      Possible (newLeaseTable.load (staleTable.snapshot .stored 10))
        [(10, .byClient "02:00:00:00:00:01" ""), (11, .snapshot)] [.lease none, .listed []] := by
  have same := dropping_expired_unobservable staleTable validKeys_staleTable 10 .stored
    newLeaseTable [(10, .byClient "02:00:00:00:00:01" ""), (11, .snapshot)] (by simp)
    [.lease none, .listed []]
  exact ⟨same.1.mpr possible_staleTable, same.2.mpr possible_staleTable⟩

end LeaseTable

end BridgeDhcp.Server
