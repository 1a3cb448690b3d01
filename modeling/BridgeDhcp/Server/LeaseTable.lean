/-
Static bindings, leases and the lease table of one address family.

The table is keyed by address and every entry carries its own key, which no
operation can break.  All operations that read the clock take the instant as an
argument, and the one that ranges over the table takes the iteration order.
-/

import BridgeDhcp.GoMapRange
import BridgeDhcp.NetipAddress
import Mathlib.Data.List.Sort

set_option autoImplicit false

namespace BridgeDhcp.Server

open GoMap Netip

/-! ### Client identities -/

/-- `strings.ToLower`, exact on the ASCII text of hardware addresses and
client identifiers. -/
def toLower (text : String) : String := String.ofList (text.toList.map Char.toLower)

/-- The representative of a rune under simple case folding.  Besides the ASCII
letters only the Kelvin sign and the long s fold to an ASCII rune, so this
decides equality whenever one side is ASCII. -/
def foldRune (rune : Char) : Char :=
  if rune = Char.ofNat 0x212a then 'k'
  else if rune = Char.ofNat 0x17f then 's'
  else rune.toLower

/-- `strings.EqualFold` against an ASCII text. -/
def equalFold (left right : String) : Bool :=
  left.toList.map foldRune == right.toList.map foldRune

def hexByte (byte : UInt8) : List Char :=
  [Nat.digitChar (byte.toNat / 16), Nat.digitChar (byte.toNat % 16)]

def hexEncode (bytes : List UInt8) : String := String.ofList (bytes.flatMap hexByte)

/-- `net.HardwareAddr.String`: two digits a byte, joined by colons. -/
def hardwareAddrString (bytes : List UInt8) : String :=
  String.ofList (List.intercalate [':'] (bytes.map hexByte))

def clientKey (mac clientID : String) : String := toLower mac ++ "/" ++ toLower clientID

/-! ### Static bindings -/

/-- Pins an offset within the served prefix to the clients that meet every
condition present; an absent condition is a wildcard. -/
structure StaticBinding where
  id : String
  order : Int
  mac : Option String
  clientID : Option String
  offset : UInt64
  deriving DecidableEq, Repr

def StaticBinding.validate (binding : StaticBinding) : Except String Unit :=
  if binding.mac = none ∧ binding.clientID = none then
    .error "static binding needs at least one condition"
  else if binding.offset = 0 then
    .error "static binding offset must be > 0 (0 is the network base)"
  else .ok ()

/-- Base of the prefix plus offset; invalid when the sum leaves the address
width or the prefix. -/
def addrAtOffset (served : Prefix) (offset : UInt64) : Addr :=
  let base := served.masked.addr
  let sum := base.toNat + offset.toNat
  if 2 ^ base.bitLen ≤ sum then .invalid
  else
    let addr := base.withNat sum
    if served.masked.contains addr then addr else .invalid

/-- One condition of a binding: its contribution to the score, or failure. -/
def conditionScore (condition : Option String) (actual : String) : Option Nat :=
  match condition with
  | none => some 0
  | some wanted => if equalFold wanted actual then some 1 else none

/-- The number of conditions met, if all present ones are and there is one. -/
def bindingScore (binding : StaticBinding) (mac clientID : String) : Option Nat :=
  match conditionScore binding.mac mac, conditionScore binding.clientID clientID with
  | some first, some second => if first + second = 0 then none else some (first + second)
  | _, _ => none

def considerBinding (mac clientID : String) (best : Option (StaticBinding × Nat))
    (binding : StaticBinding) : Option (StaticBinding × Nat) :=
  match bindingScore binding mac clientID with
  | none => best
  | some score =>
      match best with
      | none => some (binding, score)
      | some (current, bestScore) =>
          if score > bestScore ∨ (score = bestScore ∧ binding.order > current.order) then
            some (binding, score)
          else best

/-- The binding that matches the most conditions wins; ties go to the higher
order, and then to the earlier one in the list. -/
def matchBinding (bindings : List StaticBinding) (mac clientID : String) :
    Option StaticBinding :=
  (bindings.foldl (considerBinding mac clientID) none).map Prod.fst

theorem foldl_considerBinding_mem (mac clientID : String) (bindings : List StaticBinding)
    (best : Option (StaticBinding × Nat)) (picked : StaticBinding × Nat)
    (found : bindings.foldl (considerBinding mac clientID) best = some picked) :
    picked.1 ∈ bindings ∨ best = some picked := by
  induction bindings generalizing best with
  | nil => exact Or.inr found
  | cons binding rest ih =>
      rw [List.foldl_cons] at found
      rcases ih (considerBinding mac clientID best binding) found with later | here
      · exact Or.inl (List.mem_cons_of_mem binding later)
      · have cases : considerBinding mac clientID best binding = best ∨
            ∃ score, considerBinding mac clientID best binding = some (binding, score) := by
          unfold considerBinding
          split
          · exact Or.inl rfl
          · rename_i score _
            split
            · exact Or.inr ⟨score, rfl⟩
            · split
              · exact Or.inr ⟨score, rfl⟩
              · exact Or.inl rfl
        rcases cases with kept | ⟨score, replaced⟩
        · exact Or.inr (kept.symm.trans here)
        · rw [replaced] at here
          cases here
          exact Or.inl List.mem_cons_self

theorem matchBinding_mem {bindings : List StaticBinding} {mac clientID : String}
    {picked : StaticBinding} (found : matchBinding bindings mac clientID = some picked) :
    picked ∈ bindings := by
  unfold matchBinding at found
  obtain ⟨scored, result, rfl⟩ := Option.map_eq_some_iff.mp found
  rcases foldl_considerBinding_mem mac clientID bindings none scored result with member | none
  · exact member
  · cases none

theorem matchBinding_eq_none {bindings : List StaticBinding} {mac clientID : String}
    (unmatched : ∀ binding ∈ bindings, bindingScore binding mac clientID = none) :
    matchBinding bindings mac clientID = none := by
  have loop : bindings.foldl (considerBinding mac clientID) none = none := by
    induction bindings with
    | nil => rfl
    | cons binding rest ih =>
        have first : considerBinding mac clientID none binding = none := by
          unfold considerBinding
          rw [unmatched binding List.mem_cons_self]
        rw [List.foldl_cons, first]
        exact ih (fun later member => unmatched later (List.mem_cons_of_mem binding member))
  unfold matchBinding
  rw [loop, Option.map_none]

theorem addrAtOffset_toNat {served : Prefix} {offset : UInt64}
    (valid : (addrAtOffset served offset).isValid = true) :
    (addrAtOffset served offset).toNat = served.masked.addr.toNat + offset.toNat := by
  unfold addrAtOffset at valid ⊢
  simp only at valid ⊢
  split at valid
  · cases valid
  · rename_i narrow
    rw [if_neg narrow]
    split at valid
    · rename_i inside
      rw [if_pos inside]
      exact Addr.toNat_withNat _ _ (Nat.not_le.mp narrow)
    · cases valid

theorem addrAtOffset_contains {served : Prefix} {offset : UInt64}
    (valid : (addrAtOffset served offset).isValid = true) :
    served.contains (addrAtOffset served offset) = true := by
  unfold addrAtOffset at valid ⊢
  simp only at valid ⊢
  split at valid
  · cases valid
  · rename_i narrow
    rw [if_neg narrow]
    split at valid
    · rename_i inside
      rw [if_pos inside, ← Prefix.contains_masked]
      exact inside
    · cases valid

/-! ### Leases -/

structure Lease where
  ip : Addr
  mac : String
  clientID : String
  hostname : String
  expiry : Int
  static : Bool
  deriving DecidableEq, Repr

def Lease.key (lease : Lease) : String := clientKey lease.mac lease.clientID

/-- `now.After(l.Expiry)`: a lease lasts up to and including its expiry. -/
def Lease.expired (lease : Lease) (now : Int) : Bool := lease.expiry < now

theorem Lease.expired_eq_false_iff (lease : Lease) (now : Int) :
    lease.expired now = false ↔ now ≤ lease.expiry := by
  unfold Lease.expired
  rw [decide_eq_false_iff_not, Int.not_lt]

/-- Active leases of one family on one interface.  `notified` counts the calls
of the persistence hook and `noted` is what the last of them found in the table. -/
structure LeaseTable where
  leases : Map Addr Lease
  notified : Nat
  noted : Map Addr Lease
  keyed : ∀ ip lease, leases.lookup ip = some lease → lease.ip = ip

namespace LeaseTable

def newLeaseTable : LeaseTable where
  leases := ∅
  notified := 0
  noted := ∅
  keyed := by
    intro ip lease found
    rw [AList.lookup_empty] at found
    cases found

def entry (table : LeaseTable) (ip : Addr) : Option Lease := table.leases.lookup ip

def notify (table : LeaseTable) : LeaseTable :=
  { table with notified := table.notified + 1, noted := table.leases }

/-- The client's active lease: the first one the iteration meets. -/
def byClient (table : LeaseTable) (order : RangeOrder Lease) (now : Int)
    (mac clientID : String) : Option Lease :=
  (order.arrange (values table.leases)).find?
    (fun lease => lease.key == clientKey mac clientID && !lease.expired now)

def assign (table : LeaseTable) (lease : Lease) : LeaseTable where
  leases := table.leases.insert lease.ip lease
  notified := table.notified
  noted := table.noted
  keyed := by
    intro ip found present
    rw [lookup_insert_cases] at present
    split at present
    · rename_i same
      cases present
      exact same.symm
    · exact table.keyed ip found present

def set (table : LeaseTable) (lease : Lease) : LeaseTable := (table.assign lease).notify

def delete (table : LeaseTable) (ip : Addr) : LeaseTable where
  leases := table.leases.erase ip
  notified := table.notified
  noted := table.noted
  keyed := by
    intro address found present
    rw [lookup_erase_cases] at present
    split at present
    · cases present
    · exact table.keyed address found present

/-- Drop the entry at an address; the flag tells whether there was one. -/
def release (table : LeaseTable) (ip : Addr) : Bool × LeaseTable :=
  match table.entry ip with
  | none => (false, table)
  | some _ => (true, (table.delete ip).notify)

def inUse (table : LeaseTable) (now : Int) (ip : Addr) (mac clientID : String) : Bool :=
  match table.entry ip with
  | none => false
  | some lease => if lease.expired now then false else lease.key != clientKey mac clientID

def expireSweep (table : LeaseTable) (now : Int) : LeaseTable :=
  let swept : LeaseTable :=
    { leases := GoMap.filter (fun _ lease => !lease.expired now) table.leases
      notified := table.notified
      noted := table.noted
      keyed := by
        intro ip lease found
        rw [lookup_filter, Option.filter_eq_some_iff] at found
        exact table.keyed ip lease found.1 }
  if (values table.leases).any (fun lease => lease.expired now) then swept.notify else swept

/-- The order that `sort.Slice` establishes: no later address before an earlier one. -/
def Sorted (left right : Lease) : Prop := right.ip.less left.ip = false

instance decidableSorted : DecidableRel Sorted :=
  fun left right => inferInstanceAs (Decidable (right.ip.less left.ip = false))

def snapshot (table : LeaseTable) (order : RangeOrder Lease) (now : Int) : List Lease :=
  ((order.arrange (values table.leases)).filter (fun lease => !lease.expired now)).insertionSort
    Sorted

/-- Replace the contents by the restored leases that carry a valid address. -/
def load (table : LeaseTable) (restored : List Lease) : LeaseTable :=
  restored.foldl
    (fun loaded lease => if lease.ip.isValid then loaded.assign lease else loaded)
    { newLeaseTable with notified := table.notified, noted := table.noted }

def occupied (table : LeaseTable) (now : Int) (ip : Addr) : Bool :=
  match table.entry ip with
  | none => false
  | some current => !current.expired now

/-- The loop of `allocate`: the first address from `ip` on, up to `stop`, that
is neither skipped nor occupied. -/
def scan (table : LeaseTable) (now : Int) (stop : Addr) (skip : Addr → Bool) : Nat → Addr → Addr
  | 0, _ => .invalid
  | fuel + 1, ip =>
      if ip.isValid && !stop.less ip then
        if skip ip then scan table now stop skip fuel ip.next
        else if table.occupied now ip then scan table now stop skip fuel ip.next
        else ip
      else .invalid

/-- Book the first free address of the interval for the given lease.  The loop
runs at most once for each address of the family from `start` on. -/
def allocate (table : LeaseTable) (now : Int) (start stop : Addr) (skip : Addr → Bool)
    (lease : Lease) : Addr × LeaseTable :=
  let ip := table.scan now stop skip (2 ^ start.bitLen - start.toNat) start
  if ip.isValid then (ip, table.set { lease with ip := ip }) else (.invalid, table)

/-! ### What the operations do to an entry -/

@[simp] theorem entry_newLeaseTable (ip : Addr) : newLeaseTable.entry ip = none := rfl

theorem entry_ip {table : LeaseTable} {ip : Addr} {lease : Lease}
    (found : table.entry ip = some lease) : lease.ip = ip :=
  table.keyed ip lease found

theorem entry_set (table : LeaseTable) (lease : Lease) (ip : Addr) :
    (table.set lease).entry ip = if ip = lease.ip then some lease else table.entry ip :=
  lookup_insert_cases table.leases lease.ip ip lease

theorem entry_set_self (table : LeaseTable) (lease : Lease) :
    (table.set lease).entry lease.ip = some lease := by
  rw [entry_set, if_pos rfl]

theorem entry_set_ne (table : LeaseTable) (lease : Lease) {ip : Addr} (other : ip ≠ lease.ip) :
    (table.set lease).entry ip = table.entry ip := by
  rw [entry_set, if_neg other]

theorem entry_release (table : LeaseTable) (target ip : Addr) :
    (table.release target).2.entry ip = if ip = target then none else table.entry ip := by
  unfold release
  cases found : table.entry target with
  | none =>
      by_cases same : ip = target
      · rw [if_pos same, same]
        exact found
      · rw [if_neg same]
  | some lease => exact lookup_erase_cases table.leases target ip

theorem entry_of_release {table : LeaseTable} {target ip : Addr} {lease : Lease}
    (found : (table.release target).2.entry ip = some lease) : table.entry ip = some lease := by
  rw [entry_release] at found
  split at found
  · cases found
  · exact found

theorem entry_expireSweep (table : LeaseTable) (now : Int) (ip : Addr) :
    (table.expireSweep now).entry ip =
      (table.entry ip).filter (fun lease => !lease.expired now) := by
  unfold expireSweep
  simp only
  split
  · exact lookup_filter _ table.leases ip
  · exact lookup_filter _ table.leases ip

theorem entry_expireSweep_of_active {table : LeaseTable} {now : Int} {ip : Addr} {lease : Lease}
    (found : table.entry ip = some lease) (active : lease.expired now = false) :
    (table.expireSweep now).entry ip = some lease := by
  rw [entry_expireSweep, found, Option.filter_some, active]
  rfl

theorem entry_of_expireSweep {table : LeaseTable} {now : Int} {ip : Addr} {lease : Lease}
    (found : (table.expireSweep now).entry ip = some lease) :
    table.entry ip = some lease ∧ lease.expired now = false := by
  rw [entry_expireSweep, Option.filter_eq_some_iff] at found
  exact ⟨found.1, by simpa using found.2⟩

/-! ### Reading the table -/

theorem byClient_some {table : LeaseTable} {order : RangeOrder Lease} {now : Int}
    {mac clientID : String} {lease : Lease}
    (found : table.byClient order now mac clientID = some lease) :
    table.entry lease.ip = some lease ∧ lease.key = clientKey mac clientID ∧
      lease.expired now = false := by
  obtain ⟨passes, ip, present⟩ := find_range_some order table.leases _ lease found
  simp only [Bool.and_eq_true, beq_iff_eq, Bool.not_eq_true'] at passes
  have own : lease.ip = ip := table.keyed ip lease present
  refine ⟨?_, passes.1, passes.2⟩
  rw [own]
  exact present

theorem byClient_none_iff (table : LeaseTable) (order : RangeOrder Lease) (now : Int)
    (mac clientID : String) :
    table.byClient order now mac clientID = none ↔
      ∀ ip lease, table.entry ip = some lease → lease.key = clientKey mac clientID →
        lease.expired now = true := by
  unfold byClient
  rw [find_range_none_iff]
  constructor
  · intro none ip lease found same
    have fails := none ip lease found
    rw [same, beq_self_eq_true, Bool.true_and, Bool.not_eq_false'] at fails
    exact fails
  · intro expired ip lease found
    by_cases same : lease.key = clientKey mac clientID
    · rw [expired ip lease found same, Bool.not_true, Bool.and_false]
    · rw [beq_eq_false_iff_ne.mpr same, Bool.false_and]

theorem byClient_startingWith {table : LeaseTable} {now : Int} {mac clientID : String}
    {ip : Addr} {lease : Lease} (found : table.entry ip = some lease)
    (own : lease.key = clientKey mac clientID) (active : lease.expired now = false) :
    table.byClient (RangeOrder.startingWith lease) now mac clientID = some lease := by
  apply find_range_startingWith table.leases _ ip lease found
  rw [own, beq_self_eq_true, active]
  rfl

theorem inUse_eq_false_iff (table : LeaseTable) (now : Int) (ip : Addr) (mac clientID : String) :
    table.inUse now ip mac clientID = false ↔
      ∀ lease, table.entry ip = some lease → lease.expired now = false →
        lease.key = clientKey mac clientID := by
  unfold inUse
  cases found : table.entry ip with
  | none => simp
  | some lease =>
      by_cases gone : lease.expired now = true
      · simp [gone]
      · simp [gone]

theorem occupied_eq_false_iff (table : LeaseTable) (now : Int) (ip : Addr) :
    table.occupied now ip = false ↔
      ∀ lease, table.entry ip = some lease → lease.expired now = true := by
  unfold occupied
  cases found : table.entry ip with
  | none => simp
  | some lease => simp

/-! ### The pool scan -/

theorem scan_invalid (table : LeaseTable) (now : Int) (stop : Addr) (skip : Addr → Bool)
    (fuel : Nat) : table.scan now stop skip fuel .invalid = .invalid := by
  cases fuel with
  | zero => rfl
  | succ fuel => rfl

theorem scan_sound (table : LeaseTable) (now : Int) (stop : Addr) (skip : Addr → Bool)
    (fuel : Nat) (ip found : Addr) (valid : found.isValid = true)
    (result : table.scan now stop skip fuel ip = found) :
    found.bitLen = ip.bitLen ∧ ip.toNat ≤ found.toNat ∧ stop.less found = false ∧
      skip found = false ∧ table.occupied now found = false := by
  induction fuel generalizing ip with
  | zero =>
      cases result
      cases valid
  | succ fuel ih =>
      have passedOver (rest : table.scan now stop skip fuel ip.next = found) :
          found.bitLen = ip.bitLen ∧ ip.toNat ≤ found.toNat ∧ stop.less found = false ∧
            skip found = false ∧ table.occupied now found = false := by
        have nextValid : ip.next.isValid = true := by
          cases next : ip.next with
          | invalid =>
              rw [next, scan_invalid] at rest
              cases rest
              cases valid
          | v4 value => rfl
          | v6 value => rfl
        obtain ⟨family, number⟩ := ip.next_of_isValid nextValid
        obtain ⟨sameFamily, above, others⟩ := ih ip.next rest
        exact ⟨sameFamily.trans family, by omega, others⟩
      unfold scan at result
      split at result
      · rename_i within
        split at result
        · exact passedOver result
        · rename_i notSkipped
          split at result
          · exact passedOver result
          · rename_i notOccupied
            subst result
            simp only [Bool.and_eq_true, Bool.not_eq_true'] at within
            exact ⟨rfl, Nat.le_refl _, within.2, Bool.eq_false_iff.mpr notSkipped,
              Bool.eq_false_iff.mpr notOccupied⟩
      · cases result
        cases valid

/-- The scan passes over no usable address.  The fuel counts the addresses left
in the family, so it cannot run out before the interval does. -/
theorem scan_complete (table : LeaseTable) (now : Int) (stop : Addr) (skip : Addr → Bool)
    (fuel : Nat) (ip addr : Addr) (enough : 2 ^ ip.bitLen ≤ ip.toNat + fuel)
    (addrValid : addr.isValid = true) (family : addr.bitLen = ip.bitLen)
    (above : ip.toNat ≤ addr.toNat) (within : stop.less addr = false)
    (notSkipped : skip addr = false) (notOccupied : table.occupied now addr = false) :
    (table.scan now stop skip fuel ip).isValid = true ∧
      (table.scan now stop skip fuel ip).toNat ≤ addr.toNat := by
  have bound := addr.toNat_lt
  rw [family] at bound
  induction fuel generalizing ip with
  | zero => omega
  | succ fuel ih =>
      have ipValid : ip.isValid = true := by
        rw [Addr.isValid_iff_bitLen, ← family, ← Addr.isValid_iff_bitLen]
        exact addrValid
      have ipWithin : stop.less ip = false := by
        rw [← Bool.not_eq_true, Addr.less_iff] at within ⊢
        omega
      have passedOver (different : ip ≠ addr) :
          (table.scan now stop skip fuel ip.next).isValid = true ∧
            (table.scan now stop skip fuel ip.next).toNat ≤ addr.toNat := by
        have distinct : ip.toNat ≠ addr.toNat := by
          intro same
          exact different (Addr.eq_of_toNat family.symm same)
        have below : ip.toNat + 1 < 2 ^ ip.bitLen := by omega
        rw [Addr.next_of_lt ip ipValid below]
        have number : (ip.withNat (ip.toNat + 1)).toNat = ip.toNat + 1 :=
          Addr.toNat_withNat ip _ below
        apply ih
        · rw [Addr.bitLen_withNat, number]
          omega
        · rw [Addr.bitLen_withNat]
          exact family
        · rw [number]
          omega
        · rw [Addr.bitLen_withNat]
          exact bound
      unfold scan
      rw [ipValid, ipWithin]
      simp only [Bool.not_false, Bool.and_self, if_true]
      split
      · rename_i skipped
        apply passedOver
        rintro rfl
        rw [skipped] at notSkipped
        cases notSkipped
      · split
        · rename_i isOccupied
          apply passedOver
          rintro rfl
          rw [isOccupied] at notOccupied
          cases notOccupied
        · exact ⟨ipValid, above⟩

theorem allocate_sound {table : LeaseTable} {now : Int} {start stop : Addr}
    {skip : Addr → Bool} {lease : Lease}
    (valid : (table.allocate now start stop skip lease).1.isValid = true) :
    let ip := (table.allocate now start stop skip lease).1
    (table.allocate now start stop skip lease).2 = table.set { lease with ip := ip } ∧
      stop.less ip = false ∧ ip.less start = false ∧ skip ip = false ∧
      table.occupied now ip = false := by
  unfold allocate at valid ⊢
  simp only at valid ⊢
  split at valid
  · rename_i found
    rw [if_pos found]
    dsimp only
    obtain ⟨family, above, within, notSkipped, free⟩ :=
      scan_sound table now stop skip _ start _ found rfl
    refine ⟨rfl, within, ?_, notSkipped, free⟩
    rw [← Bool.not_eq_true, Addr.less_iff]
    omega
  · cases valid

theorem allocate_failed {table : LeaseTable} {now : Int} {start stop : Addr}
    {skip : Addr → Bool} {lease : Lease}
    (failed : (table.allocate now start stop skip lease).1.isValid = false) :
    table.allocate now start stop skip lease = (.invalid, table) := by
  unfold allocate at failed ⊢
  simp only at failed ⊢
  split at failed
  · rename_i found
    rw [found] at failed
    cases failed
  · rename_i missing
    rw [if_neg missing]

end LeaseTable

end BridgeDhcp.Server
