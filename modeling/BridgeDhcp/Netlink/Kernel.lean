/-
The routing state of a Linux host as netlink shows and changes it.

Rules and routes are lists, as they are dumped; adding puts an entry in front.  A rule
is added at most once, a route replaces the one with its table, destination and
metric, and deleting a dumped entry removes it once.  A route needs a link that is up:
one that goes down loses its routes and addresses.
-/

import BridgeDhcp.GoMapRange
import BridgeDhcp.NetipAddress

set_option autoImplicit false

namespace BridgeDhcp.Netlink

open Netip GoMap

/-! ### Deleting what was listed -/

section Sweep

variable {Item : Type} [DecidableEq Item]

/-- A loop over listed items that deletes some of them from what is held. -/
def sweep (deletes : Item → Bool) (listed held : List Item) : List Item :=
  listed.foldl (fun held item => if deletes item then held.erase item else held) held

theorem filter_erase_of_neg {keep : Item → Bool} {item : Item} (dropped : keep item = false)
    (held : List Item) : (held.erase item).filter keep = held.filter keep := by
  induction held with
  | nil => rfl
  | cons head tail ih =>
      by_cases same : head = item
      · subst same
        simp [dropped]
      · rw [List.erase_cons_tail (by simpa using same)]
        simp [List.filter_cons, ih]

theorem filter_sweep {deletes keep : Item → Bool} {listed : List Item}
    (dropped : ∀ item ∈ listed, deletes item = true → keep item = false) (held : List Item) :
    (sweep deletes listed held).filter keep = held.filter keep := by
  unfold sweep
  induction listed generalizing held with
  | nil => rfl
  | cons head tail ih =>
      have later : ∀ item ∈ tail, deletes item = true → keep item = false :=
        fun item member => dropped item (List.mem_cons_of_mem head member)
      rw [List.foldl_cons, ih later]
      by_cases deleted : deletes head = true
      · rw [if_pos deleted, filter_erase_of_neg (dropped head List.mem_cons_self deleted)]
      · rw [if_neg deleted]

theorem count_sweep {deletes : Item → Bool} {item : Item} (deleted : deletes item = true)
    (listed held : List Item) :
    (sweep deletes listed held).count item = held.count item - listed.count item := by
  unfold sweep
  induction listed generalizing held with
  | nil => simp
  | cons head tail ih =>
      rw [List.foldl_cons, ih]
      by_cases same : head = item
      · subst same
        rw [if_pos deleted, List.count_erase_self, List.count_cons_self]
        omega
      · rw [List.count_cons_of_ne same]
        by_cases other : deletes head = true
        · rw [if_pos other, List.count_erase_of_ne (fun equal => same equal.symm)]
        · rw [if_neg other]

theorem sweep_listed (selects deletes : Item → Bool) (held : List Item) :
    sweep deletes (held.filter selects) held =
      held.filter (fun item => !(selects item && deletes item)) := by
  have others : (sweep deletes (held.filter selects) held).filter
      (fun item => !(selects item && deletes item)) =
        held.filter (fun item => !(selects item && deletes item)) := by
    refine filter_sweep ?_ held
    intro item member deleted
    simp [(List.mem_filter.mp member).2, deleted]
  rw [← others]
  symm
  rw [List.filter_eq_self]
  intro item left
  by_contra gone
  have both : selects item = true ∧ deletes item = true := by simpa using gone
  have none := count_sweep both.2 (held.filter selects) held
  rw [List.count_filter both.1, Nat.sub_self] at none
  exact List.count_eq_zero.mp none left

end Sweep

/-! ### Entries -/

structure Rule where
  table : Int
  priority : Int
  src : Option Prefix
  dst : Option Prefix
  iifName : String
  mark : UInt32
  deriving DecidableEq, Repr

structure Route where
  table : Int
  /-- Absent, or of length zero, for a default route. -/
  dst : Option Prefix
  gw : Option Addr
  linkIndex : Int
  protocol : Int
  priority : Int
  deriving DecidableEq, Repr

namespace Route

/-- The kernel's metric of a route that names none. -/
def metric (route : Route) : Int := if route.priority = 0 then 1024 else route.priority

def isDefault (route : Route) : Bool :=
  match route.dst with
  | none => true
  | some net => net.bits = 0

def sameSlot (first second : Route) : Bool :=
  first.table = second.table && (first.isDefault && second.isDefault || first.dst = second.dst) &&
    first.metric = second.metric

end Route

structure Kernel where
  links : Map String Int
  /-- The links that are up, by their indices. -/
  up : List Int
  /-- Each address with the index of its link. -/
  addrs : List (Int × Prefix)
  rules : List Rule
  routes : List Route
  deriving DecidableEq

namespace Kernel

def linkByName (kernel : Kernel) (name : String) : Option Int := kernel.links.lookup name

def ruleAdd (kernel : Kernel) (rule : Rule) : Kernel :=
  if rule ∈ kernel.rules then kernel else { kernel with rules := rule :: kernel.rules }

def ruleDel (kernel : Kernel) (rule : Rule) : Kernel :=
  { kernel with rules := kernel.rules.erase rule }

/-- Table zero stands for all tables. -/
def routeList (kernel : Kernel) (table : Int) : List Route :=
  if table = 0 then kernel.routes else kernel.routes.filter (fun route => route.table = table)

def isUp (kernel : Kernel) (index : Int) : Bool := index ∈ kernel.up

def storeRoute (kernel : Kernel) (route : Route) : Kernel :=
  { kernel with
    routes := { route with priority := route.metric } ::
      kernel.routes.filter (fun other => !other.sameSlot route) }

/-- The call fails if the link of the route is down. -/
def routeReplace (kernel : Kernel) (route : Route) : Option Kernel :=
  if kernel.isUp route.linkIndex then some (kernel.storeRoute route) else none

def routeDel (kernel : Kernel) (route : Route) : Kernel :=
  { kernel with routes := kernel.routes.erase route }

def hasAddr (kernel : Kernel) (index : Int) (net : Prefix) : Bool := (index, net) ∈ kernel.addrs

/-- There must be such a link, and an address it has is left alone. -/
def addrAdd (kernel : Kernel) (index : Int) (net : Prefix) : Kernel :=
  if index ∉ values kernel.links ∨ (index, net) ∈ kernel.addrs then kernel
  else { kernel with addrs := (index, net) :: kernel.addrs }

theorem addrAdd_links (kernel : Kernel) (index : Int) (net : Prefix) :
    (kernel.addrAdd index net).links = kernel.links := by
  unfold addrAdd
  split <;> rfl

theorem addrAdd_up (kernel : Kernel) (index : Int) (net : Prefix) :
    (kernel.addrAdd index net).up = kernel.up := by
  unfold addrAdd
  split <;> rfl

def addrDel (kernel : Kernel) (index : Int) (net : Prefix) : Kernel :=
  { kernel with addrs := kernel.addrs.filter (· ≠ (index, net)) }

/-- A new link is down. -/
def linkAdd (kernel : Kernel) (name : String) (index : Int) : Kernel :=
  { kernel with links := kernel.links.insert name index }

def linkSetUp (kernel : Kernel) (index : Int) : Kernel :=
  { kernel with up := index :: kernel.up }

def linkSetDown (kernel : Kernel) (index : Int) : Kernel :=
  { kernel with
    up := kernel.up.filter (· ≠ index)
    addrs := kernel.addrs.filter (fun entry => entry.1 ≠ index)
    routes := kernel.routes.filter (fun route => route.linkIndex ≠ index) }

def linkDel (kernel : Kernel) (name : String) : Kernel :=
  match kernel.links.lookup name with
  | none => kernel
  | some index => { kernel.linkSetDown index with links := kernel.links.erase name }

/-! ### One table -/

def rulesOn (kernel : Kernel) (table : Int) : List Rule :=
  kernel.rules.filter (fun rule => rule.table = table)

def routesOn (kernel : Kernel) (table : Int) : List Route :=
  kernel.routes.filter (fun route => route.table = table)

theorem mem_addrs_addrAdd {kernel : Kernel} {name : String} {index : Int}
    (link : kernel.linkByName name = some index) (net : Prefix) :
    (index, net) ∈ (kernel.addrAdd index net).addrs := by
  have exists_ : index ∈ values kernel.links := (mem_values_iff _ _).mpr ⟨name, link⟩
  unfold addrAdd
  by_cases present : (index, net) ∈ kernel.addrs
  · rw [if_pos (Or.inr present)]
    exact present
  · simp [exists_, present]

theorem routeList_eq_routesOn (kernel : Kernel) {table : Int} (set : table ≠ 0) :
    kernel.routeList table = kernel.routesOn table := if_neg set

structure SameOutside (table : Int) (before after : Kernel) : Prop where
  links : after.links = before.links
  up : after.up = before.up
  addrs : after.addrs = before.addrs
  rules : ∀ other, other ≠ table → after.rulesOn other = before.rulesOn other
  routes : ∀ other, other ≠ table → after.routesOn other = before.routesOn other

namespace SameOutside

variable {table : Int} {first second third : Kernel}

theorem refl (kernel : Kernel) : SameOutside table kernel kernel :=
  ⟨rfl, rfl, rfl, fun _ _ => rfl, fun _ _ => rfl⟩

theorem trans (one : SameOutside table first second) (two : SameOutside table second third) :
    SameOutside table first third := by
  refine ⟨two.links.trans one.links, two.up.trans one.up, two.addrs.trans one.addrs, ?_, ?_⟩
  · intro other different
    exact (two.rules other different).trans (one.rules other different)
  · intro other different
    exact (two.routes other different).trans (one.routes other different)

theorem mem_routes_iff (same : SameOutside table first second) {route : Route}
    (elsewhere : route.table ≠ table) : route ∈ second.routes ↔ route ∈ first.routes := by
  have listed : ∀ kernel : Kernel, route ∈ kernel.routesOn route.table ↔ route ∈ kernel.routes := by
    intro kernel
    simp [routesOn]
  rw [← listed second, same.routes route.table elsewhere, listed first]

end SameOutside

section Operations

variable (kernel : Kernel) (table : Int)

theorem rulesOn_ruleAdd (rule : Rule) :
    (kernel.ruleAdd rule).rulesOn rule.table =
      if rule ∈ kernel.rulesOn rule.table then kernel.rulesOn rule.table
      else rule :: kernel.rulesOn rule.table := by
  unfold ruleAdd rulesOn
  by_cases present : rule ∈ kernel.rules
  · simp [present]
  · simp [present]

theorem mem_rulesOn_ruleAdd (rule other : Rule) :
    other ∈ (kernel.ruleAdd rule).rulesOn rule.table ↔
      other ∈ kernel.rulesOn rule.table ∨ other = rule := by
  rw [rulesOn_ruleAdd]
  by_cases present : rule ∈ kernel.rulesOn rule.table
  · rw [if_pos present]
    constructor
    · exact Or.inl
    · rintro (held | same)
      · exact held
      · rw [same]
        exact present
  · rw [if_neg present, List.mem_cons, or_comm]

theorem nodup_rulesOn_ruleAdd (rule : Rule) (distinct : (kernel.rulesOn rule.table).Nodup) :
    ((kernel.ruleAdd rule).rulesOn rule.table).Nodup := by
  rw [rulesOn_ruleAdd]
  by_cases present : rule ∈ kernel.rulesOn rule.table
  · rw [if_pos present]
    exact distinct
  · rw [if_neg present]
    exact List.nodup_cons.mpr ⟨present, distinct⟩

theorem sameOutside_ruleAdd (rule : Rule) :
    SameOutside rule.table kernel (kernel.ruleAdd rule) := by
  unfold ruleAdd
  split
  · exact SameOutside.refl kernel
  · refine ⟨rfl, rfl, rfl, ?_, fun _ _ => rfl⟩
    intro other different
    simp [rulesOn, Ne.symm different]

@[simp] theorem routesOn_ruleAdd (rule : Rule) :
    (kernel.ruleAdd rule).routesOn table = kernel.routesOn table := by
  unfold ruleAdd
  split <;> rfl

@[simp] theorem rulesOn_storeRoute (route : Route) :
    (kernel.storeRoute route).rulesOn table = kernel.rulesOn table := rfl

theorem routesOn_storeRoute (route : Route) :
    (kernel.storeRoute route).routesOn route.table =
      { route with priority := route.metric } ::
        (kernel.routesOn route.table).filter (fun other => !other.sameSlot route) := by
  unfold storeRoute routesOn
  rw [List.filter_cons_of_pos (by simp), List.filter_filter, List.filter_filter]
  simp [Bool.and_comm]

theorem sameOutside_storeRoute (route : Route) :
    SameOutside route.table kernel (kernel.storeRoute route) := by
  refine ⟨rfl, rfl, rfl, fun _ _ => rfl, ?_⟩
  intro other different
  unfold storeRoute routesOn
  rw [List.filter_cons_of_neg (by simpa using Ne.symm different), List.filter_filter]
  refine List.filter_congr ?_
  intro held _
  by_cases here : held.table = other
  · simp [here, Route.sameSlot, different]
  · simp [here]

/-- A loop over the dumped rules that deletes some of those of one table. -/
def deleteRules (deletes : Rule → Bool) : Kernel :=
  kernel.rules.foldl
    (fun current rule =>
      if rule.table = table ∧ deletes rule = true then current.ruleDel rule else current)
    kernel

theorem deleteRules_eq (deletes : Rule → Bool) :
    kernel.deleteRules table deletes =
      { kernel with
        rules := kernel.rules.filter (fun rule => !(decide (rule.table = table) && deletes rule)) } := by
  have loop : kernel.deleteRules table deletes =
      { kernel with
        rules := sweep (fun rule => decide (rule.table = table) && deletes rule) kernel.rules
          kernel.rules } := by
    unfold deleteRules sweep
    refine List.foldl_hom (fun rules => ({ kernel with rules := rules } : Kernel)) ?_
    intro rules rule
    by_cases deleted : rule.table = table ∧ deletes rule = true
    · simp [deleted, ruleDel]
    · simp [deleted]
  have swept := sweep_listed (fun _ => true)
    (fun rule => decide (rule.table = table) && deletes rule) kernel.rules
  rw [loop]
  simp only [List.filter_true, Bool.true_and] at swept
  rw [swept]

/-- A loop over the dumped routes of one table that deletes some of them. -/
def deleteRoutes (deletes : Route → Bool) : Kernel :=
  (kernel.routeList table).foldl
    (fun current route => if deletes route = true then current.routeDel route else current) kernel

theorem deleteRoutes_eq (set : table ≠ 0) (deletes : Route → Bool) :
    kernel.deleteRoutes table deletes =
      { kernel with
        routes := kernel.routes.filter
          (fun route => !(decide (route.table = table) && deletes route)) } := by
  have loop : kernel.deleteRoutes table deletes =
      { kernel with routes := sweep deletes (kernel.routesOn table) kernel.routes } := by
    unfold deleteRoutes sweep
    rw [kernel.routeList_eq_routesOn set]
    refine List.foldl_hom (fun routes => ({ kernel with routes := routes } : Kernel)) ?_
    intro routes route
    by_cases deleted : deletes route = true
    · simp [deleted, routeDel]
    · simp [deleted]
  rw [loop]
  exact congrArg (fun routes => ({ kernel with routes := routes } : Kernel))
    (sweep_listed (fun route : Route => decide (route.table = table)) deletes kernel.routes)

theorem rulesOn_deleteRules (deletes : Rule → Bool) :
    (kernel.deleteRules table deletes).rulesOn table =
      (kernel.rulesOn table).filter (fun rule => !deletes rule) := by
  rw [deleteRules_eq]
  unfold rulesOn
  rw [List.filter_filter, List.filter_filter]
  refine List.filter_congr ?_
  intro rule _
  by_cases here : rule.table = table
  · simp [here]
  · simp [here]

@[simp] theorem routesOn_deleteRules (deletes : Rule → Bool) (other : Int) :
    (kernel.deleteRules table deletes).routesOn other = kernel.routesOn other := by
  rw [deleteRules_eq]
  rfl

theorem sameOutside_deleteRules (deletes : Rule → Bool) :
    SameOutside table kernel (kernel.deleteRules table deletes) := by
  rw [deleteRules_eq]
  refine ⟨rfl, rfl, rfl, ?_, fun _ _ => rfl⟩
  intro other different
  unfold rulesOn
  rw [List.filter_filter]
  refine List.filter_congr ?_
  intro rule _
  by_cases here : rule.table = other
  · simp [here, different]
  · simp [here]

theorem routesOn_deleteRoutes (set : table ≠ 0) (deletes : Route → Bool) :
    (kernel.deleteRoutes table deletes).routesOn table =
      (kernel.routesOn table).filter (fun route => !deletes route) := by
  rw [deleteRoutes_eq kernel table set]
  unfold routesOn
  rw [List.filter_filter, List.filter_filter]
  refine List.filter_congr ?_
  intro route _
  by_cases here : route.table = table
  · simp [here]
  · simp [here]

theorem rulesOn_deleteRoutes (set : table ≠ 0) (deletes : Route → Bool) (other : Int) :
    (kernel.deleteRoutes table deletes).rulesOn other = kernel.rulesOn other := by
  rw [deleteRoutes_eq kernel table set]
  rfl

theorem sameOutside_deleteRoutes (set : table ≠ 0) (deletes : Route → Bool) :
    SameOutside table kernel (kernel.deleteRoutes table deletes) := by
  rw [deleteRoutes_eq kernel table set]
  refine ⟨rfl, rfl, rfl, fun _ _ => rfl, ?_⟩
  intro other different
  unfold routesOn
  rw [List.filter_filter]
  refine List.filter_congr ?_
  intro route _
  by_cases here : route.table = other
  · simp [here, different]
  · simp [here]

end Operations

end Kernel

end BridgeDhcp.Netlink
