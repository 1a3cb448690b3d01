/-
Which route a packet takes.

The rules are tried in the order of their priorities, older ones first among equals.
The first rule that selects the packet and whose table has a route for its destination
decides; in a table the longest prefix wins, and among those the lowest metric.
-/

import BridgeDhcp.FirstBest
import BridgeDhcp.Netlink.Kernel

set_option autoImplicit false

namespace BridgeDhcp.Netlink

open Netip FirstBest

structure Packet where
  src : Addr
  dst : Addr
  iif : String
  mark : UInt32
  deriving DecidableEq, Repr

def within (net : Option Prefix) (ip : Addr) : Bool :=
  match net with
  | none => true
  | some net => net.contains ip

def Rule.selects (rule : Rule) (packet : Packet) : Bool :=
  within rule.src packet.src && within rule.dst packet.dst &&
    (rule.iifName == "" || rule.iifName == packet.iif) &&
    (rule.mark == 0 || rule.mark == packet.mark)

namespace Route

def covers (route : Route) (ip : Addr) : Bool := route.isDefault || within route.dst ip

def length (route : Route) : Nat :=
  match route.dst with
  | none => 0
  | some net => net.bits

def rank (route : Route) : Nat ×ₗ Int := toLex (route.length, -route.metric)

theorem length_of_isDefault {route : Route} (default : route.isDefault = true) :
    route.length = 0 := by
  cases destination : route.dst with
  | none => simp [length, destination]
  | some net =>
      have short : net.bits = 0 := by simpa [isDefault, destination] using default
      simp [length, destination, short]

theorem rank_lt_of_length {first second : Route} (shorter : first.length < second.length) :
    first.rank < second.rank := by
  unfold rank
  rw [Prod.Lex.toLex_lt_toLex]
  exact Or.inl shorter

end Route

namespace Kernel

def lookup (kernel : Kernel) (table : Int) (ip : Addr) : Option Route :=
  firstBest (fun route => route.covers ip) Route.rank (kernel.routesOn table)

def decides (kernel : Kernel) (packet : Packet) (rule : Rule) : Bool :=
  rule.selects packet && (kernel.lookup rule.table packet.dst).isSome

def decisive (kernel : Kernel) (packet : Packet) : Option Rule :=
  firstBest (kernel.decides packet) (fun rule => -rule.priority) kernel.rules.reverse

def resolve (kernel : Kernel) (packet : Packet) : Option Route :=
  (kernel.decisive packet).bind (fun rule => kernel.lookup rule.table packet.dst)

/-- The kernel without one table and the rules that point at it. -/
def without (kernel : Kernel) (table : Int) : Kernel :=
  { kernel with
    rules := kernel.rules.filter (fun rule => !decide (rule.table = table))
    routes := kernel.routes.filter (fun route => !decide (route.table = table)) }

variable {kernel : Kernel} {table : Int} {packet : Packet}

theorem lookup_eq_none_iff (kernel : Kernel) (table : Int) (ip : Addr) :
    kernel.lookup table ip = none ↔ ∀ route ∈ kernel.routesOn table, route.covers ip = false :=
  firstBest_eq_none_iff _ _ _

theorem lookup_mem {ip : Addr} {route : Route} (found : kernel.lookup table ip = some route) :
    IsBest (fun route => route.covers ip) Route.rank (kernel.routesOn table) route :=
  firstBest_isBest found

theorem lookup_without {other : Int} (different : other ≠ table) (ip : Addr) :
    (kernel.without table).lookup other ip = kernel.lookup other ip := by
  have same : (kernel.without table).routesOn other = kernel.routesOn other := by
    unfold without routesOn
    rw [List.filter_filter]
    refine List.filter_congr ?_
    intro route _
    by_cases here : route.table = other
    · simp [here, different]
    · simp [here]
  unfold lookup
  rw [same]

theorem resolve_of_rule {rule : Rule} {route : Route} (listed : rule ∈ kernel.rules)
    (selects : rule.selects packet = true)
    (found : kernel.lookup rule.table packet.dst = some route)
    (quiet : ∀ other ∈ kernel.rules, other.table ≠ rule.table → other.priority ≤ rule.priority →
      other.selects packet = true → kernel.lookup other.table packet.dst = none) :
    kernel.resolve packet = some route := by
  have eligible : kernel.decides packet rule = true := by
    unfold decides
    rw [selects, found]
    rfl
  unfold resolve decisive
  cases chosen : firstBest (kernel.decides packet) (fun rule => -rule.priority)
      kernel.rules.reverse with
  | none =>
      have passed := (firstBest_eq_none_iff _ _ _).mp chosen rule (List.mem_reverse.mpr listed)
      rw [eligible] at passed
      cases passed
  | some winner =>
      have best := firstBest_isBest chosen
      have before := best.top rule (List.mem_reverse.mpr listed) eligible
      have counts := best.counts
      unfold decides at counts
      obtain ⟨selected, routed⟩ := Bool.and_eq_true_iff.mp counts
      by_cases own : winner.table = rule.table
      · dsimp only [Option.bind_some]
        rw [own]
        exact found
      · have none := quiet winner (List.mem_reverse.mp best.listed) own (by omega) selected
        rw [none] at routed
        cases routed

theorem resolve_without
    (silent : ∀ rule ∈ kernel.rules, rule.table = table → rule.selects packet = true →
      kernel.lookup table packet.dst = none) :
    kernel.resolve packet = (kernel.without table).resolve packet := by
  have same : (kernel.without table).decisive packet = kernel.decisive packet := by
    unfold decisive without
    rw [firstBest_eq_argmax, firstBest_eq_argmax, ← List.filter_reverse, List.filter_filter]
    congr 1
    refine List.filter_congr ?_
    intro rule member
    by_cases own : rule.table = table
    · have idle : kernel.decides packet rule = false := by
        unfold decides
        cases selects : rule.selects packet with
        | false => rfl
        | true =>
            rw [own, silent rule (List.mem_reverse.mp member) own selects]
            rfl
      rw [idle]
      simp [own]
    · have unchanged : decides (kernel.without table) packet rule = kernel.decides packet rule := by
        unfold decides
        rw [lookup_without own]
      unfold without at unchanged
      rw [unchanged]
      simp [own]
  unfold resolve
  rw [same]
  cases chosen : kernel.decisive packet with
  | none => rfl
  | some winner =>
      dsimp only [Option.bind_some]
      have best := firstBest_isBest chosen
      by_cases own : winner.table = table
      · have counts := best.counts
        unfold decides at counts
        obtain ⟨selected, routed⟩ := Bool.and_eq_true_iff.mp counts
        rw [own, silent winner (List.mem_reverse.mp best.listed) own selected] at routed
        cases routed
      · rw [lookup_without own]

end Kernel

end BridgeDhcp.Netlink
