/-
What the policy routing of a delegated prefix does to packets.

The table and its rule pair are exact in every reachable state, so the route of a
packet can be read off them: traffic to the prefix goes to the served link, traffic
from it to the mirrored default, and nothing else notices that the table is there.
Rules of other tables may come before the pair; the results ask that they find no
route, as is the case for forwarded packets when those rules are for local ones.
-/

import BridgeDhcp.Netlink.Lookup
import BridgeDhcp.PdRoute.TableContents

set_option autoImplicit false

namespace BridgeDhcp.PdRoute

open Netip Netlink StepRun Kernel FirstBest

/-! ### Looking up the table -/

section Table

variable {cfg : Config} {kernel : Kernel} {net : Prefix}

theorem storedSubnet_covers (cfg : Config) (index : Int) {net : Prefix} (long : 1 ≤ net.bits)
    (ip : Addr) : (storedSubnet cfg index net).covers ip = net.contains ip := by
  unfold Route.covers
  rw [storedSubnet_not_default cfg index long, Bool.false_or]
  exact Prefix.contains_masked net ip

theorem Holds.lookup_outside (holds : Holds cfg kernel net) (long : 1 ≤ net.bits) {ip : Addr}
    (outside : net.contains ip = false) :
    (∀ route ∈ kernel.routesOn cfg.table, route.isDefault = true →
        kernel.lookup cfg.table ip = some route) ∧
      ((∀ route ∈ kernel.routesOn cfg.table, route.isDefault = false) →
        kernel.lookup cfg.table ip = none) := by
  obtain ⟨index, mirrors, _, few, areMirrors, contents⟩ := holds.routes
  have uncovered : (storedSubnet cfg index net).covers ip = false :=
    (storedSubnet_covers cfg index long ip).trans outside
  have notDefault := storedSubnet_not_default cfg index long
  constructor
  · intro route listed default
    have ofMirrors : route ∈ mirrors := by
      rcases List.mem_cons.mp (contents.mem_iff.mp listed) with same | mirror
      · rw [same, notDefault] at default
        cases default
      · exact mirror
    have covers : route.covers ip = true := by
      unfold Route.covers
      rw [default, Bool.true_or]
    cases found : kernel.lookup cfg.table ip with
    | none =>
        have passed := (lookup_eq_none_iff kernel cfg.table ip).mp found route listed
        rw [covers] at passed
        cases passed
    | some chosen =>
        have best := lookup_mem found
        rcases List.mem_cons.mp (contents.mem_iff.mp best.listed) with same | mirror
        · have counts := best.counts
          rw [same, uncovered] at counts
          cases counts
        · -- there is at most one mirrored default
          obtain ⟨single, alone⟩ := List.length_eq_one_iff.mp
            (Nat.le_antisymm few (List.length_pos_of_mem ofMirrors))
          rw [alone, List.mem_singleton] at mirror ofMirrors
          rw [mirror, ofMirrors]
  · intro noDefault
    rw [lookup_eq_none_iff]
    intro route listed
    rcases List.mem_cons.mp (contents.mem_iff.mp listed) with same | mirror
    · rw [same]
      exact uncovered
    · obtain ⟨uplink, gw, isMirror⟩ := areMirrors route mirror
      have default := noDefault route listed
      rw [isMirror, mirrorRoute_default] at default
      cases default

theorem Holds.fromRule_mem (holds : Holds cfg kernel net) : fromRule cfg net ∈ kernel.rules :=
  (List.mem_filter.mp (holds.rules.mem_iff.mpr List.mem_cons_self)).1

theorem Holds.toRule_mem (holds : Holds cfg kernel net) : toRule cfg net ∈ kernel.rules :=
  (List.mem_filter.mp
    (holds.rules.mem_iff.mpr (List.mem_cons_of_mem _ (List.mem_singleton_self _)))).1

theorem fromRule_selects (cfg : Config) (net : Prefix) (packet : Packet) :
    (fromRule cfg net).selects packet = net.contains packet.src := by
  simp [Rule.selects, fromRule, ruleTo, within]

theorem toRule_selects (cfg : Config) (net : Prefix) (packet : Packet) :
    (toRule cfg net).selects packet = net.contains packet.dst := by
  simp [Rule.selects, toRule, ruleTo, within]

end Table

/-! ### Packets -/

/-- No rule of another table that comes before the pair, or level with it, has a route
for the packet. -/
def Quiet (cfg : Config) (kernel : Kernel) (packet : Packet) : Prop :=
  ∀ rule ∈ kernel.rules, rule.table ≠ cfg.table → rule.priority ≤ cfg.rulePriority →
    rule.selects packet = true → kernel.lookup rule.table packet.dst = none

section Packets

variable {cfg : Config} {kernel : Kernel} {net : Prefix} {packet : Packet}

theorem Holds.resolve_default (holds : Holds cfg kernel net) (long : 1 ≤ net.bits)
    (quiet : Quiet cfg kernel packet) (source : net.contains packet.src = true)
    (outside : net.contains packet.dst = false) {route : Route}
    (listed : route ∈ kernel.routesOn cfg.table) (default : route.isDefault = true) :
    kernel.resolve packet = some route :=
  resolve_of_rule holds.fromRule_mem ((fromRule_selects cfg net packet).trans source)
    ((holds.lookup_outside long outside).1 route listed default) quiet

theorem Holds.resolve_without (holds : Holds cfg kernel net) (long : 1 ≤ net.bits)
    (outside : net.contains packet.dst = false)
    (idle : net.contains packet.src = false ∨
      ∀ route ∈ kernel.routesOn cfg.table, route.isDefault = false) :
    kernel.resolve packet = (kernel.without cfg.table).resolve packet := by
  apply Kernel.resolve_without
  intro rule listed own selects
  rcases idle with foreign | noDefault
  · exfalso
    have ofPair : rule ∈ kernel.rulesOn cfg.table :=
      List.mem_filter.mpr ⟨listed, decide_eq_true own⟩
    rcases List.mem_cons.mp (holds.rules.mem_iff.mp ofPair) with isFrom | isTo
    · rw [isFrom, fromRule_selects, foreign] at selects
      cases selects
    · rw [List.mem_singleton.mp isTo, toRule_selects, outside] at selects
      cases selects
  · exact (holds.lookup_outside long outside).2 noDefault

theorem Empty.resolve_without (empty : Empty cfg kernel) :
    kernel.resolve packet = (kernel.without cfg.table).resolve packet := by
  apply Kernel.resolve_without
  intro rule listed own selects
  have onTable : rule ∈ kernel.rulesOn cfg.table :=
    List.mem_filter.mpr ⟨listed, decide_eq_true own⟩
  rw [empty.rules] at onTable
  cases onTable

end Packets

/-! ### Every run -/

theorem run_kept {cfg : Config} {kernel : Kernel} {inputs : List Input}
    (served : (kernel.linkByName cfg.iface).isSome = true)
    (orderly : Throughout (step cfg) (Orderly cfg) ⟨kernel, new⟩ inputs) :
    Kept cfg (run (step cfg) ⟨kernel, new⟩ inputs) := by
  apply run_invariant (step cfg) (Kept cfg) (Orderly cfg) _ _ _ _ orderly
  · intro host input allowed kept
    cases input with
    | call call => exact (kept.perform cfg allowed).1
    | change after => exact kept.change cfg allowed
  · refine ⟨served, nofun, nofun, nofun⟩

def sampleRule (table priority : Int) : Rule where
  table := table
  priority := priority
  src := none
  dst := none
  iifName := ""
  mark := 0

def sampleRouter : Kernel :=
  { sampleKernel (some (.v6 1)) with rules := [sampleRule 254 32766, sampleRule 255 0] }

def samplePacket (src dst : Addr) : Packet where
  src := src
  dst := dst
  iif := "br0"
  mark := 0

def sampleInside : Addr := .v6 0x20010db8000000000000000000000005#128
def sampleOutside : Addr := .v6 0x20010db8ffff00000000000000000001#128

def sampleCalls : List Input := [.call .start, .call (.install sampleNet)]

theorem sampleCalls_orderly :
    Throughout (step sampleRouted) (Orderly sampleRouted) ⟨sampleRouter, new⟩ sampleCalls :=
  throughout_of_check (step sampleRouted) (fun _ _ => orderly_of_test) (by decide +kernel)

instance (cfg : Config) (kernel : Kernel) (packet : Packet) : Decidable (Quiet cfg kernel packet) :=
  inferInstanceAs (Decidable (∀ rule ∈ kernel.rules, rule.table ≠ cfg.table →
    rule.priority ≤ cfg.rulePriority → rule.selects packet = true →
    kernel.lookup rule.table packet.dst = none))

/-- Right after `Install`, and after a turn of the mirror, a packet from the held prefix
to elsewhere goes to the gateway of a best default route of the uplink; without one it
is routed as if the table were not there. -/
theorem egress_follows_uplink (cfg : Config) (kernel : Kernel) (inputs : List Input)
    (served : (kernel.linkByName cfg.iface).isSome = true)
    (orderly : Throughout (step cfg) (Orderly cfg) ⟨kernel, new⟩ inputs) (call : Call)
    (allowed : Orderly cfg (run (step cfg) ⟨kernel, new⟩ inputs) (.call call))
    (syncs : Syncs cfg (run (step cfg) ⟨kernel, new⟩ inputs) call) (net : Prefix)
    (held : (perform cfg call (run (step cfg) ⟨kernel, new⟩ inputs)).routes.held = some net)
    (packet : Packet)
    (quiet : Quiet cfg (perform cfg call (run (step cfg) ⟨kernel, new⟩ inputs)).kernel packet)
    (source : net.contains packet.src = true) (outside : net.contains packet.dst = false) :
    let final := (perform cfg call (run (step cfg) ⟨kernel, new⟩ inputs)).kernel
    (∃ uplink origin, final.linkByName cfg.uplink = some uplink ∧ origin ∈ final.routes ∧
      ForeignDefault cfg uplink origin ∧
      (∀ other ∈ final.routes, ForeignDefault cfg uplink other → Precedes origin other) ∧
      ∃ route, final.resolve packet = some route ∧ route.linkIndex = uplink ∧
        route.gw = origin.gw) ∨
    ((∀ uplink, final.linkByName cfg.uplink = some uplink →
      ∀ origin ∈ final.routes, ¬ ForeignDefault cfg uplink origin) ∧
      final.resolve packet = (final.without cfg.table).resolve packet) := by
  obtain ⟨kept, correct⟩ := (run_kept served orderly).perform cfg allowed
  have begun := kept.begun (by rw [held]; rfl)
  have holds := kept.exact begun
  unfold Exact at holds
  rw [held] at holds
  have long := kept.long net held
  have follows := correct.default syncs
  intro final
  by_cases present : ∃ route ∈ final.routesOn cfg.table, route.isDefault = true
  · left
    obtain ⟨route, listed, default⟩ := present
    obtain ⟨uplink, link, ofUplink, origin, member, candidate, sameGateway, best⟩ :=
      follows.best route listed default
    refine ⟨uplink, origin, link, member, (mirrorable_iff cfg uplink origin).mp candidate, ?_,
      route, holds.resolve_default long quiet source outside listed default, ofUplink,
      sameGateway⟩
    intro other present foreign
    exact (precedes_iff origin other).mpr
      (best other present ((mirrorable_iff cfg uplink other).mpr foreign))
  · right
    have noDefault : ∀ route ∈ final.routesOn cfg.table, route.isDefault = false := by
      intro route listed
      cases default : route.isDefault with
      | false => rfl
      | true => exact absurd ⟨route, listed, default⟩ present
    refine ⟨?_, holds.resolve_without long outside (Or.inr noDefault)⟩
    intro uplink link origin member foreign
    have candidate := (mirrorable_iff cfg uplink origin).mpr foreign
    exact present (follows.present_iff.mpr ⟨uplink, link, origin, member, candidate⟩)

/-- The uplink has a default route through a gateway. -/
theorem egress_follows_uplink_gateway :
    let final := (perform sampleRouted .resync
      (run (step sampleRouted) ⟨sampleRouter, new⟩ sampleCalls)).kernel
    ∃ uplink origin, final.linkByName "up0" = some uplink ∧ origin ∈ final.routes ∧
      ForeignDefault sampleRouted uplink origin ∧
      ∃ route, final.resolve (samplePacket sampleInside sampleOutside) = some route ∧
        route.linkIndex = uplink ∧ route.gw = origin.gw := by
  have follows := egress_follows_uplink sampleRouted sampleRouter sampleCalls (by decide +kernel)
    sampleCalls_orderly .resync trivial ⟨by decide +kernel, by decide +kernel⟩ sampleNet
    (by decide +kernel) (samplePacket sampleInside sampleOutside) (by decide +kernel)
    (by decide +kernel) (by decide +kernel)
  rcases follows with ⟨uplink, origin, link, member, foreign, _, route⟩ | ⟨nothing, _⟩
  · exact ⟨uplink, origin, link, member, foreign, route⟩
  · have absent := nothing 2 (by decide +kernel) (sampleUplinkDefault (some (.v6 1)))
      (by decide +kernel)
    exact absurd ((mirrorable_iff _ _ _).mp (by decide +kernel)) absent

/-- In every reachable state of a started `Routes`, a packet that is neither from nor to
the held prefix is routed as if the table and its rules were not there, and so is every
packet when no prefix is held. -/
theorem other_traffic_untouched (cfg : Config) (kernel : Kernel) (inputs : List Input)
    (served : (kernel.linkByName cfg.iface).isSome = true)
    (orderly : Throughout (step cfg) (Orderly cfg) ⟨kernel, new⟩ inputs)
    (started : (run (step cfg) ⟨kernel, new⟩ inputs).routes.started = true) (packet : Packet)
    (foreign : ∀ net, (run (step cfg) ⟨kernel, new⟩ inputs).routes.held = some net →
      net.contains packet.src = false ∧ net.contains packet.dst = false) :
    (run (step cfg) ⟨kernel, new⟩ inputs).kernel.resolve packet =
      ((run (step cfg) ⟨kernel, new⟩ inputs).kernel.without cfg.table).resolve packet := by
  have kept := run_kept served orderly
  have contents := kept.exact started
  unfold Exact at contents
  cases held : (run (step cfg) ⟨kernel, new⟩ inputs).routes.held with
  | none =>
      rw [held] at contents
      exact Empty.resolve_without contents
  | some net =>
      rw [held] at contents
      obtain ⟨notFrom, notTo⟩ := foreign net held
      exact Holds.resolve_without contents (kept.long net held) notTo (Or.inl notFrom)

theorem other_traffic_untouched_host :
    (run (step sampleRouted) ⟨sampleRouter, new⟩ sampleCalls).kernel.resolve
        (samplePacket sampleOutside (.v6 1)) =
      ((run (step sampleRouted) ⟨sampleRouter, new⟩ sampleCalls).kernel.without 1000).resolve
        (samplePacket sampleOutside (.v6 1)) := by
  apply other_traffic_untouched sampleRouted sampleRouter sampleCalls (by decide +kernel)
    sampleCalls_orderly (by decide +kernel)
  intro net held
  have same : (run (step sampleRouted) ⟨sampleRouter, new⟩ sampleCalls).routes.held =
      some sampleNet := by decide +kernel
  rw [same] at held
  cases held
  decide +kernel

end BridgeDhcp.PdRoute
