/-
Policy routing of one delegated prefix.

A dedicated table holds the on-link route of the prefix and a default route mirrored
from the uplink, and two rules send the prefix's traffic there.  The table is the only
mark of ownership: whatever is on it at the start is wiped.  Each operation runs under
the lock of its `Routes`, so it is one function on the kernel and the `Routes`.
-/

import BridgeDhcp.Netlink.Kernel

set_option autoImplicit false

namespace BridgeDhcp.PdRoute

open Netip Netlink

def routeProto : Int := 213

/-- The mark on routes that the kernel learned from router advertisements. -/
def rtprotRA : Int := 9

/-- The routed-prefix mode is chosen by a table that is not zero. -/
structure Config where
  iface : String
  uplink : String
  table : Int
  rulePriority : Int
  tableSet : table ≠ 0
  deriving DecidableEq, Repr

inductive SysctlCall where
  | acquireAcceptRA (iface : String)
  | acquireForwarding (iface : String)
  | releaseForwarding (iface : String)
  | releaseAcceptRA (iface : String)
  deriving DecidableEq, Repr

structure Routes where
  started : Bool
  stopped : Bool
  /-- The prefix that is installed, if there is one. -/
  held : Option Prefix
  /-- The calls made to the sysctl registry, in order. -/
  sysctls : List SysctlCall
  deriving DecidableEq

def new : Routes where
  started := false
  stopped := false
  held := none
  sysctls := []

structure Host where
  kernel : Kernel
  routes : Routes
  deriving DecidableEq

section Operations

variable (cfg : Config)

/-! ### Rules -/

def ruleTo (src dst : Option Prefix) : Rule where
  table := cfg.table
  priority := cfg.rulePriority
  src := src
  dst := dst
  iifName := ""
  mark := 0

def fromRule (net : Prefix) : Rule := ruleTo cfg (some net.masked) none
def toRule (net : Prefix) : Rule := ruleTo cfg none (some net.masked)

def keptRule (keep : Option Prefix) (rule : Rule) : Bool :=
  match keep with
  | none => false
  | some net => rule.src = some net.masked || rule.dst = some net.masked

def wipeRulesLocked (keep : Option Prefix) (kernel : Kernel) : Kernel :=
  kernel.deleteRules cfg.table (fun rule => !keptRule keep rule)

/-! ### The table -/

def keptRoute (keep : Option Prefix) (route : Route) : Bool :=
  match keep with
  | none => false
  | some net => route.gw = none && route.dst = some net.masked

def flushTableExceptLocked (keep : Option Prefix) (kernel : Kernel) : Kernel :=
  kernel.deleteRoutes cfg.table (fun route => !keptRoute keep route)

def flushTableLocked (kernel : Kernel) : Kernel := flushTableExceptLocked cfg none kernel

/-! ### The mirrored default route -/

def betterDefault (first second : Route) : Bool :=
  if decide (first.protocol = rtprotRA) ≠ decide (second.protocol = rtprotRA) then
    first.protocol = rtprotRA
  else first.priority < second.priority

def mirrorable (uplink : Int) (route : Route) : Bool :=
  !(route.table = cfg.table || route.protocol = routeProto) &&
    !(route.linkIndex ≠ uplink || route.gw = none || !route.isDefault)

def considerDefault (uplink : Int) (best : Option Route) (route : Route) : Option Route :=
  if mirrorable cfg uplink route then
    match best with
    | none => some route
    | some current => if betterDefault route current then some route else some current
  else best

def bestDefault (uplink : Int) (routes : List Route) : Option Route :=
  routes.foldl (considerDefault cfg uplink) none

def removeDefaultLocked (kernel : Kernel) : Kernel :=
  kernel.deleteRoutes cfg.table (fun route => route.gw.isSome && route.isDefault)

def mirrorRoute (uplink : Int) (gw : Option Addr) : Route where
  table := cfg.table
  dst := some { addr := .v6 0, bits := 0, addrValid := rfl, bitsFit := Nat.zero_le _ }
  gw := gw
  linkIndex := uplink
  protocol := routeProto
  priority := 1024

/-- `RouteReplace` where the error is logged and nothing else. -/
def replaceRoute (route : Route) (kernel : Kernel) : Kernel :=
  (kernel.routeReplace route).getD kernel

/-- The part of `syncDefaultLocked` for a held prefix. -/
def syncDefaultLocked (kernel : Kernel) : Kernel :=
  match kernel.linkByName cfg.uplink with
  | none => removeDefaultLocked cfg kernel
  | some uplink =>
      match bestDefault cfg uplink (kernel.routeList 0) with
      | none => removeDefaultLocked cfg kernel
      | some best => replaceRoute (mirrorRoute cfg uplink best.gw) kernel

/-! ### Operations -/

def ensureStartedLocked (host : Host) : Host :=
  if host.routes.started = true ∨ host.routes.stopped = true then host
  else
    { kernel := flushTableLocked cfg (wipeRulesLocked cfg none host.kernel)
      routes :=
        { host.routes with
          started := true
          sysctls := host.routes.sysctls ++
            [.acquireAcceptRA cfg.uplink, .acquireForwarding cfg.uplink,
              .acquireForwarding cfg.iface] } }

def start (host : Host) : Host := ensureStartedLocked cfg host

def subnetRoute (index : Int) (net : Prefix) : Route where
  table := cfg.table
  dst := some net.masked
  gw := none
  linkIndex := index
  protocol := routeProto
  priority := 0

/-- What `Install` does once the served link is found, up to the default route. -/
def plumb (index : Int) (net : Prefix) (kernel : Kernel) : Kernel :=
  let routed := replaceRoute (subnetRoute cfg index net) kernel
  let ruled := (routed.ruleAdd (fromRule cfg net)).ruleAdd (toRule cfg net)
  let wiped := wipeRulesLocked cfg (some net) ruled
  flushTableExceptLocked cfg (some net) wiped

def install (net : Prefix) (host : Host) : Host :=
  if host.routes.stopped = true then host
  else
    let begun := ensureStartedLocked cfg host
    { kernel :=
        match begun.kernel.linkByName cfg.iface with
        | none => begun.kernel
        | some index => syncDefaultLocked cfg (plumb cfg index net begun.kernel)
      routes := { begun.routes with held := some net } }

def clearLocked (host : Host) : Host :=
  if host.routes.held = none ∧ host.routes.started = false then host
  else
    { kernel := flushTableLocked cfg (wipeRulesLocked cfg none host.kernel)
      routes := { host.routes with held := none } }

def clear (host : Host) : Host := clearLocked cfg host

def stop (host : Host) : Host :=
  if host.routes.stopped = true then host
  else
    let cleared := clearLocked cfg { host with routes := { host.routes with stopped := true } }
    if cleared.routes.started = true then
      { cleared with
        routes :=
          { cleared.routes with
            sysctls := cleared.routes.sysctls ++
              [.releaseForwarding cfg.iface, .releaseForwarding cfg.uplink,
                .releaseAcceptRA cfg.uplink] } }
    else cleared

/-- One turn of `mirrorLoop`. -/
def resync (host : Host) : Host :=
  if host.routes.held.isSome = true then
    { host with kernel := syncDefaultLocked cfg host.kernel }
  else host

end Operations

inductive Call where
  | start
  | install (net : Prefix)
  | clear
  | stop
  | resync
  deriving DecidableEq

def perform (cfg : Config) : Call → Host → Host
  | .start => start cfg
  | .install net => install cfg net
  | .clear => clear cfg
  | .stop => stop cfg
  | .resync => resync cfg

/-! ### What all operations have in common -/

open Kernel

theorem replaceRoute_of_up {kernel : Kernel} {route : Route}
    (up : kernel.isUp route.linkIndex = true) :
    replaceRoute route kernel = kernel.storeRoute route := by
  unfold replaceRoute routeReplace
  rw [if_pos up]
  rfl

theorem replaceRoute_of_down {kernel : Kernel} {route : Route}
    (down : kernel.isUp route.linkIndex = false) : replaceRoute route kernel = kernel := by
  unfold replaceRoute routeReplace
  rw [down]
  rfl

/-- A relation between the kernel before and after that every change made for one
bridge satisfies. -/
structure Respects (cfg : Config) (Related : Kernel → Kernel → Prop) : Prop where
  refl : ∀ kernel, Related kernel kernel
  trans : ∀ {first second third}, Related first second → Related second third →
    Related first third
  ruleAdd : ∀ kernel rule, rule.table = cfg.table → Related kernel (kernel.ruleAdd rule)
  deleteRules : ∀ kernel deletes, Related kernel (kernel.deleteRules cfg.table deletes)
  deleteRoutes : ∀ kernel deletes, Related kernel (kernel.deleteRoutes cfg.table deletes)
  storeRoute : ∀ kernel route, route.table = cfg.table → route.protocol = routeProto →
    Related kernel (kernel.storeRoute route)

namespace Respects

variable {cfg : Config} {Related : Kernel → Kernel → Prop} (respects : Respects cfg Related)

include respects

theorem wipeAll (kernel : Kernel) :
    Related kernel (flushTableLocked cfg (wipeRulesLocked cfg none kernel)) :=
  respects.trans (respects.deleteRules kernel _) (respects.deleteRoutes _ _)

theorem replaceRoute (kernel : Kernel) {route : Route} (own : route.table = cfg.table)
    (marked : route.protocol = routeProto) :
    Related kernel (PdRoute.replaceRoute route kernel) := by
  cases state : kernel.isUp route.linkIndex with
  | true =>
      rw [replaceRoute_of_up state]
      exact respects.storeRoute kernel route own marked
  | false =>
      rw [replaceRoute_of_down state]
      exact respects.refl kernel

theorem syncDefault (kernel : Kernel) : Related kernel (syncDefaultLocked cfg kernel) := by
  unfold syncDefaultLocked
  split
  · exact respects.deleteRoutes kernel _
  · split
    · exact respects.deleteRoutes kernel _
    · exact respects.replaceRoute kernel rfl rfl

theorem plumb (kernel : Kernel) (index : Int) (net : Prefix) :
    Related kernel (PdRoute.plumb cfg index net kernel) := by
  have routed : Related kernel (PdRoute.replaceRoute (subnetRoute cfg index net) kernel) :=
    respects.replaceRoute kernel rfl rfl
  have first := respects.trans routed (respects.ruleAdd _ (fromRule cfg net) rfl)
  have second := respects.trans first (respects.ruleAdd _ (toRule cfg net) rfl)
  have wiped := respects.trans second
    (respects.deleteRules _ (fun rule => !keptRule (some net) rule))
  exact respects.trans wiped (respects.deleteRoutes _ _)

theorem ensureStarted (host : Host) :
    Related host.kernel (ensureStartedLocked cfg host).kernel := by
  unfold ensureStartedLocked
  split
  · exact respects.refl host.kernel
  · exact respects.wipeAll host.kernel

theorem clear (host : Host) : Related host.kernel (clearLocked cfg host).kernel := by
  unfold clearLocked
  split
  · exact respects.refl host.kernel
  · exact respects.wipeAll host.kernel

theorem perform (call : Call) (host : Host) :
    Related host.kernel (PdRoute.perform cfg call host).kernel := by
  cases call with
  | start => exact respects.ensureStarted host
  | install net =>
      simp only [PdRoute.perform, install]
      split
      · exact respects.refl host.kernel
      · refine respects.trans (respects.ensureStarted host) ?_
        dsimp only
        split
        · exact respects.refl _
        · exact respects.trans (respects.plumb _ _ net) (respects.syncDefault _)
  | clear => exact respects.clear host
  | stop =>
      simp only [PdRoute.perform, stop]
      split
      · exact respects.refl host.kernel
      · have cleared := respects.clear
          { host with routes := { host.routes with stopped := true } }
        split
        · exact cleared
        · exact cleared
  | resync =>
      simp only [PdRoute.perform, resync]
      split
      · exact respects.syncDefault host.kernel
      · exact respects.refl host.kernel

end Respects

theorem respects_sameOutside (cfg : Config) : Respects cfg (SameOutside cfg.table) where
  refl := SameOutside.refl
  trans := SameOutside.trans
  ruleAdd kernel rule own := own ▸ sameOutside_ruleAdd kernel rule
  deleteRules kernel deletes := sameOutside_deleteRules kernel cfg.table deletes
  deleteRoutes kernel deletes := sameOutside_deleteRoutes kernel cfg.table cfg.tableSet deletes
  storeRoute kernel route own _ := own ▸ sameOutside_storeRoute kernel route

/-! ### The best default route -/

theorem betterDefault_asymm {first second : Route} (better : betterDefault first second = true) :
    betterDefault second first = false := by
  unfold betterDefault at *
  by_cases one : first.protocol = rtprotRA <;> by_cases two : second.protocol = rtprotRA <;>
    simp_all <;> omega

theorem not_betterDefault_trans {first second third : Route}
    (one : betterDefault first second = false) (two : betterDefault second third = false) :
    betterDefault first third = false := by
  unfold betterDefault at *
  by_cases a : first.protocol = rtprotRA <;> by_cases b : second.protocol = rtprotRA <;>
    by_cases c : third.protocol = rtprotRA <;> simp_all <;> omega

section Best

variable (cfg : Config) (uplink : Int)

def AtLeast (best : Option Route) (route : Route) : Prop :=
  ∃ chosen, best = some chosen ∧ betterDefault route chosen = false

theorem considerDefault_atLeast_self {route : Route} (candidate : mirrorable cfg uplink route = true)
    (best : Option Route) : AtLeast (considerDefault cfg uplink best route) route := by
  unfold considerDefault
  rw [if_pos candidate]
  cases best with
  | none => exact ⟨route, rfl, by simp [betterDefault]⟩
  | some current =>
      by_cases better : betterDefault route current = true
      · exact ⟨route, by simp [better], by simp [betterDefault]⟩
      · exact ⟨current, by simp [better], eq_false_of_ne_true better⟩

theorem AtLeast.considerDefault {best : Option Route} {route : Route} (atLeast : AtLeast best route)
    (next : Route) : AtLeast (considerDefault cfg uplink best next) route := by
  obtain ⟨current, isBest, notBetter⟩ := atLeast
  unfold PdRoute.considerDefault
  rw [isBest]
  by_cases candidate : mirrorable cfg uplink next = true
  · by_cases better : betterDefault next current = true
    · refine ⟨next, by simp [candidate, better], ?_⟩
      exact not_betterDefault_trans notBetter (betterDefault_asymm better)
    · exact ⟨current, by simp [candidate, better], notBetter⟩
  · exact ⟨current, by simp [candidate], notBetter⟩

theorem AtLeast.foldl {best : Option Route} {route : Route} (atLeast : AtLeast best route)
    (routes : List Route) : AtLeast (routes.foldl (PdRoute.considerDefault cfg uplink) best) route := by
  induction routes generalizing best with
  | nil => exact atLeast
  | cons head tail ih => exact ih (atLeast.considerDefault cfg uplink head)

theorem foldl_considerDefault_atLeast {routes : List Route} {route : Route}
    (member : route ∈ routes) (candidate : mirrorable cfg uplink route = true)
    (best : Option Route) : AtLeast (routes.foldl (considerDefault cfg uplink) best) route := by
  induction routes generalizing best with
  | nil => cases member
  | cons head tail ih =>
      rcases List.mem_cons.mp member with same | later
      · subst same
        exact (considerDefault_atLeast_self cfg uplink candidate best).foldl cfg uplink tail
      · exact ih later _

theorem foldl_considerDefault_origin {routes : List Route} {best : Option Route} {chosen : Route}
    (found : routes.foldl (considerDefault cfg uplink) best = some chosen) :
    best = some chosen ∨ (chosen ∈ routes ∧ mirrorable cfg uplink chosen = true) := by
  induction routes generalizing best with
  | nil => exact Or.inl found
  | cons head tail ih =>
      rcases ih found with before | ⟨member, candidate⟩
      · unfold considerDefault at before
        by_cases candidate : mirrorable cfg uplink head = true
        · rw [if_pos candidate] at before
          have isHead : head = chosen ∨ best = some chosen := by
            cases best with
            | none => exact Or.inl (Option.some.inj before)
            | some current =>
                by_cases better : betterDefault head current = true
                · simp only [better, if_true] at before
                  exact Or.inl (Option.some.inj before)
                · simp only [better] at before
                  exact Or.inr before
          rcases isHead with same | old
          · subst same
            exact Or.inr ⟨List.mem_cons_self, candidate⟩
          · exact Or.inl old
        · rw [if_neg candidate] at before
          exact Or.inl before
      · exact Or.inr ⟨List.mem_cons_of_mem head member, candidate⟩

theorem bestDefault_spec (routes : List Route) :
    (∀ chosen, bestDefault cfg uplink routes = some chosen →
      chosen ∈ routes ∧ mirrorable cfg uplink chosen = true ∧
        ∀ route ∈ routes, mirrorable cfg uplink route = true →
          betterDefault route chosen = false) ∧
    (bestDefault cfg uplink routes = none ↔
      ∀ route ∈ routes, mirrorable cfg uplink route = false) := by
  constructor
  · intro chosen found
    rcases foldl_considerDefault_origin cfg uplink found with impossible | ⟨member, candidate⟩
    · cases impossible
    · refine ⟨member, candidate, ?_⟩
      intro route present passes
      obtain ⟨other, same, notBetter⟩ :=
        foldl_considerDefault_atLeast cfg uplink present passes none
      unfold bestDefault at found
      rw [found] at same
      cases same
      exact notBetter
  · constructor
    · intro nothing route present
      by_contra passes
      obtain ⟨chosen, found, _⟩ := foldl_considerDefault_atLeast cfg uplink present
        (Bool.not_eq_false _ ▸ passes) none
      unfold bestDefault at nothing
      rw [nothing] at found
      cases found
    · intro none
      cases found : bestDefault cfg uplink routes with
      | none => rfl
      | some chosen =>
          rcases foldl_considerDefault_origin cfg uplink found with impossible | ⟨member, candidate⟩
          · cases impossible
          · rw [none chosen member] at candidate
            cases candidate

/-! The choice in its own terms. -/

/-- A default route of the uplink with a gateway that no bridge has put there. -/
structure ForeignDefault (route : Route) : Prop where
  elsewhere : route.table ≠ cfg.table
  unmarked : route.protocol ≠ routeProto
  ofUplink : route.linkIndex = uplink
  gateway : ∃ gw, route.gw = some gw
  default : route.isDefault = true

/-- Routes learned from router advertisements come first, then those of lower metric. -/
def Precedes (first second : Route) : Prop :=
  (second.protocol = rtprotRA → first.protocol = rtprotRA) ∧
    ((first.protocol = rtprotRA ↔ second.protocol = rtprotRA) → first.priority ≤ second.priority)

theorem mirrorable_iff (route : Route) :
    mirrorable cfg uplink route = true ↔ ForeignDefault cfg uplink route := by
  have fields : ForeignDefault cfg uplink route ↔ route.table ≠ cfg.table ∧
      route.protocol ≠ routeProto ∧ route.linkIndex = uplink ∧ (∃ gw, route.gw = some gw) ∧
      route.isDefault = true :=
    ⟨fun ⟨a, b, c, d, e⟩ => ⟨a, b, c, d, e⟩, fun ⟨a, b, c, d, e⟩ => ⟨a, b, c, d, e⟩⟩
  rw [fields, ← Option.ne_none_iff_exists']
  simp [mirrorable, and_assoc]

theorem precedes_iff (first second : Route) :
    Precedes first second ↔ betterDefault second first = false := by
  unfold Precedes betterDefault
  by_cases one : first.protocol = rtprotRA <;> by_cases two : second.protocol = rtprotRA <;>
    simp [one, two]

/-- The route whose gateway is mirrored precedes all that could be. -/
theorem bestDefault_precedes {routes : List Route} {chosen : Route}
    (found : bestDefault cfg uplink routes = some chosen) :
    chosen ∈ routes ∧ ForeignDefault cfg uplink chosen ∧
      ∀ route ∈ routes, ForeignDefault cfg uplink route → Precedes chosen route := by
  obtain ⟨member, candidate, best⟩ := (bestDefault_spec cfg uplink routes).1 chosen found
  refine ⟨member, (mirrorable_iff cfg uplink chosen).mp candidate, ?_⟩
  intro route listed foreign
  exact (precedes_iff chosen route).mpr
    (best route listed ((mirrorable_iff cfg uplink route).mpr foreign))

end Best

end BridgeDhcp.PdRoute
