/-
The table of a delegated prefix holds what the prefix needs and nothing else.

Whatever was on the table and pointed at it before the start is wiped.  From then on
an operation leaves the rule pair of the held prefix, its on-link route and at most
one mirrored default route there, or nothing if no prefix is held.
-/

import BridgeDhcp.PdRoute.Routes
import BridgeDhcp.StepRun

set_option autoImplicit false

namespace BridgeDhcp.PdRoute

open Netip Netlink StepRun Kernel

section Contents

variable (cfg : Config)

def storedSubnet (index : Int) (net : Prefix) : Route :=
  { subnetRoute cfg index net with priority := 1024 }

def IsMirror (route : Route) : Prop := ∃ uplink gw, route = mirrorRoute cfg uplink (some gw)

/-- The rule pair, the on-link route and at most one mirrored default route. -/
structure Holds (kernel : Kernel) (net : Prefix) : Prop where
  rules : (kernel.rulesOn cfg.table).Perm [fromRule cfg net, toRule cfg net]
  routes : ∃ index mirrors, kernel.linkByName cfg.iface = some index ∧ mirrors.length ≤ 1 ∧
    (∀ route ∈ mirrors, IsMirror cfg route) ∧
    (kernel.routesOn cfg.table).Perm (storedSubnet cfg index net :: mirrors)

structure Empty (kernel : Kernel) : Prop where
  rules : kernel.rulesOn cfg.table = []
  routes : kernel.routesOn cfg.table = []

/-- The table and the rules that point at it are what the held prefix implies. -/
def Exact (host : Host) : Prop :=
  match host.routes.held with
  | none => Empty cfg host.kernel
  | some net => Holds cfg host.kernel net

/-- The table has a default route exactly if the uplink has one with a gateway, and
then it goes through the gateway of a best one. -/
structure DefaultFollows (kernel : Kernel) : Prop where
  present_iff : (∃ route ∈ kernel.routesOn cfg.table, route.isDefault = true) ↔
    ∃ uplink, kernel.linkByName cfg.uplink = some uplink ∧
      ∃ route ∈ kernel.routes, mirrorable cfg uplink route = true
  best : ∀ route ∈ kernel.routesOn cfg.table, route.isDefault = true →
    ∃ uplink, kernel.linkByName cfg.uplink = some uplink ∧ route.linkIndex = uplink ∧
      ∃ source ∈ kernel.routes, mirrorable cfg uplink source = true ∧ route.gw = source.gw ∧
        ∀ other ∈ kernel.routes, mirrorable cfg uplink other = true →
          betterDefault other source = false

/-- `RouteReplace` can put a route on the link of that name. -/
def LinkUp (kernel : Kernel) (name : String) : Prop :=
  ∀ index ∈ kernel.linkByName name, kernel.isUp index = true

instance (kernel : Kernel) (name : String) : Decidable (LinkUp kernel name) :=
  inferInstanceAs (Decidable (∀ index ∈ kernel.linkByName name, kernel.isUp index = true))

/-- The uplink is up if it has a default route to mirror. -/
def MirrorSucceeds (kernel : Kernel) : Prop :=
  ∀ uplink ∈ kernel.linkByName cfg.uplink,
    ∀ route ∈ kernel.routes, mirrorable cfg uplink route = true → kernel.isUp uplink = true

instance (kernel : Kernel) : Decidable (MirrorSucceeds cfg kernel) :=
  inferInstanceAs (Decidable (∀ uplink ∈ kernel.linkByName cfg.uplink, ∀ route ∈ kernel.routes,
    mirrorable cfg uplink route = true → kernel.isUp uplink = true))

/-- The operation reaches `syncDefaultLocked` with a held prefix, where `RouteReplace`
succeeds. -/
def Syncs (host : Host) : Call → Prop
  | .install _ => host.routes.stopped = false ∧ MirrorSucceeds cfg host.kernel
  | .resync => host.routes.held.isSome = true ∧ MirrorSucceeds cfg host.kernel
  | _ => False

structure Correct (host : Host) (call : Call) : Prop where
  exact : (perform cfg call host).routes.started = true → Exact cfg (perform cfg call host)
  default : Syncs cfg host call → DefaultFollows cfg (perform cfg call host).kernel
  others : SameOutside cfg.table host.kernel (perform cfg call host).kernel

/-! ### Runs -/

inductive Input where
  | call (call : Call)
  /-- Others change the kernel's state. -/
  | change (after : Kernel)

def step (host : Host) : Input → Host
  | .call call => perform cfg call host
  | .change after => { host with kernel := after }

/-- Others leave the table, the rules pointing at it and the served link alone, but a
mirrored default route may go with the uplink. -/
structure LeavesTable (before after : Kernel) : Prop where
  rules : after.rulesOn cfg.table = before.rulesOn cfg.table
  routes : after.routesOn cfg.table = before.routesOn cfg.table ∨
    after.routesOn cfg.table = (before.routesOn cfg.table).filter (fun route => !route.isDefault)
  link : after.linkByName cfg.iface = before.linkByName cfg.iface

instance (before after : Kernel) : Decidable (LeavesTable cfg before after) :=
  decidable_of_iff
    (after.rulesOn cfg.table = before.rulesOn cfg.table ∧
      (after.routesOn cfg.table = before.routesOn cfg.table ∨ after.routesOn cfg.table =
        (before.routesOn cfg.table).filter (fun route => !route.isDefault)) ∧
      after.linkByName cfg.iface = before.linkByName cfg.iface)
    ⟨fun ⟨rules, routes, link⟩ => ⟨rules, routes, link⟩,
      fun leaves => ⟨leaves.rules, leaves.routes, leaves.link⟩⟩

theorem leavesTable_addrAdd (kernel : Kernel) (index : Int) (net : Prefix) :
    LeavesTable cfg kernel (kernel.addrAdd index net) := by
  unfold addrAdd
  split <;> exact ⟨rfl, Or.inl rfl, rfl⟩

/-- The prefixes are those of a delegation, and `Install` can put the on-link route on the
served link. -/
def Orderly (host : Host) : Input → Prop
  | .call (.install net) =>
      net.addr.is6 = true ∧ 1 ≤ net.bits ∧ LinkUp host.kernel cfg.iface
  | .call _ => True
  | .change after => LeavesTable cfg host.kernel after

/-! ### Wiping -/

theorem empty_wipeAll (kernel : Kernel) :
    Empty cfg (flushTableLocked cfg (wipeRulesLocked cfg none kernel)) := by
  constructor
  · unfold flushTableLocked flushTableExceptLocked
    rw [rulesOn_deleteRoutes _ _ cfg.tableSet]
    unfold wipeRulesLocked
    rw [rulesOn_deleteRules]
    simp [keptRule]
  · unfold flushTableLocked flushTableExceptLocked
    rw [routesOn_deleteRoutes _ _ cfg.tableSet]
    simp [keptRoute]

/-! ### The rule pair -/

def RulesOfOne (kernel : Kernel) : Prop :=
  (kernel.rulesOn cfg.table).Nodup ∧
    ∃ net, ∀ rule ∈ kernel.rulesOn cfg.table, rule = fromRule cfg net ∨ rule = toRule cfg net

theorem fromRule_ne_toRule (first second : Prefix) : fromRule cfg first ≠ toRule cfg second := by
  intro same
  have sources := congrArg Rule.src same
  cases sources

theorem nodup_pair (net : Prefix) : [fromRule cfg net, toRule cfg net].Nodup := by
  simp [fromRule_ne_toRule]

theorem keptRule_own {net other : Prefix} {rule : Rule}
    (own : rule = fromRule cfg other ∨ rule = toRule cfg other)
    (kept : keptRule (some net) rule = true) : rule = fromRule cfg net ∨ rule = toRule cfg net := by
  rcases own with isFrom | isTo
  · subst isFrom
    have same : other.masked = net.masked := by
      simpa [keptRule, fromRule, ruleTo] using kept
    exact Or.inl (by simp [fromRule, same])
  · subst isTo
    have same : other.masked = net.masked := by
      simpa [keptRule, toRule, ruleTo] using kept
    exact Or.inr (by simp [toRule, same])

theorem rules_replaced {kernel : Kernel} (before : RulesOfOne cfg kernel) (net : Prefix) :
    ((wipeRulesLocked cfg (some net)
      ((kernel.ruleAdd (fromRule cfg net)).ruleAdd (toRule cfg net))).rulesOn cfg.table).Perm
      [fromRule cfg net, toRule cfg net] := by
  obtain ⟨distinct, old, ofOld⟩ := before
  have first := nodup_rulesOn_ruleAdd kernel (fromRule cfg net) distinct
  have second := nodup_rulesOn_ruleAdd (kernel.ruleAdd (fromRule cfg net)) (toRule cfg net) first
  have membership : ∀ rule, rule ∈ ((kernel.ruleAdd (fromRule cfg net)).ruleAdd
      (toRule cfg net)).rulesOn cfg.table ↔
      (rule ∈ kernel.rulesOn cfg.table ∨ rule = fromRule cfg net) ∨ rule = toRule cfg net := by
    intro rule
    refine (mem_rulesOn_ruleAdd _ (toRule cfg net) rule).trans ?_
    exact or_congr_left (mem_rulesOn_ruleAdd kernel (fromRule cfg net) rule)
  unfold wipeRulesLocked
  rw [rulesOn_deleteRules]
  refine (List.perm_ext_iff_of_nodup (second.filter _) (nodup_pair cfg net)).mpr ?_
  intro rule
  rw [List.mem_filter, Bool.not_not, List.mem_cons, List.mem_singleton]
  constructor
  · rintro ⟨member, kept⟩
    rcases (membership rule).mp member with (held | isFrom) | isTo
    · exact keptRule_own cfg (ofOld rule held) kept
    · exact Or.inl isFrom
    · exact Or.inr isTo
  · rintro (isFrom | isTo)
    · subst isFrom
      exact ⟨(membership _).mpr (Or.inl (Or.inr rfl)), by simp [keptRule, fromRule, ruleTo]⟩
    · subst isTo
      exact ⟨(membership _).mpr (Or.inr rfl), by simp [keptRule, toRule, ruleTo]⟩

/-! ### The on-link route -/

def RoutesOfOne (kernel : Kernel) : Prop :=
  ∀ route ∈ kernel.routesOn cfg.table,
    (∃ index net, route = storedSubnet cfg index net) ∨ IsMirror cfg route

theorem routes_replaced {kernel : Kernel} (before : RoutesOfOne cfg kernel) (index : Int)
    (net : Prefix) (ruled : Kernel)
    (same : ruled.routesOn cfg.table =
      (kernel.storeRoute (subnetRoute cfg index net)).routesOn cfg.table) :
    (flushTableExceptLocked cfg (some net) ruled).routesOn cfg.table =
      [storedSubnet cfg index net] := by
  unfold flushTableExceptLocked
  rw [routesOn_deleteRoutes _ _ cfg.tableSet, same]
  have replaced := routesOn_storeRoute kernel (subnetRoute cfg index net)
  change (kernel.storeRoute (subnetRoute cfg index net)).routesOn cfg.table =
    storedSubnet cfg index net :: (kernel.routesOn cfg.table).filter
      (fun other => !other.sameSlot (subnetRoute cfg index net)) at replaced
  rw [replaced, List.filter_cons_of_pos (by simp [keptRoute, storedSubnet, subnetRoute])]
  congr 1
  rw [List.filter_filter, List.filter_eq_nil_iff]
  intro route member
  rcases before route member with ⟨other, old, isSubnet⟩ | ⟨uplink, gw, isMirror⟩
  · subst isSubnet
    -- A route of the same destination is in the slot of the new one.
    by_cases here : old.masked = net.masked
    · simp [Route.sameSlot, storedSubnet, subnetRoute, Route.metric, here]
    · simp [keptRoute, storedSubnet, subnetRoute, here]
  · subst isMirror
    simp [keptRoute, mirrorRoute]

/-! ### The mirrored default route -/

theorem storedSubnet_not_default (index : Int) {net : Prefix} (long : 1 ≤ net.bits) :
    (storedSubnet cfg index net).isDefault = false := by
  have masked : net.masked.bits = net.bits := rfl
  simp [storedSubnet, subnetRoute, Route.isDefault, masked]
  omega

theorem mirrorRoute_default (uplink : Int) (gw : Option Addr) :
    (mirrorRoute cfg uplink gw).isDefault = true := by
  simp [mirrorRoute, Route.isDefault]

theorem removeDefault_routes {kernel : Kernel} {index : Int} {net : Prefix} {mirrors : List Route}
    (areMirrors : ∀ route ∈ mirrors, IsMirror cfg route)
    (before : (kernel.routesOn cfg.table).Perm (storedSubnet cfg index net :: mirrors)) :
    ((removeDefaultLocked cfg kernel).routesOn cfg.table).Perm [storedSubnet cfg index net] := by
  unfold removeDefaultLocked
  rw [routesOn_deleteRoutes _ _ cfg.tableSet]
  refine (before.filter _).trans ?_
  rw [List.filter_cons_of_pos (by simp [storedSubnet, subnetRoute])]
  have none : mirrors.filter (fun route => !(route.gw.isSome && route.isDefault)) = [] := by
    rw [List.filter_eq_nil_iff]
    intro route member
    obtain ⟨uplink, gw, same⟩ := areMirrors route member
    subst same
    have through : (mirrorRoute cfg uplink (some gw)).gw.isSome = true := rfl
    simp [through, mirrorRoute_default]
  rw [none]

theorem replaceDefault_routes {kernel : Kernel} {index : Int} {net : Prefix} {mirrors : List Route}
    (long : 1 ≤ net.bits) (areMirrors : ∀ route ∈ mirrors, IsMirror cfg route)
    (before : (kernel.routesOn cfg.table).Perm (storedSubnet cfg index net :: mirrors))
    (uplink : Int) (gw : Option Addr) :
    ((kernel.storeRoute (mirrorRoute cfg uplink gw)).routesOn cfg.table).Perm
      [storedSubnet cfg index net, mirrorRoute cfg uplink gw] := by
  have replaced := routesOn_storeRoute kernel (mirrorRoute cfg uplink gw)
  change (kernel.storeRoute (mirrorRoute cfg uplink gw)).routesOn cfg.table =
    mirrorRoute cfg uplink gw :: (kernel.routesOn cfg.table).filter
      (fun other => !other.sameSlot (mirrorRoute cfg uplink gw)) at replaced
  rw [replaced]
  have subnetStays : (storedSubnet cfg index net).sameSlot (mirrorRoute cfg uplink gw) = false := by
    have notDefault := storedSubnet_not_default cfg index long
    have different : (storedSubnet cfg index net).dst ≠ (mirrorRoute cfg uplink gw).dst := by
      intro same
      have lengths := congrArg (fun dst => dst.map Prefix.bits) same
      have zero : net.bits = 0 := Option.some.inj lengths
      omega
    simp [Route.sameSlot, notDefault, different]
  have mirrorsGo : mirrors.filter (fun other => !other.sameSlot (mirrorRoute cfg uplink gw)) = [] := by
    rw [List.filter_eq_nil_iff]
    intro route member
    obtain ⟨old, oldGw, same⟩ := areMirrors route member
    subst same
    simp [Route.sameSlot, mirrorRoute_default]
    simp [mirrorRoute, Route.metric]
  have rest := before.filter (fun other => !other.sameSlot (mirrorRoute cfg uplink gw))
  rw [List.filter_cons_of_pos (by simp [subnetStays]), mirrorsGo] at rest
  exact (rest.cons _).trans (List.Perm.swap _ _ _)

theorem rulesOn_replaceRoute (route : Route) (kernel : Kernel) (table : Int) :
    (replaceRoute route kernel).rulesOn table = kernel.rulesOn table := by
  cases state : kernel.isUp route.linkIndex with
  | true => rw [replaceRoute_of_up state, rulesOn_storeRoute]
  | false => rw [replaceRoute_of_down state]

theorem rulesOn_syncDefault (kernel : Kernel) :
    (syncDefaultLocked cfg kernel).rulesOn cfg.table = kernel.rulesOn cfg.table := by
  unfold syncDefaultLocked removeDefaultLocked
  split
  · rw [rulesOn_deleteRoutes _ _ cfg.tableSet]
  · split
    · rw [rulesOn_deleteRoutes _ _ cfg.tableSet]
    · rw [rulesOn_replaceRoute]

structure Best (kernel : Kernel) (uplink : Int) (source : Route) : Prop where
  link : kernel.linkByName cfg.uplink = some uplink
  member : source ∈ kernel.routes
  candidate : mirrorable cfg uplink source = true
  best : ∀ other ∈ kernel.routes, mirrorable cfg uplink other = true →
    betterDefault other source = false

def NoSource (kernel : Kernel) : Prop :=
  ∀ uplink, kernel.linkByName cfg.uplink = some uplink →
    ∀ route ∈ kernel.routes, mirrorable cfg uplink route = false

theorem syncDefault_routes {kernel : Kernel} {index : Int} {net : Prefix} {mirrors : List Route}
    (long : 1 ≤ net.bits) (areMirrors : ∀ route ∈ mirrors, IsMirror cfg route)
    (before : (kernel.routesOn cfg.table).Perm (storedSubnet cfg index net :: mirrors)) :
    (NoSource cfg kernel ∧
      ((syncDefaultLocked cfg kernel).routesOn cfg.table).Perm [storedSubnet cfg index net]) ∨
    ∃ uplink source, Best cfg kernel uplink source ∧
      (kernel.isUp uplink = true ∧ ((syncDefaultLocked cfg kernel).routesOn cfg.table).Perm
          [storedSubnet cfg index net, mirrorRoute cfg uplink source.gw] ∨
        kernel.isUp uplink = false ∧ syncDefaultLocked cfg kernel = kernel) := by
  unfold syncDefaultLocked
  cases link : kernel.linkByName cfg.uplink with
  | none =>
      refine Or.inl ⟨?_, removeDefault_routes cfg areMirrors before⟩
      intro uplink found
      rw [link] at found
      cases found
  | some uplink =>
      obtain ⟨chosen, nothing⟩ := bestDefault_spec cfg uplink kernel.routes
      have listed : kernel.routeList 0 = kernel.routes := if_pos rfl
      dsimp only
      rw [listed]
      cases found : bestDefault cfg uplink kernel.routes with
      | none =>
          refine Or.inl ⟨?_, removeDefault_routes cfg areMirrors before⟩
          intro other sameLink
          rw [link] at sameLink
          cases sameLink
          exact nothing.mp found
      | some source =>
          obtain ⟨member, candidate, best⟩ := chosen source found
          refine Or.inr ⟨uplink, source, ⟨link, member, candidate, best⟩, ?_⟩
          dsimp only
          cases state : kernel.isUp uplink with
          | true =>
              rw [replaceRoute_of_up state]
              exact Or.inl ⟨rfl, replaceDefault_routes cfg long areMirrors before uplink source.gw⟩
          | false => exact Or.inr ⟨rfl, replaceRoute_of_down state⟩

theorem candidates_same {before after : Kernel} (same : SameOutside cfg.table before after)
    {uplink : Int} {route : Route} (candidate : mirrorable cfg uplink route = true) :
    route ∈ after.routes ↔ route ∈ before.routes :=
  same.mem_routes_iff ((mirrorable_iff cfg uplink route).mp candidate).elsewhere

theorem Best.after {before after : Kernel} {uplink : Int} {source : Route}
    (best : Best cfg before uplink source) (same : SameOutside cfg.table before after) :
    Best cfg after uplink source := by
  refine ⟨?_, (candidates_same cfg same best.candidate).mpr best.member, best.candidate, ?_⟩
  · unfold linkByName
    rw [same.links]
    exact best.link
  · intro other member candidate
    exact best.best other ((candidates_same cfg same candidate).mp member) candidate

theorem NoSource.after {before after : Kernel} (nothing : NoSource cfg before)
    (same : SameOutside cfg.table before after) : NoSource cfg after := by
  intro uplink link route member
  by_contra candidate
  have passes : mirrorable cfg uplink route = true := Bool.not_eq_false _ ▸ candidate
  unfold linkByName at link
  rw [same.links] at link
  have absent := nothing uplink link route ((candidates_same cfg same passes).mp member)
  rw [absent] at passes
  cases passes

theorem MirrorSucceeds.after {before after : Kernel} (succeeds : MirrorSucceeds cfg before)
    (same : SameOutside cfg.table before after) : MirrorSucceeds cfg after := by
  intro uplink link route member candidate
  rw [Option.mem_def] at link
  unfold linkByName at link
  unfold isUp
  rw [same.links] at link
  rw [same.up]
  exact succeeds uplink link route ((candidates_same cfg same candidate).mp member) candidate

theorem syncDefault_follows {kernel : Kernel} {index : Int} {net : Prefix} {mirrors : List Route}
    (long : 1 ≤ net.bits) (areMirrors : ∀ route ∈ mirrors, IsMirror cfg route)
    (before : (kernel.routesOn cfg.table).Perm (storedSubnet cfg index net :: mirrors))
    (succeeds : MirrorSucceeds cfg kernel) :
    DefaultFollows cfg (syncDefaultLocked cfg kernel) := by
  have same := (respects_sameOutside cfg).syncDefault kernel
  have notDefault := storedSubnet_not_default cfg index long
  rcases syncDefault_routes cfg long areMirrors before with
    ⟨nothing, contents⟩ | ⟨uplink, source, best, ⟨_, contents⟩ | ⟨down, _⟩⟩
  · have nothingAfter := nothing.after cfg same
    have none : ∀ route ∈ (syncDefaultLocked cfg kernel).routesOn cfg.table,
        route.isDefault = false := by
      intro route member
      rw [List.mem_singleton.mp (contents.mem_iff.mp member)]
      exact notDefault
    refine ⟨⟨?_, ?_⟩, ?_⟩
    · rintro ⟨route, member, isDefault⟩
      rw [none route member] at isDefault
      cases isDefault
    · rintro ⟨uplink, link, route, member, candidate⟩
      rw [nothingAfter uplink link route member] at candidate
      cases candidate
    · intro route member isDefault
      rw [none route member] at isDefault
      cases isDefault
  · have bestAfter := best.after cfg same
    have only : ∀ route ∈ (syncDefaultLocked cfg kernel).routesOn cfg.table,
        route.isDefault = true → route = mirrorRoute cfg uplink source.gw := by
      intro route member isDefault
      rcases List.mem_cons.mp (contents.mem_iff.mp member) with isSubnet | rest
      · rw [isSubnet, notDefault] at isDefault
        cases isDefault
      · exact List.mem_singleton.mp rest
    refine ⟨⟨?_, ?_⟩, ?_⟩
    · intro _
      exact ⟨uplink, bestAfter.link, source, bestAfter.member, bestAfter.candidate⟩
    · intro _
      refine ⟨mirrorRoute cfg uplink source.gw, contents.mem_iff.mpr ?_,
        mirrorRoute_default cfg uplink source.gw⟩
      exact List.mem_cons_of_mem _ List.mem_cons_self
    · intro route member isDefault
      rw [only route member isDefault]
      exact ⟨uplink, bestAfter.link, rfl, source, bestAfter.member, bestAfter.candidate, rfl,
        bestAfter.best⟩
  · rw [succeeds uplink best.link source best.member best.candidate] at down
    cases down

theorem Holds.syncDefault {kernel : Kernel} {net : Prefix} (holds : Holds cfg kernel net)
    (long : 1 ≤ net.bits) :
    Holds cfg (syncDefaultLocked cfg kernel) net ∧
      (MirrorSucceeds cfg kernel → DefaultFollows cfg (syncDefaultLocked cfg kernel)) := by
  obtain ⟨index, mirrors, link, _, areMirrors, before⟩ := holds.routes
  refine ⟨⟨?_, ?_⟩, syncDefault_follows cfg long areMirrors before⟩
  · rw [rulesOn_syncDefault]
    exact holds.rules
  · have linkAfter : (syncDefaultLocked cfg kernel).linkByName cfg.iface = some index := by
      unfold linkByName
      rw [((respects_sameOutside cfg).syncDefault kernel).links]
      exact link
    rcases syncDefault_routes cfg long areMirrors before with
      ⟨_, contents⟩ | ⟨uplink, source, best, ⟨_, contents⟩ | ⟨_, unchanged⟩⟩
    · refine ⟨index, [], linkAfter, by simp, ?_, contents⟩
      intro route absent
      cases absent
    · refine ⟨index, [mirrorRoute cfg uplink source.gw], linkAfter, by simp, ?_, contents⟩
      intro route member
      obtain ⟨gw, through⟩ := ((mirrorable_iff cfg uplink source).mp best.candidate).gateway
      rw [List.mem_singleton.mp member, through]
      exact ⟨uplink, gw, rfl⟩
    · rw [unchanged]
      exact holds.routes

/-! ### Operations -/

theorem Exact.ofOne {host : Host} (exact_ : Exact cfg host) :
    RulesOfOne cfg host.kernel ∧ RoutesOfOne cfg host.kernel := by
  unfold Exact at exact_
  cases held : host.routes.held with
  | none =>
      rw [held] at exact_
      unfold RulesOfOne RoutesOfOne
      rw [exact_.rules, exact_.routes]
      refine ⟨⟨List.nodup_nil, ?_⟩, ?_⟩
      · refine ⟨{ addr := .v6 0, bits := 0, addrValid := rfl, bitsFit := Nat.zero_le _ }, ?_⟩
        intro rule absent
        cases absent
      · intro route absent
        cases absent
  | some net =>
      rw [held] at exact_
      obtain ⟨index, mirrors, _, _, areMirrors, contents⟩ := exact_.routes
      refine ⟨⟨exact_.rules.nodup_iff.mpr (nodup_pair cfg net), net, ?_⟩, ?_⟩
      · intro rule member
        simpa using exact_.rules.mem_iff.mp member
      · intro route member
        rcases List.mem_cons.mp (contents.mem_iff.mp member) with isSubnet | isMirror
        · exact Or.inl ⟨index, net, isSubnet⟩
        · exact Or.inr (areMirrors route isMirror)

theorem plumb_holds {kernel : Kernel} (rules : RulesOfOne cfg kernel) (routes : RoutesOfOne cfg kernel)
    {index : Int} (link : kernel.linkByName cfg.iface = some index)
    (up : kernel.isUp index = true) {net : Prefix} (long : 1 ≤ net.bits) :
    Holds cfg (syncDefaultLocked cfg (plumb cfg index net kernel)) net ∧
      (MirrorSucceeds cfg kernel →
        DefaultFollows cfg (syncDefaultLocked cfg (plumb cfg index net kernel))) := by
  have rulesBefore : RulesOfOne cfg (kernel.storeRoute (subnetRoute cfg index net)) := rules
  have ruled := rules_replaced cfg rulesBefore net
  have routed := routes_replaced cfg routes index net
    (wipeRulesLocked cfg (some net)
      (((kernel.storeRoute (subnetRoute cfg index net)).ruleAdd (fromRule cfg net)).ruleAdd
        (toRule cfg net)))
    (by unfold wipeRulesLocked; simp)
  have plumbed := (respects_sameOutside cfg).plumb kernel index net
  have stored : replaceRoute (subnetRoute cfg index net) kernel =
      kernel.storeRoute (subnetRoute cfg index net) := replaceRoute_of_up up
  suffices holds : Holds cfg (plumb cfg index net kernel) net by
    obtain ⟨after, follows⟩ := holds.syncDefault cfg long
    exact ⟨after, fun succeeds => follows (succeeds.after cfg plumbed)⟩
  unfold plumb at plumbed ⊢
  rw [stored] at plumbed ⊢
  refine ⟨?_, ?_⟩
  · unfold flushTableExceptLocked
    rw [rulesOn_deleteRoutes _ _ cfg.tableSet]
    exact ruled
  · refine ⟨index, [], ?_, by simp, ?_, ?_⟩
    · unfold linkByName
      rw [plumbed.links]
      exact link
    · intro route absent
      cases absent
    · rw [routed]

structure Kept (host : Host) : Prop where
  link : (host.kernel.linkByName cfg.iface).isSome = true
  exact : host.routes.started = true → Exact cfg host
  begun : host.routes.held.isSome = true → host.routes.started = true
  long : ∀ net, host.routes.held = some net → 1 ≤ net.bits

theorem Kept.ensureStarted {host : Host} (kept : Kept cfg host) (running : host.routes.stopped = false) :
    Kept cfg (ensureStartedLocked cfg host) ∧
      (ensureStartedLocked cfg host).routes.started = true := by
  have link : ((ensureStartedLocked cfg host).kernel.linkByName cfg.iface).isSome = true := by
    unfold linkByName
    rw [((respects_sameOutside cfg).ensureStarted host).links]
    exact kept.link
  unfold ensureStartedLocked at link ⊢
  by_cases started : host.routes.started = true
  · simp only [started, true_or, if_true]
    exact ⟨kept, trivial⟩
  · have nothing : host.routes.held = none := by
      cases held : host.routes.held with
      | none => rfl
      | some net => exact absurd (kept.begun (by rw [held]; rfl)) started
    have fresh : ¬ (host.routes.started = true ∨ host.routes.stopped = true) := by
      simp [started, running]
    rw [if_neg fresh] at link ⊢
    refine ⟨⟨link, ?_, fun _ => rfl, kept.long⟩, rfl⟩
    intro _
    unfold Exact
    dsimp only
    rw [nothing]
    exact empty_wipeAll cfg host.kernel

theorem Kept.install {host : Host} (kept : Kept cfg host) {net : Prefix} (long : 1 ≤ net.bits)
    (up : LinkUp host.kernel cfg.iface) :
    Kept cfg (PdRoute.install cfg net host) ∧
      (Syncs cfg host (.install net) →
        DefaultFollows cfg (PdRoute.install cfg net host).kernel) := by
  have outside := (respects_sameOutside cfg).perform (.install net) host
  have link : ((PdRoute.install cfg net host).kernel.linkByName cfg.iface).isSome = true := by
    change ((perform cfg (.install net) host).kernel.linkByName cfg.iface).isSome = true
    unfold linkByName
    rw [outside.links]
    exact kept.link
  unfold PdRoute.install at link ⊢
  cases running : host.routes.stopped with
  | true =>
      simp only [if_true]
      refine ⟨kept, ?_⟩
      rintro ⟨impossible, _⟩
      rw [running] at impossible
      cases impossible
  | false =>
      obtain ⟨begun, started⟩ := kept.ensureStarted cfg running
      obtain ⟨index, found⟩ := Option.isSome_iff_exists.mp begun.link
      obtain ⟨rules, routes⟩ := (begun.exact started).ofOne
      have early := (respects_sameOutside cfg).ensureStarted host
      have raised : (ensureStartedLocked cfg host).kernel.isUp index = true := by
        unfold linkByName at found
        unfold isUp
        rw [early.links] at found
        rw [early.up]
        exact up index found
      obtain ⟨holds, follows⟩ := plumb_holds cfg rules routes found raised long
      simp only [running, Bool.false_eq_true, if_false, found] at link ⊢
      refine ⟨⟨link, fun _ => holds, fun _ => started, ?_⟩,
        fun syncs => follows (syncs.2.after cfg early)⟩
      intro other same
      cases same
      exact long

theorem Kept.clear {host : Host} (kept : Kept cfg host) : Kept cfg (clearLocked cfg host) := by
  have link : ((clearLocked cfg host).kernel.linkByName cfg.iface).isSome = true := by
    unfold linkByName
    rw [((respects_sameOutside cfg).clear host).links]
    exact kept.link
  unfold clearLocked at link ⊢
  by_cases idle : host.routes.held = none ∧ host.routes.started = false
  · rw [if_pos idle]
    exact kept
  · rw [if_neg idle] at link ⊢
    refine ⟨link, fun _ => empty_wipeAll cfg host.kernel, ?_, ?_⟩
    · intro impossible
      cases impossible
    · intro net impossible
      cases impossible

theorem Kept.of_same {host : Host} (kept : Kept cfg host) {routes : Routes}
    (started : routes.started = host.routes.started) (held : routes.held = host.routes.held) :
    Kept cfg { host with routes := routes } := by
  refine ⟨kept.link, ?_, ?_, ?_⟩
  · intro isStarted
    have before := kept.exact (started.symm.trans isStarted)
    unfold Exact at before ⊢
    dsimp only
    rw [held]
    exact before
  · intro some
    dsimp only at some ⊢
    rw [started]
    exact kept.begun (held ▸ some)
  · intro net same
    exact kept.long net (held.symm.trans same)

theorem Kept.stop {host : Host} (kept : Kept cfg host) : Kept cfg (PdRoute.stop cfg host) := by
  unfold PdRoute.stop
  split
  · exact kept
  · have marked : Kept cfg { host with routes := { host.routes with stopped := true } } :=
      kept.of_same cfg rfl rfl
    have cleared := marked.clear
    dsimp only
    split
    · exact cleared.of_same cfg rfl rfl
    · exact cleared

theorem Kept.resync {host : Host} (kept : Kept cfg host) :
    Kept cfg (PdRoute.resync cfg host) ∧
      (Syncs cfg host .resync → DefaultFollows cfg (PdRoute.resync cfg host).kernel) := by
  unfold PdRoute.resync
  cases held : host.routes.held with
  | none =>
      refine ⟨kept, ?_⟩
      rintro ⟨impossible, _⟩
      rw [held] at impossible
      cases impossible
  | some net =>
      have long := kept.long net held
      have started := kept.begun (by rw [held]; rfl)
      have before := kept.exact started
      unfold Exact at before
      rw [held] at before
      obtain ⟨holds, follows⟩ := Holds.syncDefault cfg before long
      refine ⟨⟨?_, ?_, fun _ => started, ?_⟩, fun syncs => follows syncs.2⟩
      · change ((syncDefaultLocked cfg host.kernel).linkByName cfg.iface).isSome = true
        unfold linkByName
        rw [((respects_sameOutside cfg).syncDefault host.kernel).links]
        exact kept.link
      · intro _
        unfold Exact
        simp only [Option.isSome_some, if_true, held]
        exact holds
      · intro other same
        exact kept.long other same

theorem Kept.perform {host : Host} (kept : Kept cfg host) {call : Call}
    (orderly : Orderly cfg host (.call call)) :
    Kept cfg (PdRoute.perform cfg call host) ∧ Correct cfg host call := by
  have others := (respects_sameOutside cfg).perform call host
  cases call with
  | start =>
      have after : Kept cfg (PdRoute.start cfg host) := by
        cases running : host.routes.stopped with
        | false => exact (kept.ensureStarted cfg running).1
        | true =>
            unfold PdRoute.start ensureStartedLocked
            rw [if_pos (Or.inr running)]
            exact kept
      exact ⟨after, after.exact, fun impossible => impossible.elim, others⟩
  | install net =>
      obtain ⟨after, follows⟩ := kept.install cfg orderly.2.1 orderly.2.2
      exact ⟨after, after.exact, follows, others⟩
  | clear =>
      have after := kept.clear
      exact ⟨after, after.exact, fun impossible => impossible.elim, others⟩
  | stop =>
      have after := kept.stop
      exact ⟨after, after.exact, fun impossible => impossible.elim, others⟩
  | resync =>
      obtain ⟨after, follows⟩ := kept.resync
      exact ⟨after, after.exact, follows, others⟩

theorem Empty.change {before after : Kernel} (empty : Empty cfg before)
    (leaves : LeavesTable cfg before after) : Empty cfg after := by
  refine ⟨leaves.rules.trans empty.rules, ?_⟩
  rcases leaves.routes with same | without
  · exact same.trans empty.routes
  · rw [without, empty.routes]
    rfl

theorem Kept.change {host : Host} (kept : Kept cfg host) {after : Kernel}
    (leaves : LeavesTable cfg host.kernel after) : Kept cfg { host with kernel := after } := by
  refine ⟨?_, ?_, kept.begun, kept.long⟩
  · change (after.linkByName cfg.iface).isSome = true
    rw [leaves.link]
    exact kept.link
  · intro started
    have before := kept.exact started
    unfold Exact at before ⊢
    cases held : host.routes.held with
    | none =>
        rw [held] at before
        exact before.change cfg leaves
    | some net =>
        rw [held] at before
        refine ⟨leaves.rules ▸ before.rules, ?_⟩
        obtain ⟨index, mirrors, link, few, areMirrors, contents⟩ := before.routes
        rcases leaves.routes with same | without
        · exact ⟨index, mirrors, leaves.link.trans link, few, areMirrors, same ▸ contents⟩
        · have rest := contents.filter (fun route => !route.isDefault)
          have notDefault := storedSubnet_not_default cfg index (kept.long net held)
          rw [List.filter_cons_of_pos (by simp [notDefault])] at rest
          refine ⟨index, mirrors.filter (fun route => !route.isDefault), leaves.link.trans link,
            ?_, ?_, without ▸ rest⟩
          · exact (List.length_filter_le _ _).trans few
          · intro route member
            exact areMirrors route (List.mem_filter.mp member).1

/-! ### After the stop -/

/-- Once stopped, no prefix is held and nothing is on the table. -/
structure Rests (host : Host) : Prop where
  held : host.routes.stopped = true → host.routes.started = true → host.routes.held = none
  empty : host.routes.stopped = true → host.routes.started = true → Empty cfg host.kernel

theorem perform_started {host : Host} (started : host.routes.started = true) (call : Call) :
    (PdRoute.perform cfg call host).routes.started = true := by
  cases call with
  | start => simp [PdRoute.perform, start, ensureStartedLocked, started]
  | install net =>
      simp only [PdRoute.perform, install, ensureStartedLocked, started, true_or, if_true]
      split
      · exact started
      · rfl
  | clear => simp [PdRoute.perform, clear, clearLocked, started]
  | stop =>
      simp only [PdRoute.perform, stop, clearLocked, started]
      split
      · exact started
      · simp
  | resync =>
      simp only [PdRoute.perform, resync]
      split
      · exact started
      · exact started

theorem start_started {host : Host} (running : host.routes.stopped = false) :
    (start cfg host).routes.started = true := by
  unfold start ensureStartedLocked
  split
  · next begun => simpa [running] using begun
  · rfl

theorem install_running {host : Host} (running : host.routes.stopped = false) (net : Prefix) :
    (install cfg net host).routes.started = true ∧ (install cfg net host).routes.held = some net := by
  unfold install
  rw [if_neg (by simp [running])]
  exact ⟨start_started cfg running, rfl⟩

theorem perform_stopped (host : Host) (call : Call) :
    (PdRoute.perform cfg call host).routes.stopped =
      (host.routes.stopped || decide (call = .stop)) := by
  cases call with
  | start =>
      simp only [PdRoute.perform, start, ensureStartedLocked]
      split <;> simp
  | install net =>
      simp only [PdRoute.perform, install, ensureStartedLocked]
      split
      · simp
      · dsimp only
        split <;> simp
  | clear =>
      simp only [PdRoute.perform, clear, clearLocked]
      split <;> simp
  | stop =>
      simp only [PdRoute.perform, stop, clearLocked]
      split
      · next stopped => simp [stopped]
      · split <;> split <;> simp
  | resync =>
      simp only [PdRoute.perform, resync]
      split <;> simp

theorem Rests.of_running {host : Host} (running : host.routes.stopped = false) :
    Rests cfg host := by
  constructor
  · intro stopped
    rw [running] at stopped
    cases stopped
  · intro stopped
    rw [running] at stopped
    cases stopped

theorem Rests.clear (host : Host) (started : host.routes.started = true) :
    Rests cfg (clearLocked cfg host) := by
  have busy : ¬ (host.routes.held = none ∧ host.routes.started = false) := by
    rw [started]
    rintro ⟨_, impossible⟩
    cases impossible
  unfold clearLocked
  rw [if_neg busy]
  exact ⟨fun _ _ => rfl, fun _ _ => empty_wipeAll cfg host.kernel⟩

theorem Rests.perform {host : Host} (rests : Rests cfg host)
    (started : host.routes.started = true) (call : Call) :
    Rests cfg (PdRoute.perform cfg call host) := by
  cases stopped : host.routes.stopped with
  | false =>
      cases call with
      | stop =>
          have cleared := Rests.clear cfg
            { host with routes := { host.routes with stopped := true } } started
          simp only [PdRoute.perform, stop, stopped, Bool.false_eq_true, if_false]
          split
          · exact ⟨cleared.held, cleared.empty⟩
          · exact cleared
      | clear => exact Rests.clear cfg host started
      | start => exact Rests.of_running cfg (by simp [perform_stopped, stopped])
      | install net => exact Rests.of_running cfg (by simp [perform_stopped, stopped])
      | resync => exact Rests.of_running cfg (by simp [perform_stopped, stopped])
  | true =>
      have nothing := rests.held stopped started
      cases call with
      | start => simpa [PdRoute.perform, start, ensureStartedLocked, started] using rests
      | install net => simpa [PdRoute.perform, install, stopped] using rests
      | clear => exact Rests.clear cfg host started
      | stop => simpa [PdRoute.perform, stop, stopped] using rests
      | resync => simpa [PdRoute.perform, resync, nothing] using rests

end Contents

/-! ### Every run -/

/-- After each operation the table and the rules pointing at it are what the held
prefix implies, and nothing else was changed. -/
theorem table_follows_prefix (cfg : Config) (kernel : Kernel) (inputs : List Input)
    (served : (kernel.linkByName cfg.iface).isSome = true)
    (orderly : Throughout (step cfg) (Orderly cfg) ⟨kernel, new⟩ inputs)
    (before after : List Input) (call : Call) (split : inputs = before ++ .call call :: after) :
    Correct cfg (run (step cfg) ⟨kernel, new⟩ before) call := by
  have initially : Kept cfg ⟨kernel, new⟩ := by
    refine ⟨served, ?_, ?_, ?_⟩
    · intro impossible
      cases impossible
    · intro impossible
      cases impossible
    · intro net impossible
      cases impossible
  rw [split] at orderly
  have kept := run_invariant (step cfg) (Kept cfg) (Orderly cfg)
    (fun host input allowed holds => by
      cases input with
      | call call => exact (holds.perform cfg allowed).1
      | change after => exact holds.change cfg allowed)
    _ before initially (orderly.left (step cfg))
  exact (kept.perform cfg (orderly before (.call call) after rfl)).2

def sampleRouted : Config where
  iface := "br0"
  uplink := "up0"
  table := 1000
  rulePriority := 5000
  tableSet := by decide

theorem sampleNet_addrValid : (Addr.v6 0x20010db8000000000000000000000000#128).isValid = true := rfl

theorem sampleNet_bitsFit : 64 ≤ (Addr.v6 0x20010db8000000000000000000000000#128).bitLen := by
  decide

def sampleNet : Prefix where
  addr := .v6 0x20010db8000000000000000000000000#128
  bits := 64
  addrValid := sampleNet_addrValid
  bitsFit := sampleNet_bitsFit

def sampleUplinkDefault (gw : Option Addr) : Route where
  table := 254
  dst := none
  gw := gw
  linkIndex := 2
  protocol := 4
  priority := 512

def sampleKernel (gw : Option Addr) : Kernel where
  links := (AList.insert "br0" 1 ∅).insert "up0" 2
  up := [1, 2]
  addrs := []
  rules :=
    [{ table := 1000, priority := 7, src := none, dst := none, iifName := "br9", mark := 0 }]
  routes :=
    [sampleUplinkDefault gw, { sampleUplinkDefault gw with table := 1000, priority := 3 }]

def orderlyTest (cfg : Config) (host : Host) : Input → Bool
  | .call (.install net) =>
      net.addr.is6 && (decide (1 ≤ net.bits) && decide (LinkUp host.kernel cfg.iface))
  | .call _ => true
  | .change _ => false

theorem orderly_of_test {cfg : Config} {host : Host} {input : Input}
    (tested : orderlyTest cfg host input = true) : Orderly cfg host input := by
  cases input with
  | change after => cases tested
  | call call =>
      cases call with
      | install net =>
          obtain ⟨six, rest⟩ := Bool.and_eq_true_iff.mp tested
          obtain ⟨long, up⟩ := Bool.and_eq_true_iff.mp rest
          exact ⟨six, of_decide_eq_true long, of_decide_eq_true up⟩
      | start => trivial
      | clear => trivial
      | stop => trivial
      | resync => trivial

theorem table_follows_prefix_leftovers :
    Correct sampleRouted
      (run (step sampleRouted) ⟨sampleKernel (some (.v6 1)), new⟩ [.call .start])
      (.install sampleNet) :=
  table_follows_prefix sampleRouted (sampleKernel (some (.v6 1)))
    [.call .start, .call (.install sampleNet)] (by decide +kernel)
    (throughout_of_check (step sampleRouted) (fun _ _ => orderly_of_test) (by decide +kernel))
    [.call .start] [] (.install sampleNet) rfl

/-- The uplink has a default route, but one without a gateway: after `Install` the
table has none. -/
theorem gatewayless_default_not_mirrored :
    (∀ route ∈ (perform sampleRouted (.install sampleNet)
        ⟨sampleKernel none, new⟩).kernel.routesOn sampleRouted.table, route.isDefault = false) ∧
      (perform sampleRouted (.install sampleNet)
        ⟨sampleKernel none, new⟩).kernel.linkByName sampleRouted.uplink = some 2 ∧
      sampleUplinkDefault none ∈ (perform sampleRouted (.install sampleNet)
        ⟨sampleKernel none, new⟩).kernel.routes ∧
      (sampleUplinkDefault none).linkIndex = 2 ∧ (sampleUplinkDefault none).isDefault = true := by
  decide +kernel

end BridgeDhcp.PdRoute
