/-
Replacing the held prefix, call by call.

`Install` makes one netlink call after the other, and packets are routed in between.
The new rules are added before the old ones go, and each rule goes before the route
that it needs: whatever call was made last, traffic to the old prefix or traffic to the
new one is delivered on the served link, and no rule of the pair sends packets to a
table that has no on-link route for them.
-/

import BridgeDhcp.PdRoute.Forwarding

set_option autoImplicit false

namespace BridgeDhcp.PdRoute

open Netip Netlink StepRun Kernel FirstBest

/-! ### The states of the kernel while `Install` runs -/

section During

variable (cfg : Config) (index : Int) (net : Prefix) (kernel : Kernel)

def ruled : Kernel :=
  ((replaceRoute (subnetRoute cfg index net) kernel).ruleAdd (fromRule cfg net)).ruleAdd
    (toRule cfg net)

def wipeTurn (current : Kernel) (rule : Rule) : Kernel :=
  if rule.table = cfg.table ∧ (!keptRule (some net) rule) = true then current.ruleDel rule
  else current

def wiped : Kernel := wipeRulesLocked cfg (some net) (ruled cfg index net kernel)

def dropTurn (deletes : Route → Bool) (current : Kernel) (route : Route) : Kernel :=
  if deletes route = true then current.routeDel route else current

/-- The kernel between two calls of `Install`: a loop may be at any of its turns. -/
inductive During : Kernel → Prop
  | routed : During (replaceRoute (subnetRoute cfg index net) kernel)
  | fromAdded :
      During ((replaceRoute (subnetRoute cfg index net) kernel).ruleAdd (fromRule cfg net))
  | wiping (before after : List Rule)
      (split : (ruled cfg index net kernel).rules = before ++ after) :
      During (before.foldl (wipeTurn cfg net) (ruled cfg index net kernel))
  | flushing (before after : List Route)
      (split : (wiped cfg index net kernel).routeList cfg.table = before ++ after) :
      During (before.foldl (dropTurn (fun route => !keptRoute (some net) route))
        (wiped cfg index net kernel))
  | removing (before after : List Route)
      (split : (plumb cfg index net kernel).routeList cfg.table = before ++ after) :
      During (before.foldl (dropTurn (fun route => route.gw.isSome && route.isDefault))
        (plumb cfg index net kernel))
  | mirrored (uplink : Int) (source : Route)
      (best : bestDefault cfg uplink ((plumb cfg index net kernel).routeList 0) = some source) :
      During (replaceRoute (mirrorRoute cfg uplink source.gw) (plumb cfg index net kernel))

theorem During.ruled : During cfg index net kernel (ruled cfg index net kernel) :=
  During.wiping [] _ rfl

theorem During.installed :
    During cfg index net kernel (syncDefaultLocked cfg (plumb cfg index net kernel)) := by
  have removed : During cfg index net kernel
      (removeDefaultLocked cfg (plumb cfg index net kernel)) :=
    During.removing _ [] (List.append_nil _).symm
  unfold syncDefaultLocked
  split
  · exact removed
  · split
    · exact removed
    · next source best => exact During.mirrored _ source best

end During

/-! ### Delivery on the served link -/

section Delivery

variable {cfg : Config} {index : Int} {kernel : Kernel} {net : Prefix}

/-- A route of the table that goes to the served link or is a default route. -/
def Plain (cfg : Config) (index : Int) (route : Route) : Prop :=
  (route.linkIndex = index ∧ route.gw = none) ∨ IsMirror cfg route

def Delivers (cfg : Config) (index : Int) (kernel : Kernel) (net : Prefix) : Prop :=
  ∀ packet : Packet, net.contains packet.dst = true → Quiet cfg kernel packet →
    ∃ route, kernel.resolve packet = some route ∧ route.linkIndex = index ∧ route.gw = none

/-- Every rule of the pair finds the on-link route that it needs, and besides on-link
routes the table has mirrored defaults only. -/
structure Supported (cfg : Config) (index : Int) (kernel : Kernel) : Prop where
  onLink : ∀ net, toRule cfg net ∈ kernel.rules →
    1 ≤ net.bits ∧ storedSubnet cfg index net ∈ kernel.routes
  plain : ∀ route ∈ kernel.routes, route.table = cfg.table → Plain cfg index route

theorem Supported.delivers (supported : Supported cfg index kernel)
    (rule : toRule cfg net ∈ kernel.rules) : Delivers cfg index kernel net := by
  intro packet inside quiet
  obtain ⟨long, stored⟩ := supported.onLink net rule
  have onLink : storedSubnet cfg index net ∈ kernel.routesOn cfg.table :=
    List.mem_filter.mpr ⟨stored, decide_eq_true rfl⟩
  have covers : (storedSubnet cfg index net).covers packet.dst = true :=
    (storedSubnet_covers cfg index long packet.dst).trans inside
  cases found : kernel.lookup cfg.table packet.dst with
  | none =>
      have passed := (lookup_eq_none_iff kernel cfg.table packet.dst).mp found _ onLink
      rw [covers] at passed
      cases passed
  | some route =>
      have best := lookup_mem found
      refine ⟨route, ?_, ?_⟩
      · exact resolve_of_rule rule ((toRule_selects cfg net packet).trans inside) found quiet
      · obtain ⟨listed, own⟩ := List.mem_filter.mp best.listed
        rcases supported.plain route listed (of_decide_eq_true own) with
          served | ⟨uplink, gw, isMirror⟩
        · exact served
        · exfalso
          have short : route.length < (storedSubnet cfg index net).length := by
            rw [isMirror, Route.length_of_isDefault (mirrorRoute_default cfg uplink (some gw))]
            exact long
          exact absurd (best.top _ onLink covers) (not_le.mpr (Route.rank_lt_of_length short))

end Delivery

/-! ### Single calls -/

section Calls

variable {cfg : Config} {index : Int} {kernel : Kernel} {net : Prefix}

theorem storedSubnet_masked {first second : Prefix} (same : first.masked = second.masked) :
    storedSubnet cfg index first = storedSubnet cfg index second := by
  simp [storedSubnet, subnetRoute, same]

theorem masked_of_toRule {first second : Prefix} (same : toRule cfg first = toRule cfg second) :
    first.masked = second.masked :=
  Option.some.inj (congrArg Rule.dst same)

theorem bits_of_masked {first second : Prefix} (same : first.masked = second.masked) :
    first.bits = second.bits := by
  have bits := congrArg Prefix.bits same
  exact bits

theorem mem_rules_ruleAdd {rule other : Rule} :
    other ∈ (kernel.ruleAdd rule).rules ↔ other = rule ∨ other ∈ kernel.rules := by
  unfold ruleAdd
  split
  · next present =>
      constructor
      · exact Or.inr
      · rintro (same | listed)
        · rw [same]
          exact present
        · exact listed
  · exact List.mem_cons

theorem routes_ruleAdd (rule : Rule) : (kernel.ruleAdd rule).routes = kernel.routes := by
  unfold ruleAdd
  split <;> rfl

theorem mem_routes_storeRoute {route other : Route} :
    other ∈ (kernel.storeRoute route).routes ↔
      other = { route with priority := route.metric } ∨
        other ∈ kernel.routes ∧ other.sameSlot route = false := by
  unfold storeRoute
  rw [List.mem_cons, List.mem_filter, Bool.not_eq_true']

theorem Supported.addFrom (supported : Supported cfg index kernel) (net : Prefix) :
    Supported cfg index (kernel.ruleAdd (fromRule cfg net)) where
  onLink := by
    intro other listed
    rw [routes_ruleAdd]
    rcases mem_rules_ruleAdd.mp listed with same | before
    · exact absurd same.symm (fromRule_ne_toRule cfg net other)
    · exact supported.onLink other before
  plain := by
    rw [routes_ruleAdd]
    exact supported.plain

theorem Supported.addTo (supported : Supported cfg index kernel) (long : 1 ≤ net.bits)
    (onLink : storedSubnet cfg index net ∈ kernel.routes) :
    Supported cfg index (kernel.ruleAdd (toRule cfg net)) where
  onLink := by
    intro other listed
    rw [routes_ruleAdd]
    rcases mem_rules_ruleAdd.mp listed with same | before
    · have masked := masked_of_toRule same
      rw [storedSubnet_masked masked, bits_of_masked masked]
      exact ⟨long, onLink⟩
    · exact supported.onLink other before
  plain := by
    rw [routes_ruleAdd]
    exact supported.plain

theorem Supported.replaceSubnet (supported : Supported cfg index kernel) (net : Prefix) :
    Supported cfg index (kernel.storeRoute (subnetRoute cfg index net)) where
  onLink := by
    intro other listed
    obtain ⟨otherLong, stored⟩ := supported.onLink other listed
    refine ⟨otherLong, mem_routes_storeRoute.mpr ?_⟩
    by_cases same : other.masked = net.masked
    · exact Or.inl (storedSubnet_masked same)
    · have notDefault := storedSubnet_not_default cfg index otherLong
      have elsewhere : (storedSubnet cfg index other).dst ≠ (subnetRoute cfg index net).dst :=
        fun equal => same (Option.some.inj equal)
      exact Or.inr ⟨stored, by simp [Route.sameSlot, notDefault, elsewhere]⟩
  plain := by
    intro route listed own
    rcases mem_routes_storeRoute.mp listed with stored | ⟨before, _⟩
    · rw [stored]
      exact Or.inl ⟨rfl, rfl⟩
    · exact supported.plain route before own

theorem Supported.replaceDefault (supported : Supported cfg index kernel) (uplink : Int)
    {gw : Option Addr} (through : gw.isSome = true) :
    Supported cfg index (kernel.storeRoute (mirrorRoute cfg uplink gw)) where
  onLink := by
    intro other listed
    obtain ⟨long, stored⟩ := supported.onLink other listed
    refine ⟨long, mem_routes_storeRoute.mpr (Or.inr ⟨stored, ?_⟩)⟩
    have notDefault := storedSubnet_not_default cfg index long
    have elsewhere : (storedSubnet cfg index other).dst ≠ (mirrorRoute cfg uplink gw).dst := by
      intro same
      have lengths := congrArg (fun dst => dst.map Prefix.bits) same
      have zero : other.bits = 0 := Option.some.inj lengths
      omega
    simp [Route.sameSlot, notDefault, elsewhere]
  plain := by
    intro route listed own
    rcases mem_routes_storeRoute.mp listed with stored | ⟨before, _⟩
    · obtain ⟨addr, isGateway⟩ := Option.isSome_iff_exists.mp through
      rw [stored, isGateway]
      exact Or.inr ⟨uplink, addr, rfl⟩
    · exact supported.plain route before own

theorem Supported.fewerRules {after : Kernel} (supported : Supported cfg index kernel)
    (rules : ∀ rule ∈ after.rules, rule ∈ kernel.rules) (routes : after.routes = kernel.routes) :
    Supported cfg index after where
  onLink := by
    intro other listed
    rw [routes]
    exact supported.onLink other (rules _ listed)
  plain := by
    rw [routes]
    exact supported.plain

theorem Supported.fewerRoutes {after : Kernel} (supported : Supported cfg index kernel)
    (rules : after.rules = kernel.rules) (routes : ∀ route ∈ after.routes, route ∈ kernel.routes)
    (kept : ∀ other, toRule cfg other ∈ kernel.rules →
      storedSubnet cfg index other ∈ kernel.routes → storedSubnet cfg index other ∈ after.routes) :
    Supported cfg index after where
  onLink := by
    intro other listed
    rw [rules] at listed
    obtain ⟨long, stored⟩ := supported.onLink other listed
    exact ⟨long, kept other listed stored⟩
  plain := by
    intro route listed
    exact supported.plain route (routes route listed)

end Calls

/-! ### The loops -/

section Loops

variable {cfg : Config} {index : Int} {net : Prefix}

theorem foldl_wipeTurn (listed : List Rule) (kernel : Kernel) :
    (listed.foldl (wipeTurn cfg net) kernel).routes = kernel.routes ∧
    (∀ rule ∈ (listed.foldl (wipeTurn cfg net) kernel).rules, rule ∈ kernel.rules) ∧
    ∀ rule ∈ kernel.rules, keptRule (some net) rule = true →
      rule ∈ (listed.foldl (wipeTurn cfg net) kernel).rules := by
  induction listed generalizing kernel with
  | nil => exact ⟨rfl, fun _ listed => listed, fun _ listed _ => listed⟩
  | cons head tail ih =>
      rw [List.foldl_cons]
      by_cases deleted : head.table = cfg.table ∧ (!keptRule (some net) head) = true
      · have turn : wipeTurn cfg net kernel head = kernel.ruleDel head := if_pos deleted
        rw [turn]
        obtain ⟨routes, fewer, kept⟩ := ih (kernel.ruleDel head)
        refine ⟨routes, ?_, ?_⟩
        · intro rule listed
          exact List.mem_of_mem_erase (fewer rule listed)
        · intro rule listed stays
          have different : rule ≠ head := by
            intro same
            rw [← same, stays] at deleted
            cases deleted.2
          exact kept rule ((List.mem_erase_of_ne different).mpr listed) stays
      · have turn : wipeTurn cfg net kernel head = kernel := if_neg deleted
        rw [turn]
        exact ih kernel

theorem foldl_dropTurn (deletes : Route → Bool) (listed : List Route) (kernel : Kernel) :
    (listed.foldl (dropTurn deletes) kernel).rules = kernel.rules ∧
    (∀ route ∈ (listed.foldl (dropTurn deletes) kernel).routes, route ∈ kernel.routes) ∧
    ∀ route ∈ kernel.routes, deletes route = false →
      route ∈ (listed.foldl (dropTurn deletes) kernel).routes := by
  induction listed generalizing kernel with
  | nil => exact ⟨rfl, fun _ listed => listed, fun _ listed _ => listed⟩
  | cons head tail ih =>
      rw [List.foldl_cons]
      by_cases deleted : deletes head = true
      · have turn : dropTurn deletes kernel head = kernel.routeDel head := if_pos deleted
        rw [turn]
        obtain ⟨rules, fewer, kept⟩ := ih (kernel.routeDel head)
        refine ⟨rules, ?_, ?_⟩
        · intro route listed
          exact List.mem_of_mem_erase (fewer route listed)
        · intro route listed stays
          have different : route ≠ head := by
            intro same
            rw [← same, stays] at deleted
            cases deleted
          exact kept route ((List.mem_erase_of_ne different).mpr listed) stays
      · have turn : dropTurn deletes kernel head = kernel := if_neg deleted
        rw [turn]
        exact ih kernel

theorem keptRule_fromRule (net : Prefix) : keptRule (some net) (fromRule cfg net) = true := by
  simp [keptRule, fromRule, ruleTo]

theorem keptRule_toRule (net : Prefix) : keptRule (some net) (toRule cfg net) = true := by
  simp [keptRule, toRule, ruleTo]

theorem masked_of_wiped {kernel : Kernel} {other : Prefix}
    (left : toRule cfg other ∈ (wipeRulesLocked cfg (some net) kernel).rules) :
    other.masked = net.masked := by
  unfold wipeRulesLocked at left
  rw [deleteRules_eq] at left
  have stays := (List.mem_filter.mp left).2
  simpa [keptRule, toRule, ruleTo] using stays

end Loops

/-! ### Between the calls -/

section Between

variable {cfg : Config} {index : Int} {old net : Prefix} {kernel : Kernel}

/-- Every rule has its route, and the pair of the prefix is complete. -/
structure Serving (cfg : Config) (index : Int) (kernel : Kernel) (net : Prefix) : Prop where
  supported : Supported cfg index kernel
  outbound : fromRule cfg net ∈ kernel.rules
  inbound : toRule cfg net ∈ kernel.rules

theorem Holds.supported (holds : Holds cfg kernel net) (long : 1 ≤ net.bits)
    (link : kernel.linkByName cfg.iface = some index) : Supported cfg index kernel := by
  obtain ⟨found, mirrors, sameLink, _, areMirrors, contents⟩ := holds.routes
  rw [link] at sameLink
  cases sameLink
  constructor
  · intro other listed
    have own : toRule cfg other ∈ kernel.rulesOn cfg.table :=
      List.mem_filter.mpr ⟨listed, decide_eq_true rfl⟩
    rcases List.mem_cons.mp (holds.rules.mem_iff.mp own) with isFrom | rest
    · exact absurd isFrom.symm (fromRule_ne_toRule cfg net other)
    · have masked := masked_of_toRule (List.mem_singleton.mp rest)
      rw [storedSubnet_masked masked, bits_of_masked masked]
      have stored := contents.mem_iff.mpr List.mem_cons_self
      exact ⟨long, (List.mem_filter.mp stored).1⟩
  · intro route listed own
    have onTable : route ∈ kernel.routesOn cfg.table :=
      List.mem_filter.mpr ⟨listed, decide_eq_true own⟩
    rcases List.mem_cons.mp (contents.mem_iff.mp onTable) with isSubnet | isMirror
    · rw [isSubnet]
      exact Or.inl ⟨rfl, rfl⟩
    · exact Or.inr (areMirrors route isMirror)

theorem Serving.ruled (supported : Supported cfg index kernel) (up : kernel.isUp index = true)
    (long : 1 ≤ net.bits) : Serving cfg index (PdRoute.ruled cfg index net kernel) net := by
  have routed := supported.replaceSubnet net
  have stored : replaceRoute (subnetRoute cfg index net) kernel =
      kernel.storeRoute (subnetRoute cfg index net) := replaceRoute_of_up up
  unfold PdRoute.ruled
  rw [stored]
  refine ⟨(routed.addFrom net).addTo long ?_, ?_, ?_⟩
  · rw [routes_ruleAdd]
    exact mem_routes_storeRoute.mpr (Or.inl rfl)
  · exact mem_rules_ruleAdd.mpr (Or.inr (mem_rules_ruleAdd.mpr (Or.inl rfl)))
  · exact mem_rules_ruleAdd.mpr (Or.inl rfl)

theorem Serving.wiping (serving : Serving cfg index kernel net) (listed : List Rule) :
    Serving cfg index (listed.foldl (wipeTurn cfg net) kernel) net := by
  obtain ⟨routes, fewer, kept⟩ := @foldl_wipeTurn cfg net listed kernel
  refine ⟨serving.supported.fewerRules fewer routes, ?_, ?_⟩
  · exact kept _ serving.outbound (keptRule_fromRule net)
  · exact kept _ serving.inbound (keptRule_toRule net)

theorem Serving.dropping (serving : Serving cfg index kernel net) {deletes : Route → Bool}
    (needed : ∀ other, toRule cfg other ∈ kernel.rules →
      deletes (storedSubnet cfg index other) = false) (listed : List Route) :
    Serving cfg index (listed.foldl (dropTurn deletes) kernel) net := by
  obtain ⟨rules, fewer, kept⟩ := foldl_dropTurn deletes listed kernel
  refine ⟨serving.supported.fewerRoutes rules fewer ?_, ?_, ?_⟩
  · intro other listed stored
    exact kept _ stored (needed other listed)
  · rw [rules]
    exact serving.outbound
  · rw [rules]
    exact serving.inbound

theorem Serving.wiped (serving : Serving cfg index (PdRoute.ruled cfg index net kernel) net) :
    Serving cfg index (PdRoute.wiped cfg index net kernel) net :=
  serving.wiping _

theorem Serving.flushing (serving : Serving cfg index (PdRoute.ruled cfg index net kernel) net)
    (listed : List Route) :
    Serving cfg index (listed.foldl (dropTurn (fun route => !keptRoute (some net) route))
      (PdRoute.wiped cfg index net kernel)) net := by
  apply serving.wiped.dropping
  intro other left
  -- Only rules of the new prefix are left, and its on-link route stays.
  simp [keptRoute, storedSubnet, subnetRoute, masked_of_wiped left]

theorem Serving.plumbed (serving : Serving cfg index (PdRoute.ruled cfg index net kernel) net) :
    Serving cfg index (plumb cfg index net kernel) net :=
  serving.flushing _

theorem Serving.removing (serving : Serving cfg index kernel net) (listed : List Route) :
    Serving cfg index
      (listed.foldl (dropTurn (fun route => route.gw.isSome && route.isDefault)) kernel) net := by
  apply serving.dropping
  intro other _
  rfl

theorem Serving.mirrored (serving : Serving cfg index kernel net) {uplink : Int} {source : Route}
    (best : bestDefault cfg uplink (kernel.routeList 0) = some source) :
    Serving cfg index (replaceRoute (mirrorRoute cfg uplink source.gw) kernel) net := by
  obtain ⟨gw, through⟩ := (bestDefault_precedes cfg uplink best).2.1.gateway
  cases state : kernel.isUp (mirrorRoute cfg uplink source.gw).linkIndex with
  | false =>
      rw [replaceRoute_of_down state]
      exact serving
  | true =>
      rw [replaceRoute_of_up state]
      refine ⟨serving.supported.replaceDefault uplink ?_, serving.outbound, serving.inbound⟩
      rw [through]
      rfl

theorem Holds.serving (holds : Holds cfg kernel old) (oldLong : 1 ≤ old.bits)
    (long : 1 ≤ net.bits) (link : kernel.linkByName cfg.iface = some index)
    (up : kernel.isUp index = true) {moment : Kernel}
    (during : During cfg index net kernel moment) :
    Serving cfg index moment old ∨ Serving cfg index moment net := by
  have before := holds.supported oldLong link
  have ruled : Serving cfg index (ruled cfg index net kernel) net := Serving.ruled before up long
  have stored : replaceRoute (subnetRoute cfg index net) kernel =
      kernel.storeRoute (subnetRoute cfg index net) := replaceRoute_of_up up
  cases during with
  | routed =>
      rw [stored]
      exact Or.inl ⟨before.replaceSubnet net, holds.fromRule_mem, holds.toRule_mem⟩
  | fromAdded =>
      rw [stored]
      refine Or.inl ⟨(before.replaceSubnet net).addFrom net, ?_, ?_⟩
      · exact mem_rules_ruleAdd.mpr (Or.inr holds.fromRule_mem)
      · exact mem_rules_ruleAdd.mpr (Or.inr holds.toRule_mem)
  | wiping listed _ _ => exact Or.inr (ruled.wiping listed)
  | flushing listed _ _ => exact Or.inr (ruled.flushing listed)
  | removing listed _ _ => exact Or.inr (ruled.plumbed.removing listed)
  | mirrored uplink source best => exact Or.inr (ruled.plumbed.mirrored best)

end Between

/-! ### Every run -/

/-- The calls of `Install` on a running `Routes` that holds a prefix start from the
kernel as it is and end with the kernel it leaves. -/
theorem Kept.during_install {cfg : Config} {host : Host} (kept : Kept cfg host)
    (running : host.routes.stopped = false) {old : Prefix} (held : host.routes.held = some old)
    {index : Int} (link : host.kernel.linkByName cfg.iface = some index) (net : Prefix) :
    During cfg index net host.kernel (PdRoute.install cfg net host).kernel := by
  have begun : host.routes.started = true := kept.begun (by rw [held]; rfl)
  have same : ensureStartedLocked cfg host = host := by
    unfold ensureStartedLocked
    rw [if_pos (Or.inl begun)]
  have installed := During.installed cfg index net host.kernel
  simp only [PdRoute.install, running, same, link, Bool.false_eq_true, if_false]
  exact installed

end BridgeDhcp.PdRoute
