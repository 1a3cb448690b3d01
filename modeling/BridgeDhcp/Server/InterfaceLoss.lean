/-
Interfaces that come and go.

The address and the routes of a delegation are installed by the callback that reports
it, and by nothing else: the watch loop only wakes the client, whose confirmed
delegation makes no callback.  So they are there as long as the link was up when
`pdAddr` was set and has been neither brought down nor deleted since.
-/

import BridgeDhcp.Server.ServedPrefix

set_option autoImplicit false

namespace BridgeDhcp.Server

open Netip GoTime Netlink Interaction StepRun

/-! ### Conditions -/

/-- A change of others does not bring a link down. -/
def keepsUp (before after : Kernel) : Bool := before.up.all after.isUp

/-- The link is neither brought down nor deleted while an address is served, and others
leave the interface alone. -/
def keepsLink (cfg : IfaceConfig) (state : Plumbed) : Other → Bool
  | .stop => false
  | .lower => state.pdAddr = none
  | .delete => state.pdAddr = none
  | .change after =>
      decide (LeavesServed cfg state.host.kernel after) && keepsUp state.host.kernel after
  | _ => true

def hasLink (cfg : IfaceConfig) (state : Plumbed) : PlumbOp → Bool
  | .setAddr (some _) => (servedLink cfg state).any state.host.kernel.isUp
  | _ => true

def attached (cfg : IfaceConfig) : Conditions where
  others := keepsLink cfg
  op := hasLink cfg

/-! ### What is installed -/

structure Idle (routes : PdRoute.Config) (host : PdRoute.Host) : Prop where
  held : host.routes.held = none
  empty : host.routes.started = true → PdRoute.Empty routes host.kernel

def Dormant (cfg : IfaceConfig) (state : Plumbed) : Prop :=
  ∀ routes ∈ cfg.routes, state.host.routes.stopped = false ∧ Idle routes state.host

structure Attached (cfg : IfaceConfig) (addr : Prefix) (index : Int) (state : Plumbed) : Prop where
  served : state.pdAddr = some addr
  link : servedLink cfg state = some index
  up : state.host.kernel.isUp index = true
  kept : ∀ routes ∈ cfg.routes, state.host.routes.stopped = false ∧
    PdRoute.Kept routes state.host

structure Installed (cfg : IfaceConfig) (addr : Prefix) (index : Int) (state : Plumbed) : Prop where
  attached : Attached cfg addr index state
  carried : (index, addr) ∈ state.host.kernel.addrs
  routed : ∀ routes ∈ cfg.routes, state.host.routes.started = true ∧
    state.host.routes.held = some addr.masked

def Wired (cfg : IfaceConfig) (state : Plumbed) : Prop :=
  match state.pdAddr with
  | none => Dormant cfg state
  | some addr => ∃ index, Installed cfg addr index state

section Steps

variable {cfg : IfaceConfig} {state : Plumbed}

theorem wired_of_none (nothing : state.pdAddr = none) (dormant : Dormant cfg state) :
    Wired cfg state := by
  unfold Wired
  rw [nothing]
  exact dormant

theorem Installed.wired {addr : Prefix} {index : Int} (installed : Installed cfg addr index state) :
    Wired cfg state := by
  unfold Wired
  rw [installed.attached.served]
  exact ⟨index, installed⟩

/-! ### Other parties -/

/-- A step that changes neither the served prefix nor its link and addresses, and keeps
the routing intact. -/
structure Calm (cfg : IfaceConfig) (before after : Plumbed) : Prop where
  pdAddr : after.pdAddr = before.pdAddr
  link : servedLink cfg after = servedLink cfg before
  up : ∀ index, before.host.kernel.isUp index = true → after.host.kernel.isUp index = true
  addrs : after.host.kernel.addrs = before.host.kernel.addrs
  routes : after.host.routes = before.host.routes
  kept : ∀ routes ∈ cfg.routes, PdRoute.Kept routes before.host → PdRoute.Kept routes after.host

theorem Attached.calm {after : Plumbed} {addr : Prefix} {index : Int}
    (attached : Attached cfg addr index state) (calm : Calm cfg state after) :
    Attached cfg addr index after := by
  refine ⟨calm.pdAddr.trans attached.served, calm.link.trans attached.link,
    calm.up index attached.up, ?_⟩
  intro routes routed
  obtain ⟨running, kept⟩ := attached.kept routes routed
  rw [calm.routes]
  exact ⟨running, calm.kept routes routed kept⟩

theorem Installed.calm {after : Plumbed} {addr : Prefix} {index : Int}
    (installed : Installed cfg addr index state) (calm : Calm cfg state after) :
    Installed cfg addr index after := by
  refine ⟨installed.attached.calm calm, ?_, ?_⟩
  · rw [calm.addrs]
    exact installed.carried
  · rw [calm.routes]
    exact installed.routed

theorem Idle.change {routes : PdRoute.Config} {host : PdRoute.Host} (idle : Idle routes host)
    {after : Kernel} (rules : after.rulesOn routes.table = host.kernel.rulesOn routes.table)
    (sublist : (after.routesOn routes.table).Sublist (host.kernel.routesOn routes.table)) :
    Idle routes { host with kernel := after } := by
  refine ⟨idle.held, ?_⟩
  intro started
  have before := idle.empty started
  refine ⟨rules.trans before.rules, ?_⟩
  rw [before.routes] at sublist
  exact List.sublist_nil.mp sublist

theorem Wired.setAddr (wired : Wired cfg state) {index : Int}
    (link : servedLink cfg state = some index) (up : state.host.kernel.isUp index = true)
    (addr : Prefix) : Attached cfg addr index { state with pdAddr := some addr } := by
  refine ⟨rfl, link, up, ?_⟩
  intro routes routed
  unfold Wired at wired
  cases served : state.pdAddr with
  | none =>
      rw [served] at wired
      obtain ⟨running, idle⟩ := wired routes routed
      refine ⟨running, ?_, ?_, ?_, ?_⟩
      · rw [IfaceConfig.routes_iface routed]
        exact Option.isSome_iff_exists.mpr ⟨index, link⟩
      · intro started
        unfold PdRoute.Exact
        rw [idle.held]
        exact idle.empty started
      · intro impossible
        rw [idle.held] at impossible
        cases impossible
      · intro net impossible
        rw [idle.held] at impossible
        cases impossible
  | some before =>
      rw [served] at wired
      obtain ⟨_, installed⟩ := wired
      exact installed.attached.kept routes routed

theorem Attached.addrAdd {addr : Prefix} {index : Int} (attached : Attached cfg addr index state) :
    Attached cfg addr index (addressed index addr state) ∧
      (index, addr) ∈ (addressed index addr state).host.kernel.addrs := by
  refine ⟨⟨attached.served, ?_, ?_, ?_⟩, Kernel.mem_addrs_addrAdd attached.link addr⟩
  · have same := state.host.kernel.addrAdd_links index addr
    exact (congrArg (fun links => links.lookup cfg.name) same).trans attached.link
  · change (state.host.kernel.addrAdd index addr).isUp index = true
    unfold Kernel.isUp
    rw [state.host.kernel.addrAdd_up]
    exact attached.up
  · intro routes routed
    obtain ⟨running, kept⟩ := attached.kept routes routed
    exact ⟨running, kept.change routes (PdRoute.leavesTable_addrAdd routes _ index addr)⟩

theorem Attached.install {addr : Prefix} {index : Int} (attached : Attached cfg addr index state)
    (carried : (index, addr) ∈ state.host.kernel.addrs) (long : 1 ≤ addr.bits) :
    Installed cfg addr index (routing cfg (.install addr.masked) state) := by
  have same := routing_sameAddresses cfg (.install addr.masked) state
  refine ⟨⟨same.pdAddr.trans attached.served, same.link.trans attached.link, ?_, ?_⟩, ?_, ?_⟩
  · rw [routing_isUp]
    exact attached.up
  · intro routes routed
    obtain ⟨running, kept⟩ := attached.kept routes routed
    have longMasked : 1 ≤ addr.masked.bits := long
    have up : PdRoute.LinkUp state.host.kernel routes.iface := by
      intro other found
      rw [Option.mem_def, IfaceConfig.routes_iface routed] at found
      cases attached.link.symm.trans found
      exact attached.up
    rw [routing_host cfg routed]
    refine ⟨?_, (kept.install routes longMasked up).1⟩
    rw [PdRoute.perform_stopped, running]
    rfl
  · rw [same.addrs]
    exact carried
  · intro routes routed
    rw [routing_host cfg routed]
    exact PdRoute.install_running routes (attached.kept routes routed).1 addr.masked

def Running (cfg : IfaceConfig) (state : Plumbed) : Prop :=
  ∀ routes ∈ cfg.routes, state.host.routes.stopped = false

theorem Wired.running (wired : Wired cfg state) : Running cfg state := by
  intro routes routed
  unfold Wired at wired
  cases served : state.pdAddr with
  | none =>
      rw [served] at wired
      exact (wired routes routed).1
  | some addr =>
      rw [served] at wired
      obtain ⟨_, installed⟩ := wired
      exact (installed.attached.kept routes routed).1

theorem Running.routing (running : Running cfg state) {call : PdRoute.Call}
    (another : call ≠ .stop) : Running cfg (routing cfg call state) := by
  intro routes routed
  rw [routing_host cfg routed, PdRoute.perform_stopped, running routes routed,
    decide_eq_false another]
  rfl

theorem Running.clear (running : Running cfg state) :
    Dormant cfg (Server.routing cfg .clear state) := by
  have still : Running cfg (Server.routing cfg .clear state) :=
    running.routing (fun impossible => nomatch impossible)
  intro routes routed
  refine ⟨still routes routed, ?_⟩
  rw [routing_host cfg routed]
  simp only [PdRoute.perform, PdRoute.clear, PdRoute.clearLocked]
  split
  · next unused =>
      refine ⟨unused.1, ?_⟩
      intro started
      rw [unused.2] at started
      cases started
  · exact ⟨rfl, fun _ => PdRoute.empty_wipeAll routes state.host.kernel⟩

theorem Wired.client (wired : Wired cfg state) (world : Pd.World) (calls : List Pd.ApiCall) :
    Wired cfg { state with pd := world, calls := calls } := by
  unfold Wired at wired ⊢
  dsimp only
  cases served : state.pdAddr with
  | none =>
      rw [served] at wired
      exact wired
  | some addr =>
      rw [served] at wired
      obtain ⟨index, ⟨_, link, up, kept⟩, carried, routed⟩ := wired
      exact ⟨index, ⟨rfl, link, up, kept⟩, carried, routed⟩

end Steps

/-! ### Every run -/

/-- If the link is there, its changes have been noticed and a prefix is served, then the
link has the address, and the table has the on-link route and both rules of the
network. -/
def Plumbed.Complete (cfg : IfaceConfig) (state : Plumbed) : Prop :=
  ∀ addr index, state.pdAddr = some addr → servedLink cfg state = some index →
    state.unseen = false →
    (index, addr) ∈ state.host.kernel.addrs ∧
      ∀ routes ∈ cfg.routes,
        PdRoute.storedSubnet routes index addr.masked ∈ state.host.kernel.routesOn routes.table ∧
        PdRoute.fromRule routes addr.masked ∈ state.host.kernel.rulesOn routes.table ∧
        PdRoute.toRule routes addr.masked ∈ state.host.kernel.rulesOn routes.table

theorem Wired.complete {cfg : IfaceConfig} {state : Plumbed} (wired : Wired cfg state) :
    state.Complete cfg := by
  intro addr index served link _
  unfold Wired at wired
  rw [served] at wired
  obtain ⟨found, installed⟩ := wired
  cases installed.attached.link.symm.trans link
  refine ⟨installed.carried, ?_⟩
  intro routes routed
  obtain ⟨started, held⟩ := installed.routed routes routed
  have holds := (installed.attached.kept routes routed).2.exact started
  unfold PdRoute.Exact at holds
  rw [held] at holds
  obtain ⟨other, mirrors, sameLink, _, _, contents⟩ := holds.routes
  rw [IfaceConfig.routes_iface routed] at sameLink
  cases sameLink.symm.trans link
  exact ⟨contents.mem_iff.mpr List.mem_cons_self, holds.rules.mem_iff.mpr List.mem_cons_self,
    holds.rules.mem_iff.mpr (List.mem_cons_of_mem _ List.mem_cons_self)⟩

theorem Wired.start {cfg : IfaceConfig} {state : Plumbed} (wired : Wired cfg state) :
    Wired cfg (routing cfg .start state) := by
  have same := (routing_sameServed cfg .start state).pdAddr
  have running := wired.running
  unfold Wired at wired
  cases served : state.pdAddr with
  | none =>
      rw [served] at wired same
      have still : Running cfg (routing cfg .start state) :=
        running.routing (fun impossible => nomatch impossible)
      refine wired_of_none same ?_
      intro routes routed
      refine ⟨still routes routed, ?_⟩
      rw [routing_host cfg routed]
      simp only [PdRoute.perform, PdRoute.start, PdRoute.ensureStartedLocked]
      split
      · exact (wired routes routed).2
      · exact ⟨(wired routes routed).2.held, fun _ => PdRoute.empty_wipeAll routes _⟩
  | some addr =>
      rw [served] at wired
      obtain ⟨index, installed⟩ := wired
      have unchanged : routing cfg .start state = state := by
        unfold routing
        cases routed : cfg.routes with
        | none => rfl
        | some routes =>
            have started := (installed.routed routes routed).1
            simp [PdRoute.perform, PdRoute.start, PdRoute.ensureStartedLocked, started]
      rw [unchanged]
      exact installed.wired

end BridgeDhcp.Server
