/-
What the operations of a manager do.

Whatever happens to a manager is one of a few changes: a server's lease table moves, a
set of static bindings is edited, a method of a client is called, or a client takes a
step.
-/

import BridgeDhcp.Pd.RoutineRules
import BridgeDhcp.Server.Manager

set_option autoImplicit false

namespace BridgeDhcp.Server

open GoMap GoError Netip Packet Interaction

/-! ### Lease tables -/

inductive LeaseTable.Moved (table : LeaseTable) : LeaseTable → Prop where
  | unchanged : Moved table table
  | set {lease : Lease} (usable : lease.ip.isValid = true) : Moved table (table.set lease)
  | release (ip : Addr) : Moved table (table.release ip).2
  | expireSweep (now : Int) : Moved table (table.expireSweep now)

theorem moved_selectAddress (cfg : PoolConfig) (statics : Map String StaticBinding)
    (table : LeaseTable) (orders : RangeOrders) (now : Int) (served : Prefix) (client : Applicant)
    (requested : Option Addr) :
    table.Moved (selectAddress cfg statics table orders now served client requested).2 := by
  rcases selectAddress_cases cfg statics table orders now served client requested with
    refused | ⟨ip, lease, booked, booking, _⟩
  · rw [refused]
    exact .unchanged
  · rw [booked]
    apply LeaseTable.Moved.set
    rw [booking.address]
    exact booking.valid

theorem addrFromSlice_isValid {bytes : List UInt8} {ip : Addr}
    (parsed : addrFromSlice bytes = some ip) : ip.isValid = true := by
  unfold addrFromSlice at parsed
  split at parsed
  · cases parsed
    rfl
  · split at parsed
    · cases parsed
      rfl
    · cases parsed

theorem ask4_decline_isValid {lib : Library4} {env : Env} {server : AddressServer} {pkt : Ingress}
    {served : Prefix} {request : DHCPv4} {ip : Addr}
    (asks : ask4 lib env server pkt = .decline served request ip) : ip.isValid = true := by
  by_cases ours : pkt.isUDP4 = true ∧ pkt.dstPort = dhcp4ServerPort ∧
      ∃ served request, acceptedRequest lib env server pkt = some (served, request)
  · obtain ⟨udp, port, prefix4, message, accepted⟩ := ours
    rw [ask4_of_accepted udp port accepted] at asks
    cases typ : message.messageType with
    | request =>
        rw [typ] at asks
        dsimp only at asks
        split at asks <;> cases asks
    | release =>
        rw [typ] at asks
        dsimp only at asks
        split at asks <;> cases asks
    | decline =>
        rw [typ] at asks
        dsimp only at asks
        split at asks
        · cases asks
        · next wanted =>
            cases asks
            obtain ⟨bytes, _, parsed⟩ := Option.bind_eq_some_iff.mp wanted
            exact addrFromSlice_isValid parsed
    | _ =>
        rw [typ] at asks
        cases asks
  · rw [ask4_of_not_accepted ours] at asks
    cases asks

theorem moved_handleFrame4 (lib : Library4) (env : Env) (orders : RangeOrders) (now : Int)
    (server : AddressServer) (pkt : Ingress) :
    server.leases.Moved (handleFrame4 lib env orders now server pkt).server.leases := by
  rw [handleFrame4_server]
  change server.leases.Moved (answer4 orders now server (ask4 lib env server pkt))
  cases asks : ask4 lib env server pkt with
  | discover served request => exact moved_selectAddress _ _ _ _ _ _ _ _
  | request served request want => exact moved_selectAddress _ _ _ _ _ _ _ _
  | release request ip => exact .release ip
  | decline served request ip => exact .set (ask4_decline_isValid asks)
  | nothing => exact .unchanged

theorem moved_handleFrame6 (lib : Library6) (env : Env) (orders : RangeOrders) (now : Int)
    (server : AddressServer) (pkt : Ingress) :
    server.leases.Moved (handleFrame6 lib env orders now server pkt).server.leases := by
  rw [handleFrame6_server]
  change server.leases.Moved (answer6 orders now server (ask6 lib env server pkt))
  cases ask6 lib env server pkt with
  | address served client => exact moved_selectAddress _ _ _ _ _ _ _ _
  | release mac clientID =>
      unfold answer6
      dsimp only
      cases server.leases.byClient orders.leases now mac clientID with
      | none => exact .unchanged
      | some lease => exact .release lease.ip
  | nothing => exact .unchanged

/-! ### Operations -/

namespace Manager

inductive Change (manager : Manager) : Manager → Prop where
  | unchanged : Change manager manager
  | served {name : String} {it : Served} (found : manager.ifaces.lookup name = some it)
      (family : Family) {after : AddressServer}
      (statics : after.statics = (it.server family).statics)
      (moved : (it.server family).leases.Moved after.leases) :
      Change manager (manager.serve name it family after)
  | edited {name : String} {it : Served} (found : manager.ifaces.lookup name = some it)
      (family : Family) {after : AddressServer}
      (leases : after.leases = (it.server family).leases) :
      Change manager (manager.put name (it.withServer family after)).markDirty
  | called {name : String} {it : Served} (found : manager.ifaces.lookup name = some it)
      {world : Pd.World} (client : it.pdc = some world) (call : Pd.ApiCall) :
      Change manager (manager.put name { it with pdc := some (world.call call) })

section Operations

variable (lib4 : Library4) (lib6 : Library6)

theorem change_readFrame (manager : Manager) (name : String) (env : Env) (orders : RangeOrders)
    (now : Int) (pkt : Ingress) :
    Change manager (manager.readFrame lib4 lib6 name env orders now pkt) := by
  unfold readFrame
  cases found : manager.ifaces.lookup name with
  | none => exact .unchanged
  | some it =>
      dsimp only
      split
      · apply Change.served found .four
        · rw [handleFrame4_server]
          rfl
        · exact moved_handleFrame4 lib4 env orders now it.d4 pkt
      · apply Change.served found .six
        · rw [handleFrame6_server]
          rfl
        · exact moved_handleFrame6 lib6 env orders now it.d6 pkt

theorem change_sweep (manager : Manager) (name : String) (family : Family) (now : Int) :
    Change manager (manager.sweep name family now) := by
  unfold sweep
  cases found : manager.ifaces.lookup name with
  | none => exact .unchanged
  | some it => exact .served found family rfl (.expireSweep now)

theorem change_editStatics (manager : Manager) (name : String) (family : Int)
    {edit : AddressServer → Except String AddressServer}
    (leases : ∀ server, (keepOnError server (edit server)).leases = server.leases) :
    Change manager (manager.orUnchanged (manager.editStatics name family edit)) := by
  cases edited : manager.editStatics name family edit with
  | error reason => exact .unchanged
  | ok after =>
      obtain ⟨it, which, server, found, _, done, rfl⟩ := editStatics_eq_ok_iff.mp edited
      have same := leases (it.server which)
      rw [done] at same
      exact .edited found which same

theorem change_deleteLease (manager : Manager) (name : String) (ip : Addr) :
    Change manager (manager.orUnchanged (manager.deleteLease name ip)) := by
  unfold deleteLease
  cases accepted : manager.iface name with
  | error reason => exact .unchanged
  | ok it =>
      dsimp only
      have moved := @LeaseTable.Moved.release (it.server (familyOfAddr ip)).leases ip
      unfold AddressServer.releaseLease
      rcases released : (it.server (familyOfAddr ip)).leases.release ip with ⟨present, table⟩
      rw [released] at moved
      cases present with
      | false => exact .unchanged
      | true => exact .served (iface_eq_ok_iff.mp accepted) _ rfl moved

theorem change_callClient (manager : Manager) (name : String) (call : Pd.ApiCall) :
    Change manager (manager.orUnchanged (manager.callClient name call)) := by
  cases called : manager.callClient name call with
  | error reason => exact .unchanged
  | ok after =>
      obtain ⟨it, accepted, afterIface⟩ := bind_eq_ok called
      dsimp only at afterIface
      cases client : it.pdc with
      | none =>
          rw [client] at afterIface
          cases afterIface
      | some world =>
          rw [client] at afterIface
          cases afterIface
          exact .called (iface_eq_ok_iff.mp accepted) client call

theorem step_cases (manager : Manager) (operation : Operation) :
    (∃ name step moments, operation = .client name step moments) ∨
      Change manager (manager.step lib4 lib6 operation) := by
  cases operation with
  | client name step moments => exact Or.inl ⟨name, step, moments, rfl⟩
  | frame name env orders now pkt =>
      exact Or.inr (change_readFrame lib4 lib6 manager name env orders now pkt)
  | sweep name family now => exact Or.inr (change_sweep manager name family now)
  | replaceStatics name family bindings =>
      exact Or.inr (change_editStatics manager name family
        (fun server => keepOnError_replaceStatics_leases server bindings))
  | putStatic name family binding =>
      exact Or.inr (change_editStatics manager name family
        (fun server => keepOnError_putStatic_leases server binding))
  | deleteStatic name family id =>
      exact Or.inr (change_editStatics manager name family
        (fun server => keepOnError_deleteStatic_leases server id))
  | deleteLease name ip => exact Or.inr (change_deleteLease manager name ip)
  | renewPD name => exact Or.inr (change_callClient manager name .renew)
  | releasePD name => exact Or.inr (change_callClient manager name .release)

end Operations

/-! ### The goroutine of a client -/

def afterSteps (name : String) (manager : Manager) (steps : List (ClientStep × (Nat → Pd.Moment))) :
    Manager :=
  steps.foldl (fun current taken => current.stepClient name taken.2 taken.1) manager

def Between (name : String) (base manager : Manager) : Prop :=
  ∃ steps, manager = base.afterSteps name steps

inductive Underway (name : String) (base : Manager) : Manager → Prop where
  | between {manager : Manager} (rests : Between name base manager) : Underway name base manager
  | applying {manager : Manager} (rests : Between name base manager) (reply : Answer6)
      (moments : List Pd.Moment) :
      Underway name base (exec (clientOp name) (Pd.applyReply reply) manager moments)
  | dropping {manager : Manager} (rests : Between name base manager)
      (moments : List Pd.Moment) :
      Underway name base (exec (clientOp name) Pd.dropPrefix manager moments)

section Steps

variable {name : String} {base manager after : Manager}

theorem Between.start (name : String) (base : Manager) : Between name base base := ⟨[], rfl⟩

theorem Between.step (rests : Between name base manager) (step : ClientStep)
    (moments : Nat → Pd.Moment) : Between name base (manager.stepClient name moments step) := by
  obtain ⟨steps, rfl⟩ := rests
  refine ⟨steps ++ [(step, moments)], ?_⟩
  unfold afterSteps
  rw [List.foldl_append]
  rfl

variable {Allowed : Manager → Pd.Op → Pd.Moment → Prop}

theorem between_keptAloof : Pd.KeptUnder (clientOp name) Aloof Allowed (Between name base) := by
  intro op aloof manager moment answer after rests _ handled
  have taken := rests.step (.other op aloof) (fun _ => moment)
  have same : manager.stepClient name (fun _ => moment) (.other op aloof) = after :=
    congrArg manager.atEnd handled
  rw [same] at taken
  exact taken

theorem aloof_of_aside {op : Pd.Op} (aside : op.aside = true) : Aloof op = true := by
  cases op with
  | store binding server => cases aside
  | clear => cases aside
  | callback net ok => cases aside
  | _ => rfl

theorem between_keptAside : Pd.KeptUnder (clientOp name) Pd.Op.aside Allowed (Between name base) := by
  intro op aside
  exact between_keptAloof op (aloof_of_aside aside)

instance nonempty_moment : Nonempty Pd.Moment := ⟨Pd.quiet 0 true⟩

theorem keeps_applyReply (reply : Answer6) :
    Keeps (clientOp name) (Underway name base) Allowed (Between name base)
      (Pd.applyReply reply) := by
  intro manager rests
  apply safe_of_runs
  · intro moments
    exact .applying rests reply moments
  · intro moments applied last ended
    have taken := rests.step (.applyReply reply) moments
    have same : manager.stepClient name moments (.applyReply reply) = last :=
      congrArg manager.atEnd ended
    rw [same] at taken
    exact taken

theorem keeps_dropPrefix :
    Keeps (clientOp name) (Underway name base) Allowed (Between name base) Pd.dropPrefix := by
  intro manager rests
  apply safe_of_runs
  · intro moments
    exact .dropping rests moments
  · intro moments dropped last ended
    have taken := rests.step .dropPrefix moments
    have same : manager.stepClient name moments .dropPrefix = last :=
      congrArg manager.atEnd ended
    rw [same] at taken
    exact taken

theorem keeps_acquireFresh (cfg : Pd.Config) (fuel : Nat) :
    Keeps (clientOp name) (Underway name base) Allowed (Between name base)
      (Pd.acquireFresh cfg fuel) := by
  apply Keeps.bind (Pd.keeps_perform (fun _ => .between) between_keptAloof rfl)
  intro _
  apply Keeps.bind
    (Pd.keeps_solicit (fun _ => .between) between_keptAside keeps_applyReply cfg fuel)
  intro acquired
  apply Keeps.bind (Pd.keeps_perform (fun _ => .between) between_keptAloof rfl)
  intro _
  exact Keeps.ret acquired

theorem keeps_start (cfg : Pd.Config) (fuel : Nat) :
    Keeps (clientOp name) (Underway name base) Allowed (Between name base) (Pd.start cfg fuel) := by
  apply Pd.keeps_run (fun _ => .between) between_keptAside.idle
  exact Pd.keeps_sessionTurn (fun _ => .between) between_keptAside keeps_applyReply
    keeps_dropPrefix keeps_acquireFresh cfg.normalize

end Steps

theorem goroutine_underway (cfg : Pd.Config) (fuel : Nat) (name : String) (manager : Manager)
    (moments : List Pd.Moment) :
    Underway name manager (exec (clientOp name) (Pd.start cfg fuel) manager moments) := by
  have rests := Between.start name manager
  have safe : Safe (clientOp name) (Underway name manager) (fun _ _ _ => True) (Pd.start cfg fuel)
      (fun _ => Between name manager) manager := keeps_start cfg fuel manager rests
  apply exec_of_safe _ _ moments (.between rests) safe
  apply permitted_of_forall
  intro current op moment
  trivial

end Manager

end BridgeDhcp.Server
