/-
The manager: the served interfaces behind the control API, and what of them outlives
the process.

Of an interface only what a save collects is kept: its two address servers and its
client for prefix delegation.  `marks` records what was in memory at each call of
`markDirty`, latest first, and is never read by the program.
-/

import BridgeDhcp.Server.Dhcp4Server
import BridgeDhcp.Server.Dhcp6Server
import BridgeDhcp.Server.PdPlumbing

set_option autoImplicit false

namespace BridgeDhcp.Server

open GoMap GoError GoText GoTime Netip Packet Interaction

/-! ### Interfaces -/

inductive Family where
  | four
  | six
  deriving DecidableEq, Repr

structure Served where
  d4 : AddressServer
  d6 : AddressServer
  /-- None without delegation. -/
  pdc : Option Pd.World

structure Contents where
  statics : Family → Map String StaticBinding
  leases : Family → Map Addr Lease
  binding : Option Pd.Binding

namespace Served

def server (it : Served) : Family → AddressServer
  | .four => it.d4
  | .six => it.d6

def withServer (it : Served) (family : Family) (after : AddressServer) : Served :=
  match family with
  | .four => { it with d4 := after }
  | .six => { it with d6 := after }

def binding (it : Served) : Option Pd.Binding := it.pdc.bind (fun world => world.client.binding)

def contents (it : Served) : Contents where
  statics family := (it.server family).statics.bindings
  leases family := (it.server family).leases.leases
  binding := it.binding

theorem server_withServer (it : Served) (family other : Family) (after : AddressServer) :
    (it.withServer family after).server other = if other = family then after else it.server other := by
  cases family <;> cases other <;> rfl

@[simp] theorem pdc_withServer (it : Served) (family : Family) (after : AddressServer) :
    (it.withServer family after).pdc = it.pdc := by
  cases family <;> rfl

@[simp] theorem binding_withServer (it : Served) (family : Family) (after : AddressServer) :
    (it.withServer family after).binding = it.binding := by
  cases family <;> rfl

end Served

/-! ### The manager -/

structure Manager where
  ifaces : Map String Served
  marks : List (String → Option Contents)

namespace Manager

def contents (manager : Manager) (name : String) : Option Contents :=
  (manager.ifaces.lookup name).map Served.contents

def markDirty (manager : Manager) : Manager :=
  { manager with marks := manager.contents :: manager.marks }

def put (manager : Manager) (name : String) (it : Served) : Manager :=
  { manager with ifaces := manager.ifaces.insert name it }

theorem lookup_put (manager : Manager) (name other : String) (it : Served) :
    (manager.put name it).ifaces.lookup other =
      if other = name then some it else manager.ifaces.lookup other :=
  lookup_insert_cases manager.ifaces name other it

/-- What the hook of a lease table finds in memory when it marks the store dirty. -/
def contentsAtHook (manager : Manager) (name : String) (it : Served) (family : Family) :
    String → Option Contents :=
  Function.update manager.contents name (some
    { it.contents with
      leases := Function.update it.contents.leases family (it.server family).leases.noted })

/-- A server handles something outside the API; its lease table marks the store dirty
through its hook. -/
def serve (manager : Manager) (name : String) (it : Served) (family : Family)
    (after : AddressServer) : Manager :=
  let changed := it.withServer family after
  { manager.put name changed with
    marks :=
      if after.leases.notified = (it.server family).leases.notified then manager.marks
      else (manager.put name changed).contentsAtHook name changed family :: manager.marks }

def newServed {cfg ready : IfaceConfig} (normalized : cfg.normalize = .ok ready) (clock : Instant) :
    Served where
  d4 :=
    { cfg := ready.dhcp4
      normalized := (IfaceConfig.normalize_pools normalized).1
      statics := .empty
      leases := .newLeaseTable }
  d6 :=
    { cfg := ready.dhcp6
      normalized := (IfaceConfig.normalize_pools normalized).2
      statics := .empty
      leases := .newLeaseTable }
  pdc := ready.pd.map (fun _ => Pd.World.start Pd.Client.new clock)

/-- The loop of `NewManager`, given the interfaces it has added so far. -/
def newManagerFrom (clock : Instant) (manager : Manager) :
    List IfaceConfig → Except String Manager
  | [] => .ok manager
  | cfg :: rest =>
      match normalized : cfg.normalize with
      | .error reason => .error reason
      | .ok ready =>
          let quoted := quote ready.name
          if (manager.ifaces.lookup ready.name).isSome then .error s!"duplicate interface {quoted}"
          else newManagerFrom clock (manager.put ready.name (newServed normalized clock)) rest

section New

variable {clock : Instant}

theorem newManagerFrom_cons_iff (manager result : Manager) (cfg : IfaceConfig)
    (rest : List IfaceConfig) :
    newManagerFrom clock manager (cfg :: rest) = .ok result ↔
      ∃ (ready : IfaceConfig) (normalized : cfg.normalize = .ok ready),
        manager.ifaces.lookup cfg.name = none ∧
        newManagerFrom clock (manager.put cfg.name (newServed normalized clock)) rest =
          .ok result := by
  rw [newManagerFrom]
  split
  · next reason failed => simp [failed]
  · next ready normalized =>
      have name := (IfaceConfig.completedFrom normalized).name
      dsimp only
      rw [name]
      split
      · next taken =>
          simp only [reduceCtorEq, false_iff, not_exists]
          rintro _ _ ⟨free, _⟩
          rw [free] at taken
          cases taken
      · next free =>
          rw [Option.not_isSome_iff_eq_none] at free
          constructor
          · intro continued
            exact ⟨ready, normalized, free, continued⟩
          · rintro ⟨same, equal, _, continued⟩
            cases normalized.symm.trans equal
            exact continued

theorem lookup_newManagerFrom {cfgs : List IfaceConfig} {manager result : Manager}
    (managed : newManagerFrom clock manager cfgs = .ok result) (name : String) (it : Served) :
    result.ifaces.lookup name = some it ↔
      (∃ cfg ∈ cfgs, ∃ (ready : IfaceConfig) (normalized : cfg.normalize = .ok ready),
        cfg.name = name ∧ it = newServed normalized clock) ∨
        manager.ifaces.lookup name = some it := by
  induction cfgs generalizing manager with
  | nil =>
      cases managed
      simp
  | cons cfg rest ih =>
      obtain ⟨ready, normalized, free, continued⟩ :=
        (newManagerFrom_cons_iff manager result cfg rest).mp managed
      rw [ih continued, lookup_put]
      constructor
      · rintro (⟨later, member, found⟩ | here)
        · exact Or.inl ⟨later, List.mem_cons_of_mem cfg member, found⟩
        · split at here
          · next same =>
              exact Or.inl ⟨cfg, List.mem_cons_self, ready, normalized, same.symm,
                (Option.some.inj here).symm⟩
          · exact Or.inr here
      · rintro (⟨later, member, done, completed, same, equal⟩ | here)
        · rcases List.mem_cons.mp member with rfl | inside
          · cases normalized.symm.trans completed
            rw [if_pos same.symm, equal]
            exact Or.inr rfl
          · exact Or.inl ⟨later, inside, done, completed, same, equal⟩
        · right
          rw [if_neg]
          · exact here
          · intro same
            rw [same, free] at here
            cases here

theorem newManagerFrom_isOk_iff (cfgs : List IfaceConfig) (manager : Manager) :
    (∃ result, newManagerFrom clock manager cfgs = .ok result) ↔
      (∀ cfg ∈ cfgs, cfg.Completable ∧ manager.ifaces.lookup cfg.name = none) ∧
        (cfgs.map IfaceConfig.name).Nodup := by
  induction cfgs generalizing manager with
  | nil => simp [newManagerFrom]
  | cons cfg rest ih =>
      constructor
      · rintro ⟨result, managed⟩
        obtain ⟨ready, normalized, free, continued⟩ :=
          (newManagerFrom_cons_iff manager result cfg rest).mp managed
        obtain ⟨each, distinct⟩ := (ih _).mp ⟨result, continued⟩
        have apart : ∀ later ∈ rest, later.name ≠ cfg.name ∧
            manager.ifaces.lookup later.name = none := by
          intro later member
          have absent := (each later member).2
          rw [lookup_put] at absent
          split at absent
          · cases absent
          · next different => exact ⟨different, absent⟩
        constructor
        · intro later member
          rcases List.mem_cons.mp member with rfl | inside
          · exact ⟨(IfaceConfig.normalize_isOk_iff _).mp ⟨ready, normalized⟩, free⟩
          · exact ⟨(each later inside).1, (apart later inside).2⟩
        · rw [List.map_cons, List.nodup_cons]
          refine ⟨?_, distinct⟩
          intro repeated
          obtain ⟨later, member, same⟩ := List.mem_map.mp repeated
          exact (apart later member).1 same
      · rintro ⟨each, distinct⟩
        rw [List.map_cons, List.nodup_cons] at distinct
        obtain ⟨completable, free⟩ := each cfg List.mem_cons_self
        obtain ⟨ready, normalized⟩ := (IfaceConfig.normalize_isOk_iff cfg).mpr completable
        have later : ∀ other ∈ rest, other.Completable ∧
            (manager.put cfg.name (newServed normalized clock)).ifaces.lookup other.name = none := by
          intro other member
          obtain ⟨fits, absent⟩ := each other (List.mem_cons_of_mem cfg member)
          refine ⟨fits, ?_⟩
          rw [lookup_put, if_neg]
          · exact absent
          · intro same
            exact distinct.1 (same ▸ List.mem_map_of_mem member)
        obtain ⟨result, continued⟩ := (ih _).mpr ⟨later, distinct.2⟩
        exact ⟨result, (newManagerFrom_cons_iff manager result cfg rest).mpr
          ⟨ready, normalized, free, continued⟩⟩

theorem exists_lookup_newManagerFrom {cfgs : List IfaceConfig} {manager result : Manager}
    (managed : newManagerFrom clock manager cfgs = .ok result) {name : String}
    (listed : name ∈ cfgs.map IfaceConfig.name) : ∃ it, result.ifaces.lookup name = some it := by
  obtain ⟨cfg, member, same⟩ := List.mem_map.mp listed
  have completable := ((newManagerFrom_isOk_iff cfgs manager).mp ⟨result, managed⟩).1 cfg member
  obtain ⟨ready, normalized⟩ := (IfaceConfig.normalize_isOk_iff cfg).mpr completable.1
  exact ⟨newServed normalized clock, (lookup_newManagerFrom managed name _).mpr
    (Or.inl ⟨cfg, member, ready, normalized, same, rfl⟩)⟩

theorem newManagerFrom_isOk_iff_newManager (cfgs : List IfaceConfig) (manager : Manager)
    (names : List String) (known : ∀ name, name ∈ names ↔ manager.ifaces.lookup name ≠ none) :
    (∃ result, newManagerFrom clock manager cfgs = .ok result) ↔
      ∃ readies, newManager names cfgs = .ok readies := by
  induction cfgs generalizing manager names with
  | nil => exact ⟨fun _ => ⟨[], rfl⟩, fun _ => ⟨manager, rfl⟩⟩
  | cons cfg rest ih =>
      have grown : ∀ {ready : IfaceConfig} (normalized : cfg.normalize = .ok ready) (name : String),
          name ∈ ready.name :: names ↔
            (manager.put cfg.name (newServed normalized clock)).ifaces.lookup name ≠ none := by
        intro ready normalized name
        rw [lookup_put, List.mem_cons, known, (IfaceConfig.completedFrom normalized).name]
        by_cases same : name = cfg.name
        · simp [same]
        · simp [same]
      constructor
      · rintro ⟨result, managed⟩
        obtain ⟨ready, normalized, free, continued⟩ :=
          (newManagerFrom_cons_iff manager result cfg rest).mp managed
        obtain ⟨others, managedRest⟩ := (ih _ _ (grown normalized)).mp ⟨result, continued⟩
        refine ⟨ready :: others, ?_⟩
        have fresh : ready.name ∉ names := by
          rw [known, (IfaceConfig.completedFrom normalized).name]
          exact not_not.mpr free
        unfold newManager
        rw [normalized]
        change (if ready.name ∈ names then _ else _) = _
        rw [if_neg fresh, managedRest]
        rfl
      · rintro ⟨readies, managed⟩
        obtain ⟨ready, normalized, afterFirst⟩ := bind_eq_ok managed
        dsimp only at afterFirst
        split at afterFirst
        · cases afterFirst
        · next fresh =>
            rw [known, not_not, (IfaceConfig.completedFrom normalized).name] at fresh
            obtain ⟨others, managedRest, _⟩ := bind_eq_ok afterFirst
            obtain ⟨result, continued⟩ := (ih _ _ (grown normalized)).mpr ⟨others, managedRest⟩
            exact ⟨result, (newManagerFrom_cons_iff manager result cfg rest).mpr
              ⟨ready, normalized, fresh, continued⟩⟩

end New

/-! ### The API -/

section Api


def iface (manager : Manager) (name : String) : Except String Served :=
  let quoted := quote name
  match manager.ifaces.lookup name with
  | none => .error s!"unknown interface {quoted}"
  | some it => .ok it

def familyOf (family : Int) : Except String Family :=
  if family = 4 then .ok .four
  else if family = 6 then .ok .six
  else .error "family must be 4 or 6"

def editStatics (manager : Manager) (name : String) (family : Int)
    (edit : AddressServer → Except String AddressServer) : Except String Manager := do
  let it ← manager.iface name
  let which ← familyOf family
  let edited ← edit (it.server which)
  .ok (manager.put name (it.withServer which edited)).markDirty

theorem iface_eq_ok_iff {manager : Manager} {name : String} {it : Served} :
    manager.iface name = .ok it ↔ manager.ifaces.lookup name = some it := by
  unfold iface
  cases manager.ifaces.lookup name with
  | none => simp
  | some found => simp

theorem editStatics_eq_ok_iff {manager after : Manager} {name : String} {family : Int}
    {edit : AddressServer → Except String AddressServer} :
    manager.editStatics name family edit = .ok after ↔
      ∃ it which edited, manager.ifaces.lookup name = some it ∧ familyOf family = .ok which ∧
        edit (it.server which) = .ok edited ∧
        after = (manager.put name (it.withServer which edited)).markDirty := by
  unfold editStatics
  constructor
  · intro succeeded
    obtain ⟨it, found, afterIface⟩ := bind_eq_ok succeeded
    obtain ⟨which, chosen, afterFamily⟩ := bind_eq_ok afterIface
    obtain ⟨edited, done, last⟩ := bind_eq_ok afterFamily
    exact ⟨it, which, edited, iface_eq_ok_iff.mp found, chosen, done, (Except.ok.inj last).symm⟩
  · rintro ⟨it, which, edited, found, chosen, done, rfl⟩
    rw [iface_eq_ok_iff.mpr found, chosen]
    change (edit (it.server which) >>= _) = _
    rw [done]
    rfl

def replaceStatics (manager : Manager) (name : String) (family : Int)
    (bindings : List StaticBinding) : Except String Manager :=
  manager.editStatics name family (fun server => server.replaceStatics bindings)

def putStatic (manager : Manager) (name : String) (family : Int) (binding : StaticBinding) :
    Except String Manager :=
  manager.editStatics name family (fun server => server.putStatic binding)

def deleteStatic (manager : Manager) (name : String) (family : Int) (id : String) :
    Except String Manager :=
  manager.editStatics name family (fun server => server.deleteStatic id)

def familyOfAddr (ip : Addr) : Family := if ip.is4 then .four else .six

def deleteLease (manager : Manager) (name : String) (ip : Addr) : Except (String ⊕ Addr) Manager :=
  match manager.iface name with
  | .error reason => .error (.inl reason)
  | .ok it =>
      match (it.server (familyOfAddr ip)).releaseLease ip with
      | .error missing => .error (.inr missing)
      | .ok after => .ok (manager.serve name it (familyOfAddr ip) after)

def callClient (manager : Manager) (name : String) (call : Pd.ApiCall) : Except String Manager := do
  let it ← manager.iface name
  let quoted := quote name
  match it.pdc with
  | none => .error s!"interface {quoted} has no PD client"
  | some world => .ok (manager.put name { it with pdc := some (world.call call) })

def renewPD (manager : Manager) (name : String) : Except String Manager :=
  manager.callClient name .renew

def releasePD (manager : Manager) (name : String) : Except String Manager :=
  manager.callClient name .release

end Api

/-! ### The goroutines of an interface -/

/-- A turn of `readLoop`: the DHCPv6 server sees what the DHCPv4 server does not claim. -/
def readFrame (lib4 : Library4) (lib6 : Library6) (manager : Manager) (name : String) (env : Env)
    (orders : RangeOrders) (now : Int) (pkt : Ingress) : Manager :=
  match manager.ifaces.lookup name with
  | none => manager
  | some it =>
      let handled := handleFrame4 lib4 env orders now it.d4 pkt
      if handled.consumed then manager.serve name it .four handled.server
      else manager.serve name it .six (handleFrame6 lib6 env orders now it.d6 pkt).server

def sweep (manager : Manager) (name : String) (family : Family) (now : Int) : Manager :=
  match manager.ifaces.lookup name with
  | none => manager
  | some it =>
      let server := it.server family
      manager.serve name it family { server with leases := server.leases.expireSweep now }

/-- `onPDChange` ends by marking the store dirty. -/
def calledBack (manager : Manager) : Pd.Op → Manager
  | .callback _ _ => manager.markDirty
  | _ => manager

def clientOp (name : String) (manager : Manager) (moment : Pd.Moment) (op : Pd.Op) :
    Option (op.Answer × Manager) :=
  match manager.ifaces.lookup name with
  | none => none
  | some it =>
      match it.pdc with
      | none => none
      | some world =>
          (Pd.handle world moment op).map (fun result =>
            (result.1, (manager.put name { it with pdc := some result.2 }).calledBack op))

end Manager

/-- Operations of the client that leave its delegation alone and tell nobody. -/
def Aloof : Pd.Op → Bool
  | .store _ _ => false
  | .clear => false
  | .callback _ _ => false
  | _ => true

/-- What the client's goroutine does: it applies a reply, drops its delegation, or carries
out some other operation. -/
inductive ClientStep where
  | applyReply (reply : Answer6)
  | dropPrefix
  | other (op : Pd.Op) (aloof : Aloof op = true)

/-! ### Operations -/

inductive Operation where
  | frame (name : String) (env : Env) (orders : RangeOrders) (now : Int) (pkt : Ingress)
  | sweep (name : String) (family : Family) (now : Int)
  | replaceStatics (name : String) (family : Int) (bindings : List StaticBinding)
  | putStatic (name : String) (family : Int) (binding : StaticBinding)
  | deleteStatic (name : String) (family : Int) (id : String)
  | deleteLease (name : String) (ip : Addr)
  | renewPD (name : String)
  | releasePD (name : String)
  /-- A step of an interface's delegation client; each of its operations has a moment. -/
  | client (name : String) (step : ClientStep) (moments : Nat → Pd.Moment)

namespace Manager

def orUnchanged {Reason : Type} (manager : Manager) : Except Reason Manager → Manager
  | .error _ => manager
  | .ok after => after

def atEnd {Value : Type} (manager : Manager) : Option (Value × Manager) → Manager
  | none => manager
  | some result => result.2

def stepClient (manager : Manager) (name : String) (moments : Nat → Pd.Moment) :
    ClientStep → Manager
  | .applyReply reply => manager.atEnd (finish (clientOp name) (Pd.applyReply reply) manager moments)
  | .dropPrefix => manager.atEnd (finish (clientOp name) Pd.dropPrefix manager moments)
  | .other op _ => manager.atEnd (clientOp name manager (moments 0) op)

def step (lib4 : Library4) (lib6 : Library6) (manager : Manager) :
    Operation → Manager
  | .frame name env orders now pkt => manager.readFrame lib4 lib6 name env orders now pkt
  | .sweep name family now => manager.sweep name family now
  | .replaceStatics name family bindings =>
      manager.orUnchanged (manager.replaceStatics name family bindings)
  | .putStatic name family binding =>
      manager.orUnchanged (manager.putStatic name family binding)
  | .deleteStatic name family id => manager.orUnchanged (manager.deleteStatic name family id)
  | .deleteLease name ip => manager.orUnchanged (manager.deleteLease name ip)
  | .renewPD name => manager.orUnchanged (manager.renewPD name)
  | .releasePD name => manager.orUnchanged (manager.releasePD name)
  | .client name step moments => manager.stepClient name moments step

end Manager

/-! ### The state file -/

structure PersistedIface where
  statics4 : List StaticBinding
  statics6 : List StaticBinding
  leases4 : List Lease
  leases6 : List Lease
  pd : Option PersistedPD
  deriving DecidableEq

namespace PersistedIface

def statics (saved : PersistedIface) : Family → List StaticBinding
  | .four => saved.statics4
  | .six => saved.statics6

def leases (saved : PersistedIface) : Family → List Lease
  | .four => saved.leases4
  | .six => saved.leases6

end PersistedIface

/-- The static bindings and the active leases in the order of their iteration. -/
def AddressServer.listStatic (server : AddressServer) (orders : RangeOrders) : List StaticBinding :=
  listBindings server.statics.bindings orders

def AddressServer.activeLeases (server : AddressServer) (orders : RangeOrders) (now : Int) :
    List Lease :=
  server.leases.snapshot orders.leases now

def persistedPD (binding : Pd.Binding) : PersistedPD where
  net := some binding.net
  boundAt := binding.boundAt
  expiresAt := binding.expiresAt

namespace Served

def persisted (it : Served) (orders : Family → RangeOrders) (now : Int) : PersistedIface where
  statics4 := it.d4.listStatic (orders .four)
  statics6 := it.d6.listStatic (orders .six)
  leases4 := it.d4.activeLeases (orders .four) now
  leases6 := it.d6.activeLeases (orders .six) now
  pd := it.binding.map persistedPD

theorem persisted_statics (it : Served) (orders : Family → RangeOrders) (now : Int)
    (family : Family) :
    (it.persisted orders now).statics family = (it.server family).listStatic (orders family) := by
  cases family <;> rfl

theorem persisted_leases (it : Served) (orders : Family → RangeOrders) (now : Int)
    (family : Family) :
    (it.persisted orders now).leases family =
      (it.server family).activeLeases (orders family) now := by
  cases family <;> rfl

end Served

/-- An empty list leaves the bindings as they are, and so does one that is refused. -/
def AddressServer.restore (server : AddressServer) (statics : List StaticBinding)
    (leases : List Lease) : AddressServer :=
  let reset := if statics = [] then server else keepOnError server (server.replaceStatics statics)
  { reset with leases := reset.leases.load leases }

namespace Served

/-- The part of `restore` that a save collects again. -/
def restore (it : Served) (saved : PersistedIface) (now : Instant) : Served where
  d4 := it.d4.restore saved.statics4 saved.leases4
  d6 := it.d6.restore saved.statics6 saved.leases6
  pdc := it.pdc.map (fun world =>
    match saved.pd with
    | none => world
    | some pd => { world with client := pd.restore world.client now })

/-- A delegation that is still valid is plumbed, which marks the store dirty. -/
def replumbs (it : Served) (saved : PersistedIface) (now : Instant) : Bool :=
  it.pdc.isSome && saved.pd.any (fun pd => now < pd.expiresAt)

theorem restore_server (it : Served) (saved : PersistedIface) (now : Instant) (family : Family) :
    (it.restore saved now).server family =
      (it.server family).restore (saved.statics family) (saved.leases family) := by
  cases family <;> rfl

end Served

namespace Manager

def collectState (manager : Manager) (orders : String → Family → RangeOrders) (now : Int) :
    Map String PersistedIface :=
  mapValues (fun name it => it.persisted (orders name) now) manager.ifaces

def restoreIface (stored : Map String PersistedIface) (now : Instant) (manager : Manager)
    (visited : String × Served) : Manager :=
  match stored.lookup visited.1 with
  | none => manager
  | some saved =>
      let restored := manager.put visited.1 (visited.2.restore saved now)
      if visited.2.replumbs saved now then restored.markDirty else restored

/-- `Start`, up to the goroutines it launches. -/
def start (manager : Manager) (stored : Map String PersistedIface)
    (order : RangeOrder (String × Served)) (now : Instant) : Manager :=
  (order.arrange (pairs manager.ifaces)).foldl (restoreIface stored now) manager

def stop (manager : Manager) : Manager :=
  { manager with
    ifaces := mapValues (fun _ it => { it with pdc := it.pdc.map (fun world => world.call .stop) })
      manager.ifaces }

end Manager

end BridgeDhcp.Server
