/-
What the state file brings back.

Whatever the manager does, its interfaces keep their clients, and their lease tables
keep to valid addresses.
-/

import BridgeDhcp.Server.LeaseExpiry
import BridgeDhcp.Server.ManagerSteps

set_option autoImplicit false

namespace BridgeDhcp.Server

open GoMap GoError GoTime Netip Packet Interaction StepRun

/-! ### Valid addresses -/

namespace LeaseTable

variable {table : LeaseTable}

theorem validKeys_newLeaseTable : newLeaseTable.ValidKeys := by
  intro ip lease found
  cases found

theorem ValidKeys.set (valid : table.ValidKeys) {lease : Lease} (usable : lease.ip.isValid = true) :
    (table.set lease).ValidKeys := by
  intro ip found present
  rw [entry_set] at present
  split at present
  · next same =>
      rw [same]
      exact usable
  · exact valid ip found present

theorem ValidKeys.release (valid : table.ValidKeys) (ip : Addr) : (table.release ip).2.ValidKeys := by
  intro other lease found
  exact valid other lease (entry_of_release found)

theorem ValidKeys.expireSweep (valid : table.ValidKeys) (now : Int) :
    (table.expireSweep now).ValidKeys := by
  intro ip lease found
  exact valid ip lease (entry_of_expireSweep found).1

theorem ValidKeys.moved (valid : table.ValidKeys) {after : LeaseTable} (moved : table.Moved after) :
    after.ValidKeys := by
  cases moved with
  | unchanged => exact valid
  | set usable => exact valid.set usable
  | release ip => exact valid.release ip
  | expireSweep now => exact valid.expireSweep now

theorem validKeys_load (table : LeaseTable) (restored : List Lease) :
    (table.load restored).ValidKeys := by
  intro ip lease found
  by_contra invalid
  change (restored.foldl loadOne _).entry ip = some lease at found
  rw [entry_foldl_loadOne_invalid _ _ (eq_false_of_ne_true invalid)] at found
  cases found

end LeaseTable

/-! ### What an interface keeps -/

/-- The interface has a client if it had one, and valid addresses if it had such. -/
structure Evolves (before after : Served) : Prop where
  client : after.pdc.isSome = before.pdc.isSome
  valid : ∀ family, (before.server family).leases.ValidKeys →
    (after.server family).leases.ValidKeys

theorem Evolves.refl (it : Served) : Evolves it it := ⟨rfl, fun _ valid => valid⟩

theorem Evolves.trans {first second third : Served} (earlier : Evolves first second)
    (later : Evolves second third) : Evolves first third :=
  ⟨later.client.trans earlier.client, fun family valid =>
    later.valid family (earlier.valid family valid)⟩

theorem Evolves.withServer (it : Served) {family : Family} {after : AddressServer}
    (valid : (it.server family).leases.ValidKeys → after.leases.ValidKeys) :
    Evolves it (it.withServer family after) := by
  refine ⟨by rw [Served.pdc_withServer], ?_⟩
  intro other before
  rw [Served.server_withServer]
  split
  · next same =>
      rw [same] at before
      exact valid before
  · exact before

theorem Evolves.withClient {it : Served} {world : Pd.World} (client : it.pdc = some world)
    (next : Pd.World) : Evolves it { it with pdc := some next } := by
  refine ⟨?_, fun family valid => ?_⟩
  · rw [client]
    rfl
  · cases family <;> exact valid

namespace Manager

def Evolve (before after : Manager) : Prop :=
  ∀ name, Option.Rel Evolves (before.ifaces.lookup name) (after.ifaces.lookup name)

theorem Evolve.refl (manager : Manager) : Evolve manager manager := by
  intro name
  cases manager.ifaces.lookup name with
  | none => exact .none
  | some it => exact .some (.refl it)

theorem Evolve.trans {first second third : Manager} (earlier : Evolve first second)
    (later : Evolve second third) : Evolve first third := by
  intro name
  have before := earlier name
  have after := later name
  generalize first.ifaces.lookup name = start at before ⊢
  generalize second.ifaces.lookup name = middle at before after
  generalize third.ifaces.lookup name = last at after ⊢
  cases before with
  | none =>
      cases after with
      | none => exact .none
  | some evolves =>
      cases after with
      | some evolvesLater => exact .some (evolves.trans evolvesLater)

variable {manager : Manager} {name : String} {it : Served}

theorem Evolve.put (found : manager.ifaces.lookup name = some it) {after : Served}
    (evolves : Evolves it after) {result : Manager}
    (same : result.ifaces = (manager.put name after).ifaces) : Evolve manager result := by
  intro other
  rw [same, lookup_put]
  by_cases here : other = name
  · rw [if_pos here, here, found]
    exact .some evolves
  · rw [if_neg here]
    exact Evolve.refl manager other

theorem Evolve.clientOp {moment : Pd.Moment} {op : Pd.Op} {answer : op.Answer} {after : Manager}
    (answered : clientOp name manager moment op = some (answer, after)) : Evolve manager after := by
  unfold Manager.clientOp at answered
  split at answered
  · cases answered
  · next it found =>
      split at answered
      · cases answered
      · next world client =>
          obtain ⟨result, _, same⟩ := Option.map_eq_some_iff.mp answered
          cases same
          apply Evolve.put found (.withClient client result.2)
          cases op <;> rfl

theorem Evolve.finish {Value : Type} {routine : Pd.Routine Value} {moments : Nat → Pd.Moment}
    {value : Value} {after : Manager}
    (ended : finish (Manager.clientOp name) routine manager moments = some (value, after)) :
    Evolve manager after := by
  induction routine generalizing manager moments with
  | ret result =>
      cases ended
      exact .refl _
  | cut => cases ended
  | act op next ih =>
      unfold Interaction.finish at ended
      cases answered : Manager.clientOp name manager (moments 0) op with
      | none =>
          rw [answered] at ended
          cases ended
      | some result =>
          rw [answered] at ended
          exact (Evolve.clientOp answered).trans (ih result.1 ended)

theorem Evolve.atEnd {Value : Type} {ended : Option (Value × Manager)}
    (evolve : ∀ value after, ended = some (value, after) → Evolve manager after) :
    Evolve manager (manager.atEnd ended) := by
  cases ended with
  | none => exact .refl manager
  | some result => exact evolve result.1 result.2 rfl

theorem Evolve.stepClient (manager : Manager) (name : String) (moments : Nat → Pd.Moment)
    (step : ClientStep) : Evolve manager (manager.stepClient name moments step) := by
  cases step with
  | applyReply reply => exact Evolve.atEnd (fun _ _ ended => Evolve.finish ended)
  | dropPrefix => exact Evolve.atEnd (fun _ _ ended => Evolve.finish ended)
  | other op aloof => exact Evolve.atEnd (fun _ _ answered => Evolve.clientOp answered)

theorem Evolve.of_change {after : Manager} (change : Change manager after) :
    Evolve manager after := by
  cases change with
  | unchanged => exact .refl manager
  | served found family statics moved =>
      exact Evolve.put found (.withServer _ (fun valid => valid.moved moved)) rfl
  | edited found family leases =>
      apply Evolve.put found (.withServer _ _) rfl
      rw [leases]
      exact id
  | called found client call => exact Evolve.put found (.withClient client _) rfl

section Operations

variable (lib4 : Library4) (lib6 : Library6)

theorem Evolve.step (manager : Manager) (operation : Operation) :
    Evolve manager (manager.step lib4 lib6 operation) := by
  rcases step_cases lib4 lib6 manager operation with ⟨name, step, moments, rfl⟩ | change
  · exact Evolve.stepClient manager name moments step
  · exact .of_change change

theorem Evolve.run (manager : Manager) (operations : List Operation) :
    Evolve manager (StepRun.run (Manager.step lib4 lib6) manager operations) := by
  apply run_invariant (Manager.step lib4 lib6) (Evolve manager) (fun _ _ => True)
  · intro state operation _ evolved
    exact evolved.trans (Evolve.step lib4 lib6 state operation)
  · exact .refl manager
  · intro before operation after split
    trivial

end Operations

theorem lookup_stop (manager : Manager) (name : String) :
    manager.stop.ifaces.lookup name =
      (manager.ifaces.lookup name).map (fun it =>
        { it with pdc := it.pdc.map (fun world => world.call .stop) }) :=
  lookup_mapValues _ manager.ifaces name

theorem Evolve.stop (manager : Manager) : Evolve manager manager.stop := by
  intro name
  rw [lookup_stop]
  cases manager.ifaces.lookup name with
  | none => exact .none
  | some it =>
      apply Option.Rel.some
      refine ⟨Option.isSome_map, fun family valid => ?_⟩
      cases family <;> exact valid

/-! ### Start -/

def restoredAs (stored : Map String PersistedIface) (now : Instant) (name : String) (it : Served) :
    Served :=
  match stored.lookup name with
  | none => it
  | some saved => it.restore saved now

theorem lookup_restoreIface (stored : Map String PersistedIface) (now : Instant)
    {manager : Manager} {visited : String × Served}
    (found : manager.ifaces.lookup visited.1 = some visited.2) (name : String) :
    (restoreIface stored now manager visited).ifaces.lookup name =
      if name = visited.1 then some (restoredAs stored now visited.1 visited.2)
      else manager.ifaces.lookup name := by
  unfold restoreIface restoredAs
  cases stored.lookup visited.1 with
  | none =>
      dsimp only
      split
      · next same => rw [same, found]
      · rfl
  | some saved =>
      dsimp only
      split
      · exact lookup_put manager visited.1 name _
      · exact lookup_put manager visited.1 name _

theorem lookup_foldl_restoreIface (stored : Map String PersistedIface) (now : Instant)
    (visits : List (String × Served)) (manager : Manager) (once : (visits.map Prod.fst).Nodup)
    (found : ∀ visited ∈ visits, manager.ifaces.lookup visited.1 = some visited.2) (name : String) :
    (visits.foldl (restoreIface stored now) manager).ifaces.lookup name =
      if name ∈ visits.map Prod.fst then
        (manager.ifaces.lookup name).map (restoredAs stored now name)
      else manager.ifaces.lookup name := by
  induction visits generalizing manager with
  | nil => simp
  | cons first rest ih =>
      rw [List.map_cons, List.nodup_cons] at once
      have here := found first List.mem_cons_self
      have later : ∀ visited ∈ rest,
          (restoreIface stored now manager first).ifaces.lookup visited.1 = some visited.2 := by
        intro visited member
        rw [lookup_restoreIface stored now here, if_neg]
        · exact found visited (List.mem_cons_of_mem first member)
        · intro same
          exact once.1 (List.mem_map.mpr ⟨visited, member, same⟩)
      rw [List.foldl_cons, ih _ once.2 later, lookup_restoreIface stored now here, List.map_cons]
      by_cases same : name = first.1
      · rw [same, if_neg once.1, if_pos rfl, if_pos List.mem_cons_self, here]
        rfl
      · rw [if_neg same]
        simp only [List.mem_cons, same, false_or]

theorem lookup_start (manager : Manager) (stored : Map String PersistedIface)
    (order : RangeOrder (String × Served)) (now : Instant) (name : String) :
    (manager.start stored order now).ifaces.lookup name =
      (manager.ifaces.lookup name).map (restoredAs stored now name) := by
  unfold start
  rw [lookup_foldl_restoreIface stored now _ manager (nodup_arrange_pairs order manager.ifaces)]
  · split
    · rfl
    · next unvisited =>
        cases present : manager.ifaces.lookup name with
        | none => rfl
        | some it =>
            have visited := order.mem_arrange.mpr
              ((mem_pairs_iff manager.ifaces name it).mpr present)
            exact absurd (List.mem_map.mpr ⟨_, visited, rfl⟩) unvisited
  · intro visited listed
    exact (mem_pairs_iff manager.ifaces visited.1 visited.2).mp (order.mem_arrange.mp listed)

end Manager

/-! ### Saving and restoring an interface -/

section RoundTrip

theorem mem_listStatic_iff (server : AddressServer) (orders : RangeOrders) (binding : StaticBinding) :
    binding ∈ server.listStatic orders ↔
      server.statics.bindings.lookup binding.id = some binding := by
  unfold AddressServer.listStatic listBindings
  rw [orders.statics.mem_arrange, mem_values_iff]
  constructor
  · rintro ⟨id, found⟩
    rw [(server.statics.wellFormed id binding found).1]
    exact found
  · intro found
    exact ⟨binding.id, found⟩

theorem acceptable_listStatic (server : AddressServer) (orders : RangeOrders) :
    AcceptableSet (server.listStatic orders) where
  each binding listed := by
    have found := (mem_listStatic_iff server orders binding).mp listed
    exact (StaticBinding.acceptable_iff binding).mpr
      (server.statics.wellFormed binding.id binding found).2
  distinct := by
    unfold AddressServer.listStatic listBindings
    rw [((orders.statics.visits _).map StaticBinding.id).nodup_iff]
    have keys : (values server.statics.bindings).map StaticBinding.id =
        server.statics.bindings.entries.keys := by
      unfold values List.keys
      rw [List.map_map]
      apply List.map_congr_left
      intro entry listed
      exact (server.statics.wellFormed entry.1 entry.2 (AList.mem_lookup_iff.mpr listed)).1
    rw [keys]
    exact server.statics.bindings.nodupKeys

theorem listStatic_eq_nil_iff (server : AddressServer) (orders : RangeOrders) :
    server.listStatic orders = [] ↔ ∀ id, server.statics.bindings.lookup id = none := by
  rw [List.eq_nil_iff_forall_not_mem]
  constructor
  · intro none id
    rw [Option.eq_none_iff_forall_ne_some]
    intro binding found
    have named := (server.statics.wellFormed id binding found).1
    apply none binding
    rw [mem_listStatic_iff, named]
    exact found
  · intro none binding listed
    rw [mem_listStatic_iff, none] at listed
    cases listed

theorem lookup_of_listStatic {server : AddressServer} {orders : RangeOrders} {set : StaticSet}
    (built : buildStaticSet (server.listStatic orders) = .ok set) (id : String) :
    set.bindings.lookup id = server.statics.bindings.lookup id := by
  apply Option.ext
  intro binding
  rw [lookup_buildStaticSet built, mem_listStatic_iff]
  constructor
  · rintro ⟨found, rfl⟩
    exact found
  · intro found
    have named := (server.statics.wellFormed id binding found).1
    rw [named]
    exact ⟨found, rfl⟩

theorem lookup_restore_listStatic (base server : AddressServer) (orders : RangeOrders)
    (leases : List Lease) (id : String) :
    (base.restore (server.listStatic orders) leases).statics.bindings.lookup id =
      if server.listStatic orders = [] then base.statics.bindings.lookup id
      else server.statics.bindings.lookup id := by
  unfold AddressServer.restore
  dsimp only
  split
  · rfl
  · obtain ⟨set, built⟩ := (buildStaticSet_isOk_iff _).mpr (acceptable_listStatic server orders)
    have replaced : base.replaceStatics (server.listStatic orders) =
        .ok { base with statics := set } :=
      AddressServer.replaceStatics_eq_ok_iff.mpr ⟨set, built, rfl⟩
    rw [replaced]
    exact lookup_of_listStatic built id

namespace Served

theorem evolves_restore (it : Served) (saved : PersistedIface) (now : Instant) :
    Evolves it (it.restore saved now) where
  client := Option.isSome_map
  valid family _ := by
    rw [restore_server]
    exact LeaseTable.validKeys_load _ _

theorem binding_restore {base : Served} (client : base.pdc.isSome = true) {saved : PersistedIface}
    {held : Pd.Binding} (kept : saved.pd = some (persistedPD held)) {now : Instant}
    (current : now ≤ held.expiresAt) : (base.restore saved now).binding = some held := by
  obtain ⟨world, present⟩ := Option.isSome_iff_exists.mp client
  unfold restore binding
  rw [present, kept]
  change (Pd.Client.restore world.client held now).binding = some held
  unfold Pd.Client.restore
  rw [if_neg (Int.not_lt.mpr current)]

end Served

structure KeptAcross (now : Instant) (before after : Served) : Prop where
  statics : ∀ family id, (after.server family).statics.bindings.lookup id =
    (before.server family).statics.bindings.lookup id
  leases : ∀ family, LeaseTable.AgreeAt now (before.server family).leases (after.server family).leases
  binding : ∀ held, before.binding = some held → now ≤ held.expiresAt → after.binding = some held

/-- Through the state file everything is kept, but a set that is empty gives way to the one the
interface was started with. -/
theorem keptAcross_restore_iff {it base : Served} (client : base.pdc.isSome = it.pdc.isSome)
    (valid : ∀ family, (it.server family).leases.ValidKeys) (orders : Family → RangeOrders)
    {stopped now : Instant} (later : stopped ≤ now) :
    KeptAcross now it (base.restore (it.persisted orders stopped) now) ↔
      ∀ family, (∀ id, (it.server family).statics.bindings.lookup id = none) →
        ∀ id, (base.server family).statics.bindings.lookup id = none := by
  have statics : ∀ family id,
      ((base.restore (it.persisted orders stopped) now).server family).statics.bindings.lookup id =
        if (it.server family).listStatic (orders family) = [] then
          (base.server family).statics.bindings.lookup id
        else (it.server family).statics.bindings.lookup id := by
    intro family id
    rw [Served.restore_server, Served.persisted_statics]
    exact lookup_restore_listStatic _ _ _ _ id
  constructor
  · intro kept family none id
    have same := (statics family id).symm.trans (kept.statics family id)
    rw [if_pos ((listStatic_eq_nil_iff _ _).mpr none), none] at same
    exact same
  · intro gives
    refine ⟨?_, ?_, ?_⟩
    · intro family id
      rw [statics]
      split
      · next empty =>
          have none := (listStatic_eq_nil_iff _ _).mp empty
          rw [none, gives family none]
      · rfl
    · intro family
      rw [Served.restore_server, Served.persisted_leases]
      exact (LeaseTable.agreeAt_load_snapshot (valid family) _ _ stopped).later later
    · intro held bound current
      have saved : (it.persisted orders stopped).pd = some (persistedPD held) := by
        change it.binding.map persistedPD = _
        rw [bound]
        rfl
      apply Served.binding_restore _ saved current
      rw [client]
      unfold Served.binding at bound
      obtain ⟨world, present, _⟩ := Option.bind_eq_some_iff.mp bound
      rw [present]
      rfl

end RoundTrip

theorem Manager.Evolve.start (manager : Manager) (stored : Map String PersistedIface)
    (order : RangeOrder (String × Served)) (now : Instant) :
    Evolve manager (manager.start stored order now) := by
  intro name
  rw [lookup_start]
  cases manager.ifaces.lookup name with
  | none => exact .none
  | some it =>
      apply Option.Rel.some
      unfold restoredAs
      cases stored.lookup name with
      | none => exact .refl it
      | some saved => exact Served.evolves_restore it saved now

end BridgeDhcp.Server
