/-
Whether every change that belongs into the state file schedules a save.

An operation may change what `collectState` returns.  Then `markDirty` has to be called
once the change is made, so that the save it schedules finds it.
-/

import BridgeDhcp.Server.ClientNoninterference
import BridgeDhcp.Server.LeaseExpiry
import BridgeDhcp.Server.ManagerSteps

set_option autoImplicit false

namespace BridgeDhcp.Server

open GoMap GoError GoTime Netip Packet Interaction StepRun

/-! ### What is saved -/

/-- Two saves of an interface say the same; bindings are listed in any order. -/
structure SameSaved (left right : PersistedIface) : Prop where
  statics : ∀ family, (left.statics family).Perm (right.statics family)
  leases : ∀ family, left.leases family = right.leases family
  pd : left.pd = right.pd

def SameState (left right : Map String PersistedIface) : Prop :=
  ∀ name, Option.Rel SameSaved (left.lookup name) (right.lookup name)

theorem persistedPD_injective : Function.Injective persistedPD := by
  intro left right same
  cases left
  cases right
  cases same
  rfl

theorem Served.persisted_of_contents {left right : Served} (same : left.contents = right.contents)
    (first last : Family → RangeOrders) (now : Int) :
    SameSaved (left.persisted first now) (right.persisted last now) where
  statics family := by
    have bindings : (left.server family).statics.bindings = (right.server family).statics.bindings :=
      congrFun (congrArg Contents.statics same) family
    rw [Served.persisted_statics, Served.persisted_statics]
    unfold AddressServer.listStatic listBindings
    rw [bindings]
    exact ((first family).statics.visits _).trans ((last family).statics.visits _).symm
  leases family := by
    have leases : (left.server family).leases.leases = (right.server family).leases.leases :=
      congrFun (congrArg Contents.leases same) family
    rw [Served.persisted_leases, Served.persisted_leases]
    apply LeaseTable.AgreeAt.snapshot
    intro ip lease _
    unfold LeaseTable.entry
    rw [leases]
  pd := by
    have bindings : left.binding = right.binding := congrArg Contents.binding same
    unfold Served.persisted
    rw [bindings]

theorem Manager.collectState_of_contents {before after : Manager}
    (same : after.contents = before.contents) (first last : String → Family → RangeOrders)
    (now : Int) : SameState (before.collectState first now) (after.collectState last now) := by
  intro name
  have here := congrFun same name
  unfold Manager.contents at here
  unfold Manager.collectState
  rw [lookup_mapValues, lookup_mapValues]
  cases old : before.ifaces.lookup name with
  | none =>
      rw [old, Option.map_none, Option.map_eq_none_iff] at here
      rw [here]
      exact Option.Rel.none
  | some it =>
      rw [old, Option.map_some, Option.map_eq_some_iff] at here
      obtain ⟨later, found, contents⟩ := here
      rw [found]
      exact Option.Rel.some (Served.persisted_of_contents contents.symm (first name) (last name) now)

/-! ### The promise -/

/-- From one state to the other `markDirty` was called, the last time with everything in memory
as it is in the end. -/
def Scheduled (before after : Manager) : Prop :=
  ∃ earlier, after.marks = after.contents :: earlier ∧ before.marks <:+ earlier

/-- If the operation changes what is saved at some instant, it schedules a save of that. -/
def Schedules (lib4 : Library4) (lib6 : Library6) (manager : Manager)
    (operation : Operation) : Prop :=
  ∀ (now : Int) (first last : String → Family → RangeOrders),
    ¬ SameState (manager.collectState first now)
      ((manager.step lib4 lib6 operation).collectState last now) →
    Scheduled manager (manager.step lib4 lib6 operation)

def Covered (before after : Manager) : Prop :=
  after.contents = before.contents ∨ Scheduled before after

theorem Covered.refl (manager : Manager) : Covered manager manager := Or.inl rfl

/-! ### Lease tables -/

/-- The table calls its hook when it has changed, and after the change. -/
structure LeaseTable.Hooked (before after : LeaseTable) : Prop where
  silent : after.notified = before.notified → after.leases = before.leases
  called : after.notified ≠ before.notified → after.noted = after.leases

namespace LeaseTable

theorem Hooked.refl (table : LeaseTable) : Hooked table table :=
  ⟨fun _ => rfl, fun called => absurd rfl called⟩

theorem hooked_notify (before : LeaseTable) {changed : LeaseTable}
    (same : changed.notified = before.notified) : Hooked before changed.notify where
  silent := by
    intro silent
    change changed.notified + 1 = before.notified at silent
    omega
  called := fun _ => rfl

theorem hooked_release (table : LeaseTable) (ip : Addr) : Hooked table (table.release ip).2 := by
  unfold release
  cases table.entry ip with
  | none => exact .refl table
  | some lease => exact hooked_notify table rfl

theorem hooked_expireSweep (table : LeaseTable) (now : Int) :
    Hooked table (table.expireSweep now) := by
  unfold expireSweep
  dsimp only
  split
  · exact hooked_notify table rfl
  · next none =>
      refine ⟨fun _ => ?_, fun called => absurd rfl called⟩
      -- without an expired entry the sweep keeps all of them
      apply AList.ext
      apply List.filter_eq_self.mpr
      intro entry listed
      have active : entry.2.expired now ≠ true := by
        intro gone
        apply none
        exact List.any_eq_true.mpr ⟨entry.2, List.mem_map.mpr ⟨entry, listed, rfl⟩, gone⟩
      simpa using active

theorem hooked_of_moved {table after : LeaseTable} (moved : table.Moved after) :
    Hooked table after := by
  cases moved with
  | unchanged => exact .refl table
  | set usable => exact hooked_notify table rfl
  | release ip => exact hooked_release table ip
  | expireSweep now => exact hooked_expireSweep table now

end LeaseTable

/-! ### Memory -/

namespace Manager

variable {manager : Manager} {name : String} {it : Served}

theorem contents_put (manager : Manager) (name : String) (it : Served) :
    (manager.put name it).contents = Function.update manager.contents name (some it.contents) := by
  funext other
  unfold contents
  rw [lookup_put]
  by_cases same : other = name
  · rw [if_pos same, same, Function.update_self]
    rfl
  · rw [if_neg same, Function.update_of_ne same]

theorem contents_put_same (found : manager.ifaces.lookup name = some it) {after : Served}
    (same : after.contents = it.contents) : (manager.put name after).contents = manager.contents := by
  rw [contents_put, same]
  apply Function.update_eq_self_iff.mpr
  unfold contents
  rw [found]
  rfl

theorem scheduled_markDirty {before : Manager} (manager : Manager)
    (marks : before.marks <:+ manager.marks) : Scheduled before manager.markDirty :=
  ⟨manager.marks, rfl, marks⟩

theorem covered_serve (found : manager.ifaces.lookup name = some it) (family : Family)
    {after : AddressServer} (statics : after.statics = (it.server family).statics)
    (hooked : LeaseTable.Hooked (it.server family).leases after.leases) :
    Covered manager (manager.serve name it family after) := by
  by_cases silent : after.leases.notified = (it.server family).leases.notified
  · left
    apply contents_put_same found
    have leases := hooked.silent silent
    unfold Served.contents
    rw [Served.binding_withServer]
    congr 1
    · funext other
      rw [Served.server_withServer]
      split
      · next same => rw [same, statics]
      · rfl
    · funext other
      rw [Served.server_withServer]
      split
      · next same => rw [same, leases]
      · rfl
  · right
    refine ⟨manager.marks, ?_, List.suffix_refl _⟩
    have noted := hooked.called silent
    unfold serve
    dsimp only
    rw [if_neg silent]
    congr 1
    unfold contentsAtHook
    rw [Served.server_withServer, if_pos rfl, noted]
    have own : Function.update (it.withServer family after).contents.leases family
        after.leases.leases = (it.withServer family after).contents.leases := by
      apply Function.update_eq_self_iff.mpr
      change _ = ((it.withServer family after).server family).leases.leases
      rw [Served.server_withServer, if_pos rfl]
    rw [own]
    apply Function.update_eq_self_iff.mpr
    change _ = ((manager.put name (it.withServer family after)).ifaces.lookup name).map Served.contents
    rw [lookup_put, if_pos rfl]
    rfl

theorem covered_of_change {after : Manager} (change : Change manager after) :
    Covered manager after := by
  cases change with
  | unchanged => exact .refl manager
  | served found family statics moved =>
      exact covered_serve found family statics (LeaseTable.hooked_of_moved moved)
  | edited found family leases => exact Or.inr (scheduled_markDirty _ (List.suffix_refl _))
  | @called name it found world client call =>
      left
      apply contents_put_same found
      have kept := (world.call_passes call).binding
      simp only [Served.contents, Served.binding, client, Option.bind_some, kept]
      rfl

/-! ### The delegation client -/

/-- What is in memory once the delegation of an interface is `binding`. -/
def memory (base : Manager) (name : String) (it : Served) (binding : Option Pd.Binding) :
    String → Option Contents :=
  Function.update base.contents name (some { it.contents with binding := binding })

/-- The client of an interface is at work: its delegation is `binding`, and it has called
`markDirty` with `marks` in memory. -/
structure Amid (base : Manager) (name : String) (it : Served) (binding : Option Pd.Binding)
    (marks : List (String → Option Contents)) (manager : Manager) : Prop where
  here : ∃ world : Pd.World,
    manager.ifaces.lookup name = some { it with pdc := some world } ∧ world.client.binding = binding
  memory : manager.contents = base.memory name it binding
  marked : manager.marks = marks ++ base.marks

/-- In a client that holds `before` the operation is answered, and the client then holds `after`. -/
def Answers (moment : Pd.Moment) (op : Pd.Op) (answer : op.Answer)
    (before after : Option Pd.Binding) : Prop :=
  ∀ world : Pd.World, world.client.binding = before →
    ∃ next, Pd.handle world moment op = some (answer, next) ∧ next.client.binding = after

def marksOf (seen : String → Option Contents) : Pd.Op → List (String → Option Contents)
  | .callback _ _ => [seen]
  | _ => []

section Client

variable {base : Manager} {held after : Option Pd.Binding}
  {marks : List (String → Option Contents)} {Value : Type}

theorem Amid.start {world : Pd.World} (found : base.ifaces.lookup name = some it)
    (client : it.pdc = some world) : Amid base name it world.client.binding [] base := by
  have own : it = { it with pdc := some world } := by
    rw [← client]
  have bound : it.contents = { it.contents with binding := world.client.binding } := by
    unfold Served.contents Served.binding
    rw [client]
    rfl
  refine ⟨⟨world, found.trans (congrArg some own), rfl⟩, ?_, rfl⟩
  unfold Manager.memory
  rw [← bound, eq_comm]
  apply Function.update_eq_self_iff.mpr
  change _ = (base.ifaces.lookup name).map Served.contents
  rw [found]
  rfl

theorem Amid.clientOp {op : Pd.Op} {answer : op.Answer} {moment : Pd.Moment}
    (amid : Amid base name it held marks manager) (answers : Answers moment op answer held after) :
    ∃ later, Manager.clientOp name manager moment op = some (answer, later) ∧
      Amid base name it after (marksOf (base.memory name it after) op ++ marks) later := by
  obtain ⟨world, here, holds⟩ := amid.here
  obtain ⟨next, handled, holdsAfter⟩ := answers world holds
  have answered : Manager.clientOp name manager moment op =
      some (answer, (manager.put name { it with pdc := some next }).calledBack op) := by
    unfold Manager.clientOp
    rw [here]
    dsimp only
    rw [handled]
    rfl
  have changed : (manager.put name { it with pdc := some next }).contents =
      base.memory name it after := by
    rw [contents_put, amid.memory, ← holdsAfter]
    unfold Manager.memory
    rw [Function.update_idem]
    rfl
  have stored : (manager.put name { it with pdc := some next }).ifaces.lookup name =
      some { it with pdc := some next } := by
    rw [lookup_put, if_pos rfl]
  refine ⟨_, answered, ?_⟩
  cases op with
  | callback net ok =>
      refine ⟨⟨next, stored, holdsAfter⟩, changed, ?_⟩
      change (manager.put name { it with pdc := some next }).contents :: manager.marks = _
      rw [changed, amid.marked]
      rfl
  | _ => exact ⟨⟨next, stored, holdsAfter⟩, changed, amid.marked⟩

theorem Amid.act {op : Pd.Op} {answer : op.Answer} (amid : Amid base name it held marks manager)
    (moments : Nat → Pd.Moment) (answers : Answers (moments 0) op answer held after)
    (next : op.Answer → Pd.Routine Value) :
    ∃ later,
      finish (Manager.clientOp name) (.act op next) manager moments =
        finish (Manager.clientOp name) (next answer) later (fun count => moments (count + 1)) ∧
      Amid base name it after (marksOf (base.memory name it after) op ++ marks) later := by
  obtain ⟨later, answered, reached⟩ := amid.clientOp answers
  exact ⟨later, finish_act _ answered, reached⟩

theorem advance_binding (world : Pd.World) (moment : Pd.Moment) :
    (world.advance moment).client.binding = world.client.binding :=
  (world.advance_passes moment).binding

theorem answers_enter (moment : Pd.Moment) (procedure : Pd.Procedure) :
    Answers moment (.enter procedure) () held held := by
  intro world holds
  exact ⟨_, rfl, (advance_binding world moment).trans holds⟩

theorem answers_leave (moment : Pd.Moment) (procedure : Pd.Procedure) :
    Answers moment (.leave procedure) () held held := by
  intro world holds
  exact ⟨_, rfl, (advance_binding world moment).trans holds⟩

theorem answers_now (moment : Pd.Moment) (site : Pd.Site) :
    Answers moment (.now site) moment.now held held := by
  intro world holds
  refine ⟨_, ?_, (advance_binding world moment).trans holds⟩
  unfold Pd.handle Pd.World.answer
  rw [Pd.World.advance_clock]

theorem answers_store (moment : Pd.Moment) (binding : Pd.Binding) (server : Option Pd.Duid) :
    Answers moment (.store binding server) held held (some binding) := by
  intro world holds
  refine ⟨(world.advance moment).stored binding server, ?_, rfl⟩
  unfold Pd.handle Pd.World.answer
  rw [advance_binding, holds]

theorem answers_clear (moment : Pd.Moment) : Answers moment .clear held held none := by
  intro world holds
  refine ⟨(world.advance moment).cleared, ?_, ?_⟩
  · unfold Pd.handle Pd.World.answer
    rw [advance_binding, holds]
  · unfold Pd.World.cleared
    cases (world.advance moment).client.binding <;> rfl

theorem answers_callback (moment : Pd.Moment) (net : Prefix) (ok : Bool) :
    Answers moment (.callback net ok) () held held := by
  intro world holds
  exact ⟨_, rfl, (advance_binding world moment).trans holds⟩

def marksOfAnnounce (seen : String → Option Contents) (old : Option Pd.Binding)
    (binding : Pd.Binding) : List (String → Option Contents) :=
  match old with
  | none => [seen]
  | some previous => if previous.net = binding.net then [] else [seen, seen]

theorem Amid.announce (amid : Amid base name it held marks manager) (old : Option Pd.Binding)
    (binding : Pd.Binding) (next : Unit → Pd.Routine Value) (moments : Nat → Pd.Moment) :
    ∃ later rest,
      finish (Manager.clientOp name) (Pd.announce old binding >>= next) manager moments =
        finish (Manager.clientOp name) (next ()) later rest ∧
      Amid base name it held (marksOfAnnounce (base.memory name it held) old binding ++ marks)
        later := by
  cases old with
  | none =>
      obtain ⟨later, same, reached⟩ := amid.act moments (answers_callback _ binding.net true) next
      exact ⟨later, _, same, reached⟩
  | some previous =>
      unfold Pd.announce marksOfAnnounce
      dsimp only
      split
      · exact ⟨manager, moments, rfl, amid⟩
      · obtain ⟨middle, first, amidst⟩ :=
          amid.act moments (answers_callback _ previous.net false)
            (fun _ => .act (.callback binding.net true) next)
        obtain ⟨later, second, reached⟩ :=
          amidst.act (fun count => moments (count + 1)) (answers_callback _ binding.net true) next
        exact ⟨later, _, first.trans second, reached⟩

def bindingAt (now : Instant) (usable : Prefix × Duration) : Pd.Binding where
  net := usable.1
  boundAt := now
  expiresAt := now + usable.2

/-- What applying a reply leaves in memory, and what it marks.  The clock is read by the second
operation. -/
theorem Amid.applyReply (amid : Amid base name it held marks manager) (reply : Answer6)
    (moments : Nat → Pd.Moment) :
    ∃ later value,
      finish (Manager.clientOp name) (Pd.applyReply reply) manager moments = some (value, later) ∧
      match Pd.usablePrefix reply with
      | none => Amid base name it held marks later
      | some usable =>
          Amid base name it (some (bindingAt (moments 1).now usable))
            (marksOfAnnounce (base.memory name it (some (bindingAt (moments 1).now usable))) held
              (bindingAt (moments 1).now usable) ++ marks) later := by
  cases usability : Pd.usablePrefix reply with
  | none =>
      obtain ⟨entered, first, amidst⟩ :=
        amid.act moments (answers_enter _ .applyReply)
          (fun _ => (.act (.leave .applyReply) (fun _ => .ret false) : Pd.Routine Bool))
      obtain ⟨later, second, reached⟩ :=
        amidst.act (fun count => moments (count + 1)) (answers_leave _ .applyReply)
          (fun _ => (.ret false : Pd.Routine Bool))
      refine ⟨later, false, ?_, reached⟩
      rw [Pd.applyReply_unusable usability]
      exact first.trans second
  | some usable =>
      let finishing (now : Instant) (old : Option Pd.Binding) : Pd.Routine Bool :=
        Pd.announce old (bindingAt now usable) >>=
          (fun _ => .act (.leave .applyReply) (fun _ => .ret true))
      let storing (now : Instant) : Pd.Routine Bool :=
        .act (.store (bindingAt now usable) reply.serverID) (finishing now)
      obtain ⟨entered, first, amidEntered⟩ :=
        amid.act moments (answers_enter _ .applyReply) (fun _ => .act (.now .apply) storing)
      obtain ⟨timed, second, amidTimed⟩ :=
        amidEntered.act (fun count => moments (count + 1)) (answers_now _ .apply) storing
      obtain ⟨stored, third, amidStored⟩ :=
        amidTimed.act (fun count => moments (count + 2))
          (answers_store _ (bindingAt (moments 1).now usable) reply.serverID)
          (finishing (moments 1).now)
      obtain ⟨announced, rest, fourth, amidAnnounced⟩ :=
        amidStored.announce held (bindingAt (moments 1).now usable)
          (fun _ => (.act (.leave .applyReply) (fun _ => .ret true) : Pd.Routine Bool))
          (fun count => moments (count + 3))
      obtain ⟨later, fifth, reached⟩ :=
        amidAnnounced.act rest (answers_leave _ .applyReply)
          (fun _ => (.ret true : Pd.Routine Bool))
      refine ⟨later, true, ?_, reached⟩
      rw [Pd.applyReply_usable usability]
      exact first.trans (second.trans (third.trans (fourth.trans fifth)))

theorem Amid.dropPrefix (amid : Amid base name it held marks manager)
    (moments : Nat → Pd.Moment) :
    ∃ later value,
      finish (Manager.clientOp name) Pd.dropPrefix manager moments = some (value, later) ∧
      Amid base name it none
        (held.toList.map (fun _ => base.memory name it none) ++ marks) later := by
  let leaving : Pd.Routine Unit := .act (.leave .dropPrefix) .ret
  let withdrawing (old : Option Pd.Binding) : Pd.Routine Unit :=
    Pd.withdraw old >>= (fun _ => leaving)
  obtain ⟨entered, first, amidEntered⟩ :=
    amid.act moments (answers_enter _ .dropPrefix) (fun _ => .act .clear withdrawing)
  obtain ⟨cleared, second, amidCleared⟩ :=
    amidEntered.act (fun count => moments (count + 1)) (answers_clear _) withdrawing
  cases held with
  | none =>
      obtain ⟨later, third, reached⟩ :=
        amidCleared.act (fun count => moments (count + 2)) (answers_leave _ .dropPrefix)
          (fun value => (.ret value : Pd.Routine Unit))
      exact ⟨later, (), first.trans (second.trans third), reached⟩
  | some binding =>
      obtain ⟨withdrawn, third, amidWithdrawn⟩ :=
        amidCleared.act (fun count => moments (count + 2)) (answers_callback _ binding.net false)
          (fun _ => leaving)
      obtain ⟨later, fourth, reached⟩ :=
        amidWithdrawn.act (fun count => moments (count + 3)) (answers_leave _ .dropPrefix)
          (fun value => (.ret value : Pd.Routine Unit))
      exact ⟨later, (), first.trans (second.trans (third.trans fourth)), reached⟩

theorem handle_aloof {op : Pd.Op} (aloof : Aloof op = true) {world next : Pd.World}
    {moment : Pd.Moment} {answer : op.Answer}
    (handled : Pd.handle world moment op = some (answer, next)) :
    next.client.binding = world.client.binding := by
  cases op with
  | store binding server => cases aloof
  | clear => cases aloof
  | callback net ok => cases aloof
  | enter procedure =>
      cases handled
      exact advance_binding world moment
  | leave procedure =>
      cases handled
      exact advance_binding world moment
  | _ => exact (Pd.handle_passes rfl handled).binding

theorem Amid.scheduled
    (amid : Amid base name it held (base.memory name it held :: marks) manager) :
    Scheduled base manager := by
  refine ⟨marks ++ base.marks, ?_, List.suffix_append _ _⟩
  rw [amid.marked, amid.memory]
  rfl

theorem Amid.covered_of_unchanged {world : Pd.World} (found : base.ifaces.lookup name = some it)
    (client : it.pdc = some world)
    (amid : Amid base name it world.client.binding marks manager) : Covered base manager :=
  Or.inl (amid.memory.trans (Amid.start found client).memory.symm)

end Client

/-! ### Every operation -/

def Refreshes (manager : Manager) : Operation → Prop
  | .client name (.applyReply reply) moments =>
      ∃ it held usable, manager.ifaces.lookup name = some it ∧ it.binding = some held ∧
        Pd.usablePrefix reply = some usable ∧ held.net = usable.1 ∧
        held ≠ bindingAt (moments 1).now usable
  | _ => False

theorem finish_clientOp_none {Value : Type} (absent : ∀ moment op, clientOp name manager moment op = none)
    {op : Pd.Op} (next : op.Answer → Pd.Routine Value) (moments : Nat → Pd.Moment) :
    finish (clientOp name) (.act op next) manager moments = none := by
  rw [finish, absent]

theorem stepClient_of_absent (absent : ∀ moment op, clientOp name manager moment op = none)
    (moments : Nat → Pd.Moment) (step : ClientStep) :
    manager.stepClient name moments step = manager := by
  cases step with
  | applyReply reply => exact congrArg manager.atEnd (finish_clientOp_none absent _ moments)
  | dropPrefix => exact congrArg manager.atEnd (finish_clientOp_none absent _ moments)
  | other op aloof => exact congrArg manager.atEnd (absent (moments 0) op)

section Steps

variable {world : Pd.World} (found : manager.ifaces.lookup name = some it)
  (client : it.pdc = some world) (moments : Nat → Pd.Moment)

include found client

theorem covered_applyReply (reply : Answer6) :
    Covered manager (manager.stepClient name moments (.applyReply reply)) ∨
      manager.Refreshes (.client name (.applyReply reply) moments) := by
  obtain ⟨later, value, ends, reached⟩ := (Amid.start found client).applyReply reply moments
  unfold stepClient
  dsimp only
  rw [ends]
  change Covered manager later ∨ _
  cases usability : Pd.usablePrefix reply with
  | none =>
      rw [usability] at reached
      exact Or.inl (Amid.covered_of_unchanged found client reached)
  | some usable =>
      rw [usability] at reached
      dsimp only at reached
      cases bound : world.client.binding with
      | none =>
          rw [bound] at reached
          exact Or.inl (Or.inr reached.scheduled)
      | some held =>
          rw [bound] at reached
          by_cases same : held.net = usable.1
          · by_cases equal : held = bindingAt (moments 1).now usable
            · rw [← equal, ← bound] at reached
              exact Or.inl (Amid.covered_of_unchanged found client reached)
            · refine Or.inr ⟨it, held, usable, found, ?_, usability, same, equal⟩
              unfold Served.binding
              rw [client]
              exact bound
          · have marks : marksOfAnnounce
                (manager.memory name it (some (bindingAt (moments 1).now usable))) (some held)
                (bindingAt (moments 1).now usable) =
                [manager.memory name it (some (bindingAt (moments 1).now usable)),
                  manager.memory name it (some (bindingAt (moments 1).now usable))] :=
              if_neg same
            rw [marks] at reached
            exact Or.inl (Or.inr reached.scheduled)

theorem covered_dropPrefix : Covered manager (manager.stepClient name moments .dropPrefix) := by
  obtain ⟨later, value, ends, reached⟩ := (Amid.start found client).dropPrefix moments
  unfold stepClient
  dsimp only
  rw [ends]
  change Covered manager later
  cases bound : world.client.binding with
  | none =>
      rw [bound, ← bound] at reached
      exact Amid.covered_of_unchanged found client reached
  | some held =>
      rw [bound] at reached
      exact Or.inr reached.scheduled

theorem covered_other {op : Pd.Op} (aloof : Aloof op = true) :
    Covered manager (manager.stepClient name moments (.other op aloof)) := by
  left
  unfold stepClient clientOp
  dsimp only
  rw [found]
  dsimp only
  rw [client]
  dsimp only
  cases handled : Pd.handle world (moments 0) op with
  | none => rfl
  | some result =>
      have quiet : (manager.put name { it with pdc := some result.2 }).calledBack op =
          manager.put name { it with pdc := some result.2 } := by
        cases op with
        | callback net ok => cases aloof
        | _ => rfl
      change ((manager.put name { it with pdc := some result.2 }).calledBack op).contents = _
      rw [quiet]
      apply contents_put_same found
      have kept : result.2.client.binding = world.client.binding := handle_aloof aloof handled
      simp only [Served.contents, Served.binding, client, Option.bind_some, kept]
      rfl

end Steps

theorem covered_stepClient (manager : Manager) (name : String) (moments : Nat → Pd.Moment)
    (step : ClientStep) :
    Covered manager (manager.stepClient name moments step) ∨
      manager.Refreshes (.client name step moments) := by
  by_cases present : ∃ it world, manager.ifaces.lookup name = some it ∧ it.pdc = some world
  · obtain ⟨it, world, found, client⟩ := present
    cases step with
    | applyReply reply => exact covered_applyReply found client moments reply
    | dropPrefix => exact Or.inl (covered_dropPrefix found client moments)
    | other op aloof => exact Or.inl (covered_other found client moments aloof)
  · left
    rw [stepClient_of_absent]
    · exact .refl manager
    · intro moment op
      unfold clientOp
      cases found : manager.ifaces.lookup name with
      | none => rfl
      | some it =>
          dsimp only
          cases client : it.pdc with
          | none => rfl
          | some world => exact absurd ⟨it, world, found, client⟩ present

section Operations

variable (lib4 : Library4) (lib6 : Library6)

theorem covered_step (manager : Manager) (operation : Operation) :
    Covered manager (manager.step lib4 lib6 operation) ∨ manager.Refreshes operation := by
  rcases step_cases lib4 lib6 manager operation with ⟨name, step, moments, rfl⟩ | change
  · exact covered_stepClient manager name moments step
  · exact Or.inl (covered_of_change change)

theorem refreshed_unmarked {name : String} {it : Served} {held : Pd.Binding} {reply : Answer6}
    {usable : Prefix × Duration} (moments : Nat → Pd.Moment)
    (found : manager.ifaces.lookup name = some it) (bound : it.binding = some held)
    (usability : Pd.usablePrefix reply = some usable) (same : held.net = usable.1) :
    Amid manager name it (some (bindingAt (moments 1).now usable)) []
      (manager.stepClient name moments (.applyReply reply)) := by
  obtain ⟨world, client, holds⟩ := Option.bind_eq_some_iff.mp bound
  obtain ⟨later, value, ends, reached⟩ := (Amid.start found client).applyReply reply moments
  have result : manager.stepClient name moments (.applyReply reply) = later :=
    congrArg manager.atEnd ends
  have silent : marksOfAnnounce
      (manager.memory name it (some (bindingAt (moments 1).now usable))) (some held)
      (bindingAt (moments 1).now usable) = [] := if_pos same
  rw [usability, holds] at reached
  dsimp only at reached
  rw [silent] at reached
  rw [result]
  exact reached

theorem Amid.saves_other {base later : Manager} {name : String} {it : Served}
    {held after : Pd.Binding} (found : base.ifaces.lookup name = some it)
    (bound : it.binding = some held) (different : held ≠ after)
    (amid : Amid base name it (some after) [] later) (orders : String → Family → RangeOrders)
    (now : Int) : ¬ SameState (base.collectState orders now) (later.collectState orders now) := by
  intro unchanged
  have here := unchanged name
  obtain ⟨world, stored, holdsAfter⟩ := amid.here
  unfold collectState at here
  rw [lookup_mapValues, lookup_mapValues, found, stored] at here
  cases here with
  | some saved =>
      have equal := Option.map_injective persistedPD_injective saved.pd
      rw [bound] at equal
      exact different (Option.some.inj (equal.trans holdsAfter))

theorem not_schedules_of_refreshes {manager : Manager} {operation : Operation}
    (refreshes : manager.Refreshes operation) :
    ¬ Schedules lib4 lib6 manager operation := by
  intro schedules
  cases operation with
  | client name step moments =>
      cases step with
      | applyReply reply =>
          obtain ⟨it, held, usable, found, bound, usability, same, different⟩ := refreshes
          have reached := refreshed_unmarked moments found bound usability same
          have changed := reached.saves_other found bound different
            (fun _ _ => ⟨.stored, .stored⟩) 0
          obtain ⟨earlier, marks, suffix⟩ := schedules 0 _ _ changed
          have longer := suffix.length_le
          have lengths := congrArg List.length (reached.marked.symm.trans marks)
          simp only [List.nil_append, List.length_cons] at lengths
          omega
      | _ => cases refreshes
  | _ => cases refreshes

/-- Every operation but the refreshing of a held delegation schedules a save of what it
changes. -/
theorem durable_change_scheduled_iff (manager : Manager) (operation : Operation) :
    Schedules lib4 lib6 manager operation ↔ ¬ manager.Refreshes operation := by
  constructor
  · intro schedules refreshes
    exact not_schedules_of_refreshes lib4 lib6 refreshes schedules
  · intro fresh now first last changed
    rcases covered_step lib4 lib6 manager operation with (same | scheduled) | refreshes
    · exact absurd (collectState_of_contents same first last now) changed
    · exact scheduled
    · exact absurd refreshes fresh

end Operations

end Manager

/-! ### A renewed delegation -/

def sampleManager : Except String Manager :=
  Manager.newManagerFrom 0 ⟨∅, []⟩ [sampleIface 64]

def replyAt (now : Instant) : Operation :=
  .client "br0" (.applyReply (Pd.sampleAnswer .reply)) (fun _ => Pd.quiet now true)

def firstBinding : Pd.Binding where
  net := Pd.sampleBinding.net
  boundAt := 0
  expiresAt := 14400 * second

theorem bound_by_first_reply :
    ∃ manager, sampleManager = .ok manager ∧
      ((manager.step sampleLibrary4 sampleLibrary6 (replyAt 0)).ifaces.lookup "br0").bind
        Served.binding = some firstBinding := by
  have made : sampleManager.toOption.bind (fun manager =>
      ((manager.step sampleLibrary4 sampleLibrary6 (replyAt 0)).ifaces.lookup
        "br0").bind Served.binding) = some firstBinding := by
    decide +kernel
  obtain ⟨manager, accepted, bound⟩ := Option.bind_eq_some_iff.mp made
  cases built : sampleManager with
  | error reason =>
      rw [built] at accepted
      cases accepted
  | ok result =>
      rw [built] at accepted
      cases accepted
      exact ⟨manager, rfl, bound⟩

/-- Two hours later a reply to a RENEW prolongs the delegation; no save is scheduled. -/
theorem renewed_delegation_unscheduled :
    ∃ manager, sampleManager = .ok manager ∧
      ¬ Schedules sampleLibrary4 sampleLibrary6
        (run (Manager.step sampleLibrary4 sampleLibrary6) manager [replyAt 0])
        (replyAt (7200 * second)) := by
  obtain ⟨manager, made, bound⟩ := bound_by_first_reply
  refine ⟨manager, made, ?_⟩
  obtain ⟨it, found, held⟩ := Option.bind_eq_some_iff.mp bound
  apply Manager.not_schedules_of_refreshes
  exact ⟨it, firstBinding, (Pd.sampleBinding.net, 14400 * second), found, held, by decide +kernel,
    rfl, by decide +kernel⟩

end BridgeDhcp.Server
