/-
The served prefix and the delegation.

An interface learns of its delegation from the callbacks alone, and a callback sets
`pdAddr` as its first step.  So `pdAddr` is always composed from the prefix that the
callbacks so far have left active, whatever other parties do, and outside `applyReply`
and `dropPrefix` that is the held one.  This rests on `restore` seeding both or neither.
-/

import BridgeDhcp.Pd.CallbackDiscipline
import BridgeDhcp.PdRoute.TableContents
import BridgeDhcp.Server.PdPlumbing

set_option autoImplicit false

namespace BridgeDhcp.Server

open Netip GoTime Netlink Interaction StepRun

/-! ### What leaves the served prefix alone -/

structure SameServed (before after : Plumbed) : Prop where
  pd : after.pd = before.pd
  pdAddr : after.pdAddr = before.pdAddr

theorem SameServed.trans {first second third : Plumbed} (one : SameServed first second)
    (two : SameServed second third) : SameServed first third :=
  ⟨two.pd.trans one.pd, two.pdAddr.trans one.pdAddr⟩

structure SameAddresses (cfg : IfaceConfig) (before after : Plumbed) : Prop where
  link : servedLink cfg after = servedLink cfg before
  addrs : after.host.kernel.addrs = before.host.kernel.addrs
  added : after.added = before.added
  stop : after.stop = before.stop
  pdAddr : after.pdAddr = before.pdAddr

section Frame

variable (cfg : IfaceConfig)

theorem routing_host {routes : PdRoute.Config} (routed : routes ∈ cfg.routes)
    (call : PdRoute.Call) (state : Plumbed) :
    (routing cfg call state).host = PdRoute.perform routes call state.host := by
  unfold routing
  rw [Option.mem_def.mp routed]

theorem routing_sameAddresses (call : PdRoute.Call) (state : Plumbed) :
    SameAddresses cfg state (routing cfg call state) := by
  unfold routing
  cases cfg.routes with
  | none => exact ⟨rfl, rfl, rfl, rfl, rfl⟩
  | some routes =>
      have outside := (PdRoute.respects_sameOutside routes).perform call state.host
      refine ⟨?_, outside.addrs, rfl, rfl, rfl⟩
      unfold servedLink Kernel.linkByName
      rw [outside.links]

theorem routing_isUp (call : PdRoute.Call) (state : Plumbed) (index : Int) :
    (routing cfg call state).host.kernel.isUp index = state.host.kernel.isUp index := by
  unfold routing Kernel.isUp
  cases cfg.routes with
  | none => rfl
  | some routes =>
      dsimp only
      rw [((PdRoute.respects_sameOutside routes).perform call state.host).up]

theorem routing_sameServed (call : PdRoute.Call) (state : Plumbed) :
    SameServed state (routing cfg call state) := by
  unfold routing
  split <;> exact ⟨rfl, rfl⟩

theorem stopStep_sameServed (state : Plumbed) : SameServed state (stopStep cfg state) := by
  unfold stopStep
  split
  case h_5 =>
    split <;> exact ⟨rfl, rfl⟩
  case h_7 =>
    have same := routing_sameServed cfg .stop state
    exact ⟨same.pd, same.pdAddr⟩
  all_goals exact ⟨rfl, rfl⟩

theorem onLink_sameServed (state : Plumbed) (change : Kernel → Int → Kernel) :
    SameServed state (onLink cfg state change) := by
  unfold onLink
  split <;> exact ⟨rfl, rfl⟩

theorem otherStep_sameServed (state : Plumbed) (other : Other) :
    SameServed state (otherStep cfg state other) := by
  cases other with
  | stop => exact stopStep_sameServed cfg state
  | resync => exact routing_sameServed cfg .resync state
  | watch => exact ⟨rfl, rfl⟩
  | create index =>
      simp only [otherStep]
      split <;> exact ⟨rfl, rfl⟩
  | raise => exact onLink_sameServed cfg state _
  | lower => exact onLink_sameServed cfg state _
  | delete => exact onLink_sameServed cfg state _
  | change after => exact ⟨rfl, rfl⟩

theorem others_sameServed (state : Plumbed) (others : List Other) :
    SameServed state (run (otherStep cfg) state others) := by
  induction others generalizing state with
  | nil => exact ⟨rfl, rfl⟩
  | cons other rest ih =>
      rw [run_cons]
      exact (otherStep_sameServed cfg state other).trans (ih _)

/-! ### The callback -/

def PlumbOp.aside : PlumbOp → Bool
  | .setAddr _ => false
  | .takeAddr => false
  | _ => true

theorem plumbHandle_sameServed {op : PlumbOp} (aside : op.aside = true) {state after : Plumbed}
    {others : List Other} {answer : op.Answer}
    (handled : plumbHandle cfg state others op = some (answer, after)) :
    SameServed state after := by
  have before := others_sameServed cfg state others
  cases op with
  | setAddr addr => cases aside
  | takeAddr => cases aside
  | linkByName =>
      cases handled
      exact before
  | addrAdd index net =>
      cases handled
      exact before.trans ⟨rfl, rfl⟩
  | addrDel index net =>
      cases handled
      exact before.trans ⟨rfl, rfl⟩
  | install net =>
      cases handled
      exact before.trans (routing_sameServed cfg (.install net) _)
  | clear =>
      cases handled
      exact before.trans (routing_sameServed cfg .clear _)

theorem addAddr_aside (net : Prefix) : Uses (fun op => op.aside = true) (addAddr net) := by
  refine Uses.bind (Uses.perform rfl) ?_
  intro link
  cases link with
  | none => trivial
  | some index => exact Uses.perform rfl

theorem removeAddr_aside (net : Prefix) : Uses (fun op => op.aside = true) (removeAddr net) := by
  refine Uses.bind (Uses.perform rfl) ?_
  intro link
  cases link with
  | none => trivial
  | some index => exact Uses.perform rfl

theorem aside_keeps {program : Plumbing Unit} (aside : Uses (fun op => op.aside = true) program)
    (world : Pd.World) (addr : Option Prefix) :
    Keeps (plumbHandle cfg) (fun _ => True) (fun _ _ _ => True)
      (fun state => state.pd = world ∧ state.pdAddr = addr) program := by
  refine Keeps.of_uses aside (fun _ _ => trivial) ?_
  rintro op isAside state others answer after ⟨client, served⟩ _ handled
  have same := plumbHandle_sameServed cfg isAside handled
  exact ⟨same.pd.trans client, same.pdAddr.trans served⟩

theorem onPDChange_safe (pd : PDConfig) (delegated : Option Prefix) (ok : Bool)
    (state : Plumbed) :
    Safe (plumbHandle cfg) (fun _ => True) (fun _ _ _ => True) (onPDChange pd delegated ok)
      (fun _ after => after.pd = state.pd ∧
        after.pdAddr = if ok then composePD pd delegated else none) state := by
  cases ok with
  | true =>
      change Safe _ _ _ (gainPrefix (composePD pd delegated)) _ state
      cases composePD pd delegated with
      | none =>
          intro others _ answer after handled
          cases handled
          exact ⟨trivial, (others_sameServed cfg state others).pd, rfl⟩
      | some addr =>
          have rest : Uses (fun op => op.aside = true)
              (do addAddr addr; plumb (.install addr.masked)) :=
            Uses.bind (addAddr_aside addr) (fun _ => Uses.perform rfl)
          apply Safe.perform_bind
          intro others _ answer after handled
          cases handled
          refine ⟨trivial, aside_keeps cfg rest state.pd (some addr) _ ⟨?_, rfl⟩⟩
          exact (others_sameServed cfg state others).pd
  | false =>
      change Safe _ _ _ losePrefix _ state
      apply Safe.perform_bind
      intro others _ addr after handled
      have rest : Uses (fun op => op.aside = true)
          (do plumb .clear; removeServed addr) := by
        refine Uses.bind (Uses.perform rfl) ?_
        intro _
        cases addr with
        | none => trivial
        | some net => exact removeAddr_aside net
      cases handled
      refine ⟨trivial, aside_keeps cfg rest state.pd none _ ⟨?_, rfl⟩⟩
      exact (others_sameServed cfg state others).pd

theorem onPDChange_served {pd : PDConfig} {delegated : Option Prefix} {ok : Bool}
    {state after : Plumbed} {within : Nat → List Other}
    (ended : finish (plumbHandle cfg) (onPDChange pd delegated ok) state within =
      some ((), after)) :
    after.pd = state.pd ∧ after.pdAddr = if ok then composePD pd delegated else none := by
  refine finish_of_safe (onPDChange_safe cfg pd delegated ok state) ?_ ended
  exact permittedThrough_of_forall (fun _ _ _ => trivial) _ _ _

end Frame

/-! ### Operations of the goroutine -/

section Operations

variable {cfg : IfaceConfig} {pd : PDConfig} {state noted after : Plumbed} {turn : Turn}
  {op : Pd.Op} {answer : op.Answer}

/-- An operation is one of the client's, with the calls that have come up, and then the
callback if it is one. -/
theorem clientHandle_cases (handled : clientHandle cfg pd state turn op = some (answer, after)) :
    ∃ noted, reported cfg state turn op = some (answer, noted) ∧
      calledBack cfg pd turn.within noted op = some after := by
  obtain ⟨⟨early, noted⟩, first, rest⟩ := Option.bind_eq_some_iff.mp handled
  obtain ⟨last, called, same⟩ := Option.map_eq_some_iff.mp rest
  cases same
  exact ⟨noted, first, called⟩

theorem reported_cases (first : reported cfg state turn op = some (answer, noted)) :
    ∃ moment, Pd.handle state.pd moment op = some (answer, noted.pd) ∧
      noted = { run (otherStep cfg) state turn.others with pd := noted.pd, calls := [] } := by
  obtain ⟨⟨early, world⟩, handled, same⟩ := Option.map_eq_some_iff.mp first
  cases same
  rw [(others_sameServed cfg state turn.others).pd] at handled
  exact ⟨_, handled, rfl⟩

theorem calledBack_pd {within : Nat → List Other}
    (called : calledBack cfg pd within noted op = some after) : after.pd = noted.pd := by
  cases op with
  | callback net ok =>
      obtain ⟨⟨_, last⟩, ended, same⟩ := Option.map_eq_some_iff.mp called
      cases same
      exact (onPDChange_served cfg ended).1
  | _ =>
      cases called
      rfl

theorem clientHandle_simulates (handled : clientHandle cfg pd state turn op = some (answer, after)) :
    ∃ moment, Pd.handle state.pd moment op = some (answer, after.pd) := by
  obtain ⟨noted, first, called⟩ := clientHandle_cases handled
  obtain ⟨moment, alone, _⟩ := reported_cases first
  rw [calledBack_pd called]
  exact ⟨moment, alone⟩

end Operations

/-! ### Conditions on a run -/

/-- What other parties may do, and when a step of the callback may be taken. -/
structure Conditions where
  others : Plumbed → Other → Bool
  op : Plumbed → PlumbOp → Bool

namespace Conditions

variable (conditions : Conditions) (cfg : IfaceConfig)

def Among (state : Plumbed) (others : List Other) : Prop :=
  Throughout (otherStep cfg) (fun current other => conditions.others current other = true) state
    others

def AtStep (state : Plumbed) (op : PlumbOp) (others : List Other) : Prop :=
  conditions.Among cfg state others ∧ conditions.op (run (otherStep cfg) state others) op = true

def callbackOf : Pd.Op → Option (Prefix × Bool)
  | .callback net ok => some (net, ok)
  | _ => none

def AtTurn (pd : PDConfig) (state : Plumbed) (op : Pd.Op) (turn : Turn) : Prop :=
  conditions.Among cfg state turn.others ∧
    ∀ call ∈ callbackOf op, ∀ result ∈ reported cfg state turn op,
      PermittedThrough (plumbHandle cfg) (conditions.AtStep cfg)
        (onPDChange pd (some call.1) call.2) result.2 turn.within

def AtRestore (pd : PDConfig) (turn : RestoreTurn) (saved : Option PersistedPD)
    (state : Plumbed) : Prop :=
  ∀ found ∈ saved, turn.second < found.expiresAt →
    PermittedThrough (plumbHandle cfg) (conditions.AtStep cfg) (onPDChange pd found.net true)
      (seeded turn found state) turn.within

instance (state : Plumbed) (others : List Other) :
    Decidable (conditions.Among cfg state others) :=
  inferInstanceAs (Decidable (Throughout _ _ _ _))

instance (state : Plumbed) (op : PlumbOp) (others : List Other) :
    Decidable (conditions.AtStep cfg state op others) :=
  inferInstanceAs (Decidable (_ ∧ _ = true))

instance (pd : PDConfig) (state : Plumbed) (op : Pd.Op) (turn : Turn) :
    Decidable (conditions.AtTurn cfg pd state op turn) :=
  inferInstanceAs (Decidable (_ ∧ ∀ call ∈ callbackOf op, ∀ result ∈ _, _))

instance (pd : PDConfig) (turn : RestoreTurn) (saved : Option PersistedPD) (state : Plumbed) :
    Decidable (conditions.AtRestore cfg pd turn saved state) :=
  inferInstanceAs (Decidable (∀ found ∈ saved, _ → _))

end Conditions

def unrestricted : Conditions where
  others := fun _ _ => true
  op := fun _ _ => true

theorem unrestricted_atTurn (cfg : IfaceConfig) (pd : PDConfig) (state : Plumbed) (op : Pd.Op)
    (turn : Turn) : unrestricted.AtTurn cfg pd state op turn := by
  have anything : ∀ current others, unrestricted.Among cfg current others :=
    fun _ _ _ _ _ _ => rfl
  refine ⟨anything state turn.others, ?_⟩
  intro _ _ _ _
  exact permittedThrough_of_forall (fun current _ others => ⟨anything current others, rfl⟩) _ _ _

/-- A change of the kernel's state that does not concern the interface. -/
structure LeavesServed (cfg : IfaceConfig) (before after : Kernel) : Prop where
  link : after.linkByName cfg.name = before.linkByName cfg.name
  addrs : after.addrs = before.addrs
  table : ∀ routes ∈ cfg.routes, PdRoute.LeavesTable routes before after

instance (cfg : IfaceConfig) (before after : Kernel) : Decidable (LeavesServed cfg before after) :=
  decidable_of_iff
    (after.linkByName cfg.name = before.linkByName cfg.name ∧ after.addrs = before.addrs ∧
      ∀ routes ∈ cfg.routes, PdRoute.LeavesTable routes before after)
    ⟨fun ⟨link, addrs, table⟩ => ⟨link, addrs, table⟩,
      fun leaves => ⟨leaves.link, leaves.addrs, leaves.table⟩⟩

/-! ### Steps of the callback -/

section Steps

variable {cfg : IfaceConfig} {conditions : Conditions} {Holds : Plumbed → Prop}
  {post : Unit → Plumbed → Prop} {state : Plumbed}

def Stable (cfg : IfaceConfig) (conditions : Conditions) (Holds : Plumbed → Prop) : Prop :=
  ∀ state other, conditions.others state other = true → Holds state →
    Holds (otherStep cfg state other)

theorem Stable.run {others : List Other} (stable : Stable cfg conditions Holds)
    (allowed : conditions.Among cfg state others) (holds : Holds state) :
    Holds (StepRun.run (otherStep cfg) state others) :=
  run_invariant (otherStep cfg) Holds _ stable state others holds allowed

theorem Stable.and {Also : Plumbed → Prop} (first : Stable cfg conditions Holds)
    (second : Stable cfg conditions Also) :
    Stable cfg conditions (fun state => Holds state ∧ Also state) := by
  intro state other allowed both
  exact ⟨first state other allowed both.1, second state other allowed both.2⟩

theorem served_stable (addr : Option Prefix) :
    Stable cfg conditions (fun state => state.pdAddr = addr) := by
  intro state other _ served
  exact (otherStep_sameServed cfg state other).pdAddr.trans served

theorem safe_plumb {op : PlumbOp} {next : op.Answer → Plumbing Unit}
    (stable : Stable cfg conditions Holds) (holds : Holds state)
    (step : ∀ current, Holds current → conditions.op current op = true →
      Safe (plumbHandle cfg) (fun _ => True) (conditions.AtStep cfg)
        (next (plumbAnswer cfg current op).1) post (plumbAnswer cfg current op).2) :
    Safe (plumbHandle cfg) (fun _ => True) (conditions.AtStep cfg) (plumb op >>= next) post
      state := by
  apply Safe.perform_bind
  intro others allowed answer after handled
  have answered := step _ (stable.run allowed.1 holds) allowed.2
  rw [Option.some.inj handled] at answered
  exact ⟨trivial, answered⟩

end Steps

/-! ### Invariants of the interface -/

/-- `pdAddr` is composed from the prefix that the callbacks have left active. -/
def Follows (pd : PDConfig) (installed : Option Prefix) (state : Plumbed) : Prop :=
  state.pdAddr =
    (Pd.activePrefix installed state.pd.trace).bind (fun net => composePD pd (some net))

/-- An invariant that the other parties keep and each callback restores, where it may
be used that a prefix is reported only after the one before was lost. -/
structure Maintained (cfg : IfaceConfig) (pd : PDConfig) (conditions : Conditions)
    (Invariant : Plumbed → Prop) : Prop where
  others : Stable cfg conditions Invariant
  client : ∀ state world calls, Invariant state →
    Invariant { state with pd := world, calls := calls }
  gained : ∀ state net, Invariant state → state.pdAddr = none →
    Safe (plumbHandle cfg) (fun _ => True) (conditions.AtStep cfg)
      (onPDChange pd (some net) true) (fun _ => Invariant) state
  lost : ∀ state net, Invariant state → state.pdAddr = composePD pd (some net) →
    Safe (plumbHandle cfg) (fun _ => True) (conditions.AtStep cfg)
      (onPDChange pd (some net) false) (fun _ => Invariant) state

section Maintained

variable {cfg : IfaceConfig} {pd : PDConfig} {conditions : Conditions}
  {Invariant : Plumbed → Prop}

variable (cfg pd) in
theorem maintained_trivial : Maintained cfg pd unrestricted (fun _ => True) where
  others _ _ _ _ := trivial
  client _ _ _ _ := trivial
  gained _ _ _ _ := safe_of_forall (fun _ => trivial) (fun _ _ => trivial) _ _
  lost _ _ _ _ := safe_of_forall (fun _ => trivial) (fun _ _ => trivial) _ _

/-- An invariant that every callback restores, whatever was reported before. -/
structure Resilient (cfg : IfaceConfig) (pd : PDConfig) (conditions : Conditions)
    (Invariant : Plumbed → Prop) : Prop where
  others : Stable cfg conditions Invariant
  client : ∀ state world calls, Invariant state →
    Invariant { state with pd := world, calls := calls }
  callback : ∀ state delegated ok, Invariant state →
    Safe (plumbHandle cfg) (fun _ => True) (conditions.AtStep cfg)
      (onPDChange pd delegated ok) (fun _ => Invariant) state

theorem Resilient.maintained (resilient : Resilient cfg pd conditions Invariant) :
    Maintained cfg pd conditions Invariant where
  others := resilient.others
  client := resilient.client
  gained state net holds _ := resilient.callback state (some net) true holds
  lost state net holds _ := resilient.callback state (some net) false holds

theorem resilient_of_each (others : Stable cfg conditions Invariant)
    (client : ∀ state world calls, Invariant state →
      Invariant { state with pd := world, calls := calls })
    (each : ∀ state op, Invariant state → Invariant (plumbAnswer cfg state op).2) :
    Resilient cfg pd conditions Invariant := by
  refine ⟨others, client, ?_⟩
  intro state delegated ok holds
  refine Keeps.of_uses (uses_all _) (fun _ _ => trivial) ?_ state holds
  intro op _ current acting answer after before allowed handled
  have answered := each _ op (others.run allowed.1 before)
  rw [Option.some.inj handled] at answered
  exact answered

theorem Resilient.clientHandle (resilient : Resilient cfg pd conditions Invariant)
    {state after : Plumbed} {turn : Turn} {op : Pd.Op} {answer : op.Answer}
    (holds : Invariant state) (allowed : conditions.AtTurn cfg pd state op turn)
    (handled : Server.clientHandle cfg pd state turn op = some (answer, after)) :
    Invariant after := by
  obtain ⟨noted, first, called⟩ := clientHandle_cases handled
  obtain ⟨moment, _, isNoted⟩ := reported_cases first
  have before : Invariant noted := by
    rw [isNoted]
    exact resilient.client _ _ _ (resilient.others.run allowed.1 holds)
  cases op with
  | callback net ok =>
      obtain ⟨⟨_, last⟩, ended, same⟩ := Option.map_eq_some_iff.mp called
      cases same
      have permitted := allowed.2 (net, ok) rfl _ first
      exact finish_of_safe (resilient.callback noted (some net) ok before) permitted ended
  | _ =>
      cases called
      exact before

theorem Resilient.exec (resilient : Resilient cfg pd conditions Invariant)
    (routine : Pd.Routine Unit) {state : Plumbed} (holds : Invariant state) {turns : List Turn}
    (permitted : Permitted (Server.clientHandle cfg pd) (conditions.AtTurn cfg pd) routine state
      turns) :
    Invariant (Interaction.exec (Server.clientHandle cfg pd) routine state turns) := by
  have keeps : Keeps (Server.clientHandle cfg pd) Invariant (conditions.AtTurn cfg pd) Invariant
      routine := by
    refine Keeps.of_uses (uses_all routine) (fun _ same => same) ?_
    intro op _ current turn answer after before allowed handled
    exact resilient.clientHandle before allowed handled
  exact exec_of_safe routine state turns holds (keeps state holds) permitted

theorem Maintained.and {Other : Plumbed → Prop} (first : Maintained cfg pd conditions Invariant)
    (second : Maintained cfg pd conditions Other) :
    Maintained cfg pd conditions (fun state => Invariant state ∧ Other state) := by
  refine ⟨first.others.and second.others, ?_, ?_, ?_⟩
  · intro state world calls both
    exact ⟨first.client state world calls both.1, second.client state world calls both.2⟩
  · intro state net both nothing
    exact (first.gained state net both.1 nothing).and (fun _ _ _ => trivial)
      (second.gained state net both.2 nothing)
  · intro state net both served
    exact (first.lost state net both.1 served).and (fun _ _ _ => trivial)
      (second.lost state net both.2 served)

namespace Maintained

variable (maintained : Maintained cfg pd conditions Invariant)

include maintained

theorem clientHandle {installed : Option Prefix} {state after : Plumbed} {turn : Turn}
    {op : Pd.Op} {answer : op.Answer} (follows : Follows pd installed state)
    (holds : Invariant state) (allowed : conditions.AtTurn cfg pd state op turn)
    (handled : Server.clientHandle cfg pd state turn op = some (answer, after))
    (bracketed : Pd.WellBracketed installed after.pd.trace) :
    Follows pd installed after ∧ Invariant after := by
  obtain ⟨noted, first, called⟩ := clientHandle_cases handled
  obtain ⟨moment, alone, isNoted⟩ := reported_cases first
  have same := others_sameServed cfg state turn.others
  have invariantNoted : Invariant noted := by
    rw [isNoted]
    exact maintained.client _ _ _ (maintained.others.run allowed.1 holds)
  have servedNoted : noted.pdAddr = state.pdAddr := by
    rw [isNoted]
    exact same.pdAddr
  have client := calledBack_pd called
  have active := Pd.activePrefix_handle installed alone
  unfold Follows at follows ⊢
  rw [client, active]
  cases op with
  | callback net ok =>
      obtain ⟨⟨_, last⟩, ended, sameLast⟩ := Option.map_eq_some_iff.mp called
      cases sameLast
      have permitted := allowed.2 (net, ok) rfl _ first
      rw [client] at bracketed
      have before := Pd.activePrefix_before_callback alone bracketed
      rw [before] at follows
      rw [(onPDChange_served cfg ended).2]
      cases ok with
      | true =>
          refine ⟨rfl, finish_of_safe (maintained.gained noted net invariantNoted ?_) permitted
            ended⟩
          rw [servedNoted]
          exact follows
      | false =>
          refine ⟨rfl, finish_of_safe (maintained.lost noted net invariantNoted ?_) permitted
            ended⟩
          rw [servedNoted]
          exact follows
  | _ =>
      cases called
      exact ⟨servedNoted.trans follows, invariantNoted⟩

theorem start_safe (client : Pd.Config) (fuel : Nat) {installed : Option Prefix}
    {state : Plumbed} (agreed : Pd.Agreed installed state.pd)
    (follows : Follows pd installed state) (holds : Invariant state) :
    Safe (Server.clientHandle cfg pd)
      (fun current => Pd.Disciplined installed current.pd ∧
        (Follows pd installed current ∧ Invariant current))
      (conditions.AtTurn cfg pd) (Pd.start client fuel)
      (fun _ current => Pd.Agreed installed current.pd ∧
        (Follows pd installed current ∧ Invariant current)) state := by
  have alone : Safe Pd.handle (Pd.Disciplined installed) (fun _ _ _ => True)
      (Pd.start client fuel) (fun _ => Pd.Agreed installed) state.pd :=
    Pd.start_keeps client fuel state.pd agreed
  have lifted : Safe (Server.clientHandle cfg pd)
      (fun current => Pd.Disciplined installed current.pd) (conditions.AtTurn cfg pd)
      (Pd.start client fuel) (fun _ current => Pd.Agreed installed current.pd) state := by
    refine Safe.lift (fun _ handled => ?_) alone
    obtain ⟨moment, smaller⟩ := clientHandle_simulates handled
    exact ⟨moment, trivial, smaller⟩
  refine Safe.strengthen (fun both allowed handled disciplined => ?_) lifted ⟨follows, holds⟩
  exact maintained.clientHandle both.1 both.2 allowed handled disciplined.bracketed

end Maintained

end Maintained

/-! ### Restoring -/

/-- The client keeps the delegation exactly if the interface serves it. -/
def RestoresBoth (saved : Option PersistedPD) (turn : RestoreTurn) : Prop :=
  ∀ found, saved = some found →
    ((found.net.isSome = true ∧ ¬ found.expiresAt < turn.first) ↔
      turn.second < found.expiresAt)

/-- `pdAddr` is composed from the held delegation and valid exactly if there is one. -/
structure ServesDelegation (pd : PDConfig) (state : Plumbed) : Prop where
  composed : state.pdAddr =
    state.pd.client.binding.bind (fun binding => composePD pd (some binding.net))
  valid_iff : state.pdAddr.isSome = true ↔ state.pd.client.binding.isSome = true

section Restoring

variable (cfg : IfaceConfig) (pd : PDConfig)

theorem addAddr_ends (net : Prefix) : Ends (addAddr net) := by
  intro link
  cases link with
  | none => trivial
  | some index => exact fun _ => trivial

theorem removeAddr_ends (net : Prefix) : Ends (removeAddr net) := by
  intro link
  cases link with
  | none => trivial
  | some index => exact fun _ => trivial

theorem onPDChange_ends (delegated : Option Prefix) (ok : Bool) :
    Ends (onPDChange pd delegated ok) := by
  cases ok with
  | true =>
      change Ends (gainPrefix (composePD pd delegated))
      cases composePD pd delegated with
      | none => exact fun _ => trivial
      | some addr =>
          refine Ends.bind (fun _ => trivial) ?_
          intro _
          exact Ends.bind (addAddr_ends addr) (fun _ _ => trivial)
  | false =>
      intro addr _
      cases addr with
      | none => trivial
      | some net => exact removeAddr_ends net

theorem onPDChange_finishes (delegated : Option Prefix) (ok : Bool)
    (state : Plumbed) (within : Nat → List Other) :
    ∃ after, finish (plumbHandle cfg) (onPDChange pd delegated ok) state within =
      some ((), after) := by
  have ended := finish_of_ends (plumbHandle cfg) (fun _ _ _ => rfl)
    (onPDChange_ends pd delegated ok) state within
  obtain ⟨⟨_, after⟩, same⟩ := Option.isSome_iff_exists.mp ended
  exact ⟨after, same⟩

theorem restore_cases (turn : RestoreTurn) (saved : PersistedPD) (state : Plumbed) :
    (restore cfg pd turn (some saved) state).pd =
        { state.pd with client := saved.restore state.pd.client turn.first } ∧
      (restore cfg pd turn (some saved) state).pdAddr =
        if turn.second < saved.expiresAt then composePD pd saved.net else state.pdAddr := by
  unfold restore
  by_cases served : turn.second < saved.expiresAt
  · obtain ⟨after, ended⟩ :=
      onPDChange_finishes cfg pd saved.net true (seeded turn saved state) turn.within
    dsimp only
    rw [if_pos served, if_pos served, ended]
    exact onPDChange_served cfg ended
  · dsimp only
    rw [if_neg served, if_neg served]
    exact ⟨rfl, rfl⟩

variable {cfg pd} in
theorem restore_invariant {conditions : Conditions} {Invariant : Plumbed → Prop}
    {turn : RestoreTurn} {saved : Option PersistedPD} {state : Plumbed}
    (allowed : conditions.AtRestore cfg pd turn saved state) (holds : Invariant state)
    (client : ∀ world calls, Invariant { state with pd := world, calls := calls })
    (callback : ∀ found ∈ saved, turn.second < found.expiresAt →
      Safe (plumbHandle cfg) (fun _ => True) (conditions.AtStep cfg)
        (onPDChange pd found.net true) (fun _ => Invariant) (seeded turn found state)) :
    Invariant (restore cfg pd turn saved state) := by
  cases saved with
  | none => exact holds
  | some found =>
      unfold restore
      dsimp only
      by_cases served : turn.second < found.expiresAt
      · obtain ⟨after, ended⟩ :=
          onPDChange_finishes cfg pd found.net true (seeded turn found state) turn.within
        rw [if_pos served, ended]
        exact finish_of_safe (callback found rfl served) (allowed found rfl served) ended
      · rw [if_neg served]
        exact client _ _

variable {cfg pd} in
theorem Maintained.restore {conditions : Conditions} {Invariant : Plumbed → Prop}
    (maintained : Maintained cfg pd conditions Invariant) {turn : RestoreTurn}
    {saved : Option PersistedPD} (both : RestoresBoth saved turn) {state : Plumbed}
    (allowed : conditions.AtRestore cfg pd turn saved state) (holds : Invariant state)
    (nothing : state.pdAddr = none) : Invariant (Server.restore cfg pd turn saved state) := by
  refine restore_invariant allowed holds (fun _ _ => maintained.client _ _ _ holds) ?_
  intro found same served
  obtain ⟨net, isNet⟩ := Option.isSome_iff_exists.mp ((both found same).mpr served).1
  rw [isNet]
  exact maintained.gained _ net (maintained.client _ _ _ holds) nothing

variable {cfg pd} in
theorem Resilient.restore {conditions : Conditions} {Invariant : Plumbed → Prop}
    (resilient : Resilient cfg pd conditions Invariant) {turn : RestoreTurn}
    {saved : Option PersistedPD} {state : Plumbed}
    (allowed : conditions.AtRestore cfg pd turn saved state) (holds : Invariant state) :
    Invariant (Server.restore cfg pd turn saved state) := by
  refine restore_invariant allowed holds (fun _ _ => resilient.client _ _ _ holds) ?_
  intro found _ _
  exact resilient.callback _ found.net true (resilient.client _ _ _ holds)

theorem launch_pd (kernel : Kernel) (clock : Instant) (turn : RestoreTurn)
    (saved : Option PersistedPD) :
    ∃ client, (launch cfg pd kernel clock turn saved).pd = Pd.World.start client clock := by
  unfold launch
  rw [(routing_sameServed cfg .start _).pd]
  cases saved with
  | none => exact ⟨_, rfl⟩
  | some found =>
      rw [(restore_cases cfg pd turn found _).1]
      exact ⟨_, rfl⟩

theorem restore_binding (found : PersistedPD) (now : Instant) :
    (found.restore Pd.Client.new now).binding.map Pd.Binding.net =
      if found.expiresAt < now then none else found.net := by
  unfold PersistedPD.restore
  cases found.net with
  | none =>
      dsimp only
      split <;> rfl
  | some net =>
      dsimp only
      unfold Pd.Client.restore
      by_cases expired : found.expiresAt < now
      · rw [if_pos expired, if_pos expired]
        rfl
      · rw [if_neg expired, if_neg expired]
        rfl

variable {pd} in
theorem servesDelegation_iff (fits : 1 ≤ pd.prefixLen ∧ pd.prefixLen ≤ 128) (state : Plumbed) :
    ServesDelegation pd state ↔
      state.pdAddr = (state.pd.client.binding.map Pd.Binding.net).bind
        (fun net => composePD pd (some net)) := by
  rw [Option.bind_map]
  refine ⟨ServesDelegation.composed, ?_⟩
  intro composed
  refine ⟨composed, ?_⟩
  rw [composed]
  cases state.pd.client.binding with
  | none => exact Iff.rfl
  | some binding =>
      obtain ⟨served, valid, _⟩ := composePD_valid fits (some binding.net)
      simp [valid]

variable {pd} in
theorem launch_serves_iff (fits : 1 ≤ pd.prefixLen ∧ pd.prefixLen ≤ 128) (kernel : Kernel)
    (clock : Instant) (turn : RestoreTurn) (saved : Option PersistedPD) :
    ServesDelegation pd (launch cfg pd kernel clock turn saved) ↔ RestoresBoth saved turn := by
  rw [servesDelegation_iff fits]
  have started := routing_sameServed cfg .start (restore cfg pd turn saved (newIface kernel clock))
  unfold launch RestoresBoth
  rw [started.pd, started.pdAddr]
  cases saved with
  | none =>
      refine ⟨?_, fun _ => rfl⟩
      intro _ found impossible
      cases impossible
  | some found =>
      obtain ⟨client, served⟩ := restore_cases cfg pd turn found (newIface kernel clock)
      have binding : (restore cfg pd turn (some found) (newIface kernel clock)).pd.client.binding.map
          Pd.Binding.net = if found.expiresAt < turn.first then none else found.net := by
        rw [client]
        exact restore_binding found turn.first
      rw [binding, served]
      have nothing : (newIface kernel clock).pdAddr = none := rfl
      rw [nothing]
      obtain ⟨zero, zeroValid, _⟩ := composePD_valid fits none
      by_cases kept : found.expiresAt < turn.first
      · by_cases shown : turn.second < found.expiresAt
        · obtain ⟨addr, valid, _⟩ := composePD_valid fits found.net
          simp [kept, shown, valid]
        · simp [kept, shown]
      · cases isNet : found.net with
        | none =>
            by_cases shown : turn.second < found.expiresAt
            · simp [kept, shown, isNet, zeroValid]
            · simp [kept, shown, isNet]
        | some net =>
            obtain ⟨addr, valid, _⟩ := composePD_valid fits (some net)
            by_cases shown : turn.second < found.expiresAt
            · simp [kept, shown, isNet, not_lt.mp kept]
            · simp [kept, shown, isNet, valid, not_lt.mp kept]

variable {pd} in
theorem launch_follows (fits : 1 ≤ pd.prefixLen ∧ pd.prefixLen ≤ 128) (kernel : Kernel)
    (clock : Instant) {turn : RestoreTurn} {saved : Option PersistedPD}
    (both : RestoresBoth saved turn) :
    ∃ installed, Pd.Agreed installed (launch cfg pd kernel clock turn saved).pd ∧
      Follows pd installed (launch cfg pd kernel clock turn saved) := by
  have serves := (launch_serves_iff cfg fits kernel clock turn saved).mpr both
  have composed := (servesDelegation_iff fits _).mp serves
  obtain ⟨client, world⟩ := launch_pd cfg pd kernel clock turn saved
  refine ⟨client.binding.map Pd.Binding.net, ?_, ?_⟩
  · rw [world]
    exact ⟨_, trivial, rfl, rfl⟩
  · unfold Follows
    rw [composed, world]
    rfl

end Restoring

/-! ### Every run -/

/-- Whatever the servers and the other parties do, wherever no callback is running
`pdAddr` is composed from the held delegation and valid exactly if one is held: this is
so exactly if the two tests of `restore` agree. -/
theorem served_agrees_iff (cfg ready : IfaceConfig) (pd : PDConfig) (client : Pd.Config)
    (kernel : Kernel) (clock : Instant) (turn : RestoreTurn) (saved : Option PersistedPD)
    (normalized : cfg.normalize = .ok ready) (delegates : ready.pd = some pd) :
    (∀ fuel turns later,
      ¬ Pd.Changing (run (otherStep ready) (exec (clientHandle ready pd) (Pd.start client fuel)
          (launch ready pd kernel clock turn saved) turns) later).pd →
      ServesDelegation pd (run (otherStep ready) (exec (clientHandle ready pd)
          (Pd.start client fuel) (launch ready pd kernel clock turn saved) turns) later)) ↔
      RestoresBoth saved turn := by
  obtain ⟨before, _, completed⟩ := IfaceConfig.normalize_pd normalized delegates
  have fits := PDConfig.normalize_prefixLen completed
  constructor
  · intro always
    refine (launch_serves_iff ready fits kernel clock turn saved).mp (always 0 [] [] ?_)
    obtain ⟨first, world⟩ := launch_pd ready pd kernel clock turn saved
    change ¬ Pd.Changing (launch ready pd kernel clock turn saved).pd
    rw [world]
    rintro (applying | dropping)
    · cases applying
    · cases dropping
  · intro both fuel turns later settled
    obtain ⟨installed, agreed, follows⟩ := launch_follows ready fits kernel clock both
    have safe := (maintained_trivial ready pd).start_safe client fuel agreed follows trivial
    obtain ⟨disciplined, followsAfter, _⟩ := exec_of_safe _ _ turns
      ⟨agreed.disciplined, follows, trivial⟩ safe
      (permitted_of_forall (unrestricted_atTurn ready pd) _ _ _)
    have same := others_sameServed ready (exec (clientHandle ready pd) (Pd.start client fuel)
      (launch ready pd kernel clock turn saved) turns) later
    rw [same.pd] at settled
    rw [servesDelegation_iff fits, same.pd, same.pdAddr, ← disciplined.agrees settled]
    exact followsAfter

def sampleSaved (net : Option Prefix) : PersistedPD where
  net := net
  boundAt := 0
  expiresAt := 14400 * second

def restoredAt (first second : Instant) : RestoreTurn where
  first := first
  second := second
  within := fun _ => []

def routedPD : PDConfig := { samplePD 64 with routeTable := 1000, rulePriority := 5000 }

def routedIface : IfaceConfig := { sampleIface 64 with pd := some routedPD }

def routedReady : IfaceConfig := { routedIface with ra := routedIface.advertised }

theorem routedIface_normalized : routedIface.normalize = .ok routedReady := by
  decide +kernel

def sampleHost : Kernel where
  links := (AList.insert "br0" 1 ∅).insert "up0" 2
  up := [1, 2]
  addrs := []
  rules := []
  routes := []

def quietTurn : Turn where
  others := []
  moment := Pd.quiet (3600 * second) true
  within := fun _ => []

def restoredHour : Plumbed :=
  run (otherStep (sampleReady 64)) (exec (clientHandle (sampleReady 64) (samplePD 64))
    (Pd.start Pd.sampleConfig 3) (launch (sampleReady 64) (samplePD 64) sampleHost 0
      (restoredAt (3600 * second) (3600 * second))
      (some (sampleSaved (some Pd.sampleBinding.net)))) [quietTurn]) [.delete, .watch]

theorem served_agrees_hour :
    restoredHour.pdAddr.isSome = true ∧ ServesDelegation (samplePD 64) restoredHour :=
  ⟨by decide +kernel,
    (served_agrees_iff (sampleIface 64) (sampleReady 64) (samplePD 64) Pd.sampleConfig sampleHost 0
      (restoredAt (3600 * second) (3600 * second)) (some (sampleSaved (some Pd.sampleBinding.net)))
      sampleIface_normalized.1 rfl).mpr
      (by
        intro found same
        cases same
        decide)
      3 [quietTurn] [.delete, .watch]
      (by
        unfold Pd.Changing
        decide +kernel)⟩

/-- At the very instant of its end a delegation is kept by the client and not served;
the zero prefix with a later end is served and not kept. -/
theorem restored_apart :
    (launch (sampleReady 64) (samplePD 64) sampleHost 0
        (restoredAt (14400 * second) (14400 * second))
        (some (sampleSaved (some Pd.sampleBinding.net)))).pd.client.binding.isSome = true ∧
      (launch (sampleReady 64) (samplePD 64) sampleHost 0
        (restoredAt (14400 * second) (14400 * second))
        (some (sampleSaved (some Pd.sampleBinding.net)))).pdAddr = none ∧
      (launch (sampleReady 64) (samplePD 64) sampleHost 0 (restoredAt 0 0)
        (some (sampleSaved none))).pd.client.binding = none ∧
      (launch (sampleReady 64) (samplePD 64) sampleHost 0 (restoredAt 0 0)
        (some (sampleSaved none))).pdAddr.isSome = true := by
  decide +kernel

end BridgeDhcp.Server
