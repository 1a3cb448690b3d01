/-
What is left of an interface after `stop`.

`stop` only signals the client's goroutine, reads `pdAddr` once and deletes that
address.  A callback that adds an address later leaves it on the link for good.  The
policy routing does nothing after its own stop.
-/

import BridgeDhcp.Server.ServedPrefix

set_option autoImplicit false

namespace BridgeDhcp.Server

open Netip GoTime Netlink Interaction StepRun

/-! ### Conditions -/

def undisturbed (cfg : IfaceConfig) (state : Plumbed) : Other → Bool
  | .create _ => false
  | .raise => false
  | .lower => false
  | .delete => false
  | .change after => decide (LeavesServed cfg state.host.kernel after)
  | _ => true

/-- The address is added before `stop` has read `pdAddr`, or is the one that `stop` has
read and not deleted yet. -/
def timely (state : Plumbed) : PlumbOp → Bool
  | .addrAdd _ net =>
      match state.stop with
      | .read addr => addr = some net
      | .located addr _ => addr = net
      | .removed => false
      | .finished => false
      | _ => true
  | _ => true

def teardown (cfg : IfaceConfig) : Conditions where
  others := undisturbed cfg
  op := timely

theorem stable_of_undisturbed {cfg : IfaceConfig} {Holds : Plumbed → Prop}
    (stop : ∀ state, Holds state → Holds (stopStep cfg state))
    (resync : ∀ state, Holds state → Holds (routing cfg .resync state))
    (watch : ∀ state calls, Holds state → Holds { state with calls := calls, unseen := false })
    (change : ∀ state after, LeavesServed cfg state.host.kernel after → Holds state →
      Holds (onKernel state (fun _ => after))) :
    Stable cfg (teardown cfg) Holds := by
  intro state other allowed holds
  cases other with
  | stop => exact stop state holds
  | resync => exact resync state holds
  | watch => exact watch state _ holds
  | create index => cases allowed
  | raise => cases allowed
  | lower => cases allowed
  | delete => cases allowed
  | change after => exact change state after (of_decide_eq_true allowed) holds

/-! ### Addresses -/

/-- `stop` is going to delete the address, as things stand. -/
def ToDelete (stop : StopStage) (pdAddr : Option Prefix) (entry : Int × Prefix) : Prop :=
  match stop with
  | .read addr => addr = some entry.2
  | .located addr index => addr = entry.2 ∧ index = entry.1
  | .removed => False
  | .finished => False
  | _ => pdAddr = some entry.2

/-- Every address that the process has added and that is still there is on the served
link, and either the callback that runs is about to delete it or `stop` is. -/
structure Accounted (cfg : IfaceConfig) (leaving : Option Prefix) (state : Plumbed) : Prop where
  entries : ∀ entry ∈ state.added, entry ∈ state.host.kernel.addrs →
    servedLink cfg state = some entry.1 ∧
      (leaving = some entry.2 ∨ ToDelete state.stop state.pdAddr entry)
  located : ∀ addr index, state.stop = .located addr index → servedLink cfg state = some index

section Addresses

variable {cfg : IfaceConfig} {leaving : Option Prefix} {state : Plumbed}

theorem Accounted.of_same {after : Plumbed} (accounted : Accounted cfg leaving state)
    (same : SameAddresses cfg state after) : Accounted cfg leaving after := by
  obtain ⟨link, addrs, added, stop, pdAddr⟩ := same
  constructor
  · intro entry
    rw [added, addrs, link, stop, pdAddr]
    exact accounted.entries entry
  · intro addr index
    rw [stop, link]
    exact accounted.located addr index

theorem Accounted.restage (accounted : Accounted cfg leaving state) {stop : StopStage}
    {calls : List Pd.ApiCall}
    (due : ∀ entry, servedLink cfg state = some entry.1 → ToDelete state.stop state.pdAddr entry →
      ToDelete stop state.pdAddr entry)
    (located : ∀ addr index, stop = .located addr index → servedLink cfg state = some index) :
    Accounted cfg leaving { state with stop := stop, calls := calls } := by
  refine ⟨?_, located⟩
  intro entry added present
  obtain ⟨link, leaves | dueBefore⟩ := accounted.entries entry added present
  · exact ⟨link, Or.inl leaves⟩
  · exact ⟨link, Or.inr (due entry link dueBefore)⟩

theorem Accounted.stopStep (accounted : Accounted cfg leaving state) :
    Accounted cfg leaving (stopStep cfg state) := by
  unfold Server.stopStep
  cases stage : state.stop with
  | uncalled =>
      refine accounted.restage ?_ (fun _ _ impossible => nomatch impossible)
      intro entry _ due
      rwa [stage] at due
  | closed =>
      refine accounted.restage ?_ (fun _ _ impossible => nomatch impossible)
      intro entry _ due
      rwa [stage] at due
  | signalled =>
      refine accounted.restage ?_ (fun _ _ impossible => nomatch impossible)
      intro entry _ due
      rwa [stage] at due
  | read addr =>
      cases addr with
      | none =>
          refine accounted.restage ?_ (fun _ _ impossible => nomatch impossible)
          intro entry _ due
          rw [stage] at due
          cases due
      | some net =>
          dsimp only
          cases link : servedLink cfg state with
          | none =>
              refine accounted.restage ?_ (fun _ _ impossible => nomatch impossible)
              intro entry found _
              rw [link] at found
              cases found
          | some index =>
              refine accounted.restage ?_ ?_
              · intro entry found due
                rw [stage] at due
                rw [link] at found
                exact ⟨Option.some.inj due, Option.some.inj found⟩
              · intro addr other same
                cases same
                exact link
  | located net index =>
      refine ⟨?_, fun _ _ impossible => nomatch impossible⟩
      intro entry added present
      obtain ⟨still, different⟩ := List.mem_filter.mp present
      obtain ⟨link, leaves | due⟩ := accounted.entries entry added still
      · exact ⟨link, Or.inl leaves⟩
      · rw [stage] at due
        obtain ⟨sameNet, sameIndex⟩ := due
        have same : entry = (index, net) := Prod.ext sameIndex.symm sameNet.symm
        rw [same] at different
        simp at different
  | removed =>
      have routed := accounted.of_same (routing_sameAddresses cfg .stop state)
      refine routed.restage ?_ (fun _ _ impossible => nomatch impossible)
      intro entry _ due
      rw [(routing_sameAddresses cfg .stop state).stop, stage] at due
      cases due
  | finished => exact accounted

variable (cfg leaving) in
theorem accounted_stable : Stable cfg (teardown cfg) (Accounted cfg leaving) := by
  refine stable_of_undisturbed (fun _ => Accounted.stopStep) ?_ ?_ ?_
  · intro state accounted
    exact accounted.of_same (routing_sameAddresses cfg .resync state)
  · intro state calls accounted
    exact accounted.of_same ⟨rfl, rfl, rfl, rfl, rfl⟩
  · intro state after leaves accounted
    exact accounted.of_same ⟨leaves.link, leaves.addrs, rfl, rfl, rfl⟩

theorem link_stable (link : Option Int) :
    Stable cfg (teardown cfg) (fun state => servedLink cfg state = link) := by
  refine stable_of_undisturbed ?_ ?_ (fun _ _ found => found) ?_
  · intro state found
    unfold stopStep
    split
    case h_5 => split <;> exact found
    case h_7 => exact (routing_sameAddresses cfg .stop state).link.trans found
    all_goals exact found
  · intro state found
    exact (routing_sameAddresses cfg .resync state).link.trans found
  · intro state after leaves found
    exact leaves.link.trans found

/-! ### The callback -/

theorem Accounted.setAddr (accounted : Accounted cfg none state) (nothing : state.pdAddr = none)
    (addr : Option Prefix) : Accounted cfg none { state with pdAddr := addr } := by
  refine ⟨?_, accounted.located⟩
  intro entry added present
  obtain ⟨link, leaves | due⟩ := accounted.entries entry added present
  · cases leaves
  · refine ⟨link, Or.inr ?_⟩
    dsimp only
    rw [nothing] at due
    cases stage : state.stop <;> rw [stage] at due <;> first | exact due | cases due

theorem Accounted.due_of_timely (accounted : Accounted cfg none state) {index : Int} {net : Prefix}
    (served : state.pdAddr = some net) (link : servedLink cfg state = some index)
    (inTime : timely state (.addrAdd index net) = true) :
    ToDelete state.stop state.pdAddr (index, net) := by
  unfold timely at inTime
  cases stage : state.stop with
  | uncalled => exact served
  | closed => exact served
  | signalled => exact served
  | read addr =>
      rw [stage] at inTime
      have same : addr = some net := of_decide_eq_true inTime
      exact same
  | located addr found =>
      rw [stage] at inTime
      have same : addr = net := of_decide_eq_true inTime
      have sameLink := (accounted.located addr found stage).symm.trans link
      exact ⟨same, Option.some.inj sameLink⟩
  | removed =>
      rw [stage] at inTime
      cases inTime
  | finished =>
      rw [stage] at inTime
      cases inTime

theorem Accounted.addrAdd (accounted : Accounted cfg none state) {index : Int} {net : Prefix}
    (served : state.pdAddr = some net) (link : servedLink cfg state = some index)
    (inTime : timely state (.addrAdd index net) = true) :
    Accounted cfg none (addressed index net state) := by
  have due := accounted.due_of_timely served link inTime
  have sameLink : servedLink cfg (addressed index net state) = servedLink cfg state :=
    congrArg (fun links => links.lookup cfg.name) (state.host.kernel.addrAdd_links index net)
  refine ⟨?_, sameLink ▸ accounted.located⟩
  rw [sameLink]
  intro entry added present
  by_cases isNew : entry = (index, net)
  · rw [isNew]
    exact ⟨link, Or.inr due⟩
  · refine accounted.entries entry ?_ ?_
    · unfold addressed at added
      dsimp only at added
      split at added
      · exact (List.mem_cons.mp added).resolve_left isNew
      · exact added
    · change entry ∈ (state.host.kernel.addrAdd index net).addrs at present
      unfold Kernel.addrAdd at present
      split at present
      · exact present
      · exact (List.mem_cons.mp present).resolve_left isNew

theorem Accounted.takeAddr (accounted : Accounted cfg none state) :
    Accounted cfg state.pdAddr { state with pdAddr := none } := by
  refine ⟨?_, accounted.located⟩
  intro entry added present
  obtain ⟨link, leaves | due⟩ := accounted.entries entry added present
  · cases leaves
  · refine ⟨link, ?_⟩
    dsimp only
    cases stage : state.stop <;> rw [stage] at due <;>
      first | exact Or.inr due | exact Or.inl due

theorem Accounted.addrDel {index : Int} {net : Prefix}
    (accounted : Accounted cfg (some net) state) (link : servedLink cfg state = some index) :
    Accounted cfg none (onKernel state (fun kernel => kernel.addrDel index net)) := by
  refine ⟨?_, accounted.located⟩
  intro entry added present
  obtain ⟨still, different⟩ := List.mem_filter.mp present
  obtain ⟨found, leaves | due⟩ := accounted.entries entry added still
  · rw [link] at found
    have same : entry = (index, net) :=
      Prod.ext (Option.some.inj found).symm (Option.some.inj leaves).symm
    rw [same] at different
    simp at different
  · exact ⟨found, Or.inr due⟩

theorem addAddr_accounted {net : Prefix} (accounted : Accounted cfg none state)
    (served : state.pdAddr = some net) :
    Safe (plumbHandle cfg) (fun _ => True) ((teardown cfg).AtStep cfg) (addAddr net)
      (fun _ => Accounted cfg none) state := by
  have stable : Stable cfg (teardown cfg)
      (fun current => Accounted cfg none current ∧ current.pdAddr = some net) :=
    (accounted_stable cfg none).and (served_stable (some net))
  refine safe_plumb stable ⟨accounted, served⟩ ?_
  rintro current ⟨still, served⟩ _
  change Safe _ _ _ (addAddrOn net (servedLink cfg current)) _ current
  cases link : servedLink cfg current with
  | none => exact still
  | some index =>
      refine safe_plumb (stable.and (link_stable (some index))) ⟨⟨still, served⟩, link⟩ ?_
      rintro later ⟨⟨kept, shown⟩, found⟩ inTime
      exact kept.addrAdd shown found inTime

theorem removeAddr_accounted {net : Prefix} (accounted : Accounted cfg (some net) state) :
    Safe (plumbHandle cfg) (fun _ => True) ((teardown cfg).AtStep cfg) (removeAddr net)
      (fun _ => Accounted cfg none) state := by
  refine safe_plumb (accounted_stable cfg (some net)) accounted ?_
  intro current still _
  change Safe _ _ _ (removeAddrOn net (servedLink cfg current)) _ current
  cases link : servedLink cfg current with
  | none =>
      refine ⟨?_, still.located⟩
      intro entry added present
      have found := (still.entries entry added present).1
      rw [link] at found
      cases found
  | some index =>
      refine safe_plumb ((accounted_stable cfg (some net)).and (link_stable (some index)))
        ⟨still, link⟩ ?_
      rintro later ⟨kept, found⟩ _
      exact kept.addrDel found

variable (cfg) in
theorem accounted_maintained (pd : PDConfig) :
    Maintained cfg pd (teardown cfg) (Accounted cfg none) := by
  refine ⟨accounted_stable cfg none, ?_, ?_, ?_⟩
  · intro state world calls accounted
    exact accounted.of_same ⟨rfl, rfl, rfl, rfl, rfl⟩
  · intro state net accounted nothing
    change Safe _ _ _ (gainPrefix (composePD pd (some net))) _ state
    have stable : Stable cfg (teardown cfg)
        (fun current => Accounted cfg none current ∧ current.pdAddr = none) :=
      (accounted_stable cfg none).and (served_stable none)
    cases composePD pd (some net) with
    | none =>
        refine safe_plumb stable ⟨accounted, nothing⟩ ?_
        rintro current ⟨still, silent⟩ _
        exact still.setAddr silent none
    | some addr =>
        refine safe_plumb stable ⟨accounted, nothing⟩ ?_
        rintro current ⟨still, silent⟩ _
        apply Safe.bind
        apply (addAddr_accounted (still.setAddr silent (some addr)) rfl).mono
        intro _ after added
        refine safe_plumb (accounted_stable cfg none) added ?_
        intro last kept _
        exact kept.of_same (routing_sameAddresses cfg _ last)
  · intro state net accounted _
    change Safe _ _ _ losePrefix _ state
    refine safe_plumb (accounted_stable cfg none) accounted ?_
    intro current still _
    refine safe_plumb (accounted_stable cfg current.pdAddr) still.takeAddr ?_
    intro cleared kept _
    have routed := kept.of_same (routing_sameAddresses cfg .clear cleared)
    change Safe _ _ _ (removeServed current.pdAddr) _ _
    cases leaving : current.pdAddr with
    | none =>
        rw [leaving] at routed
        exact routed
    | some addr =>
        rw [leaving] at routed
        exact removeAddr_accounted routed

end Addresses

/-! ### Policy routing -/

/-- The policy routing has been stopped exactly if `stop` is through. -/
def StopsWith (cfg : IfaceConfig) (state : Plumbed) : Prop :=
  ∀ routes ∈ cfg.routes, (state.host.routes.stopped = true ↔ state.stop = .finished)

def Retiring (cfg : IfaceConfig) (state : Plumbed) : Prop :=
  ∀ routes ∈ cfg.routes, state.host.routes.started = true ∧ PdRoute.Rests routes state.host

section Routing

variable {cfg : IfaceConfig} {state : Plumbed}

theorem Retiring.routing (retiring : Retiring cfg state) (call : PdRoute.Call) :
    Retiring cfg (routing cfg call state) := by
  intro routes routed
  obtain ⟨started, rests⟩ := retiring routes routed
  rw [routing_host cfg routed]
  exact ⟨PdRoute.perform_started routes started call, rests.perform routes started call⟩

theorem StopsWith.routing (stopsWith : StopsWith cfg state) {call : PdRoute.Call}
    (another : call ≠ .stop) : StopsWith cfg (routing cfg call state) := by
  intro routes routed
  rw [routing_host cfg routed, PdRoute.perform_stopped, decide_eq_false another, Bool.or_false,
    (routing_sameAddresses cfg call state).stop]
  exact stopsWith routes routed

theorem StopsWith.stopStep (stopsWith : StopsWith cfg state) :
    StopsWith cfg (stopStep cfg state) := by
  intro routes routed
  have before := stopsWith routes routed
  unfold Server.stopStep
  cases stage : state.stop with
  | uncalled => simpa [stage] using before
  | closed => simpa [stage] using before
  | signalled => simpa [stage] using before
  | read addr =>
      cases addr with
      | none => simpa [stage] using before
      | some net =>
          cases servedLink cfg state with
          | none => simpa [stage] using before
          | some index => simpa [stage] using before
  | located net index => simpa [stage, onKernel] using before
  | removed => simp [routing_host cfg routed, PdRoute.perform_stopped]
  | finished => simpa [stage] using before

variable (cfg) in
theorem stopsWith_stable : Stable cfg (teardown cfg) (StopsWith cfg) := by
  refine stable_of_undisturbed (fun _ => StopsWith.stopStep) ?_ (fun _ _ same => same)
    (fun _ _ _ same => same)
  intro state stopsWith
  exact stopsWith.routing (fun impossible => nomatch impossible)

theorem Retiring.change (retiring : Retiring cfg state) {after : Kernel}
    (leaves : ∀ routes ∈ cfg.routes, PdRoute.LeavesTable routes state.host.kernel after) :
    Retiring cfg (onKernel state (fun _ => after)) := by
  intro routes routed
  obtain ⟨started, rests⟩ := retiring routes routed
  refine ⟨started, rests.held, ?_⟩
  intro stopped begun
  exact (rests.empty stopped begun).change routes (leaves routes routed)

theorem Retiring.stopStep (retiring : Retiring cfg state) : Retiring cfg (stopStep cfg state) := by
  unfold Server.stopStep
  cases state.stop with
  | uncalled => exact retiring
  | closed => exact retiring
  | signalled => exact retiring
  | read addr =>
      cases addr with
      | none => exact retiring
      | some net =>
          dsimp only
          cases servedLink cfg state with
          | none => exact retiring
          | some index => exact retiring
  | located net index => exact retiring.change (fun _ _ => ⟨rfl, Or.inl rfl, rfl⟩)
  | removed => exact retiring.routing .stop
  | finished => exact retiring

variable (cfg) in
theorem retiring_stable : Stable cfg (teardown cfg) (Retiring cfg) := by
  refine stable_of_undisturbed (fun _ => Retiring.stopStep) ?_ (fun _ _ same => same) ?_
  · intro state retiring
    exact retiring.routing .resync
  · intro state after leaves retiring
    exact retiring.change leaves.table

variable (cfg) in
theorem stopsWith_maintained (pd : PDConfig) : Maintained cfg pd (teardown cfg) (StopsWith cfg) := by
  refine (resilient_of_each (stopsWith_stable cfg) (fun _ _ _ same => same) ?_).maintained
  intro state op stopsWith
  cases op with
  | install net => exact stopsWith.routing (fun impossible => nomatch impossible)
  | clear => exact stopsWith.routing (fun impossible => nomatch impossible)
  | _ => exact stopsWith

variable (cfg) in
theorem retiring_maintained (pd : PDConfig) : Maintained cfg pd (teardown cfg) (Retiring cfg) := by
  refine (resilient_of_each (retiring_stable cfg) (fun _ _ _ same => same) ?_).maintained
  intro state op retiring
  cases op with
  | install net => exact retiring.routing (.install net)
  | clear => exact retiring.routing .clear
  | addrAdd index net =>
      exact retiring.change (fun routes _ => PdRoute.leavesTable_addrAdd routes _ index net)
  | addrDel index net => exact retiring.change (fun _ _ => ⟨rfl, Or.inl rfl, rfl⟩)
  | _ => exact retiring

end Routing

/-! ### Every interleaving -/

structure Clean (cfg : IfaceConfig) (state : Plumbed) : Prop where
  addresses : ∀ entry ∈ state.added, entry ∉ state.host.kernel.addrs
  table : ∀ routes ∈ cfg.routes, PdRoute.Empty routes state.host.kernel

def TearsDown (cfg : IfaceConfig) (state : Plumbed) : Prop :=
  (Accounted cfg none state ∧ StopsWith cfg state) ∧ Retiring cfg state

theorem TearsDown.clean {cfg : IfaceConfig} {state : Plumbed} (tearsDown : TearsDown cfg state)
    (finished : state.stop = .finished) : Clean cfg state := by
  obtain ⟨⟨accounted, stopsWith⟩, retiring⟩ := tearsDown
  constructor
  · intro entry added present
    obtain ⟨_, impossible | due⟩ := accounted.entries entry added present
    · cases impossible
    · rw [finished] at due
      exact due
  · intro routes routed
    obtain ⟨started, rests⟩ := retiring routes routed
    exact rests.empty ((stopsWith routes routed).mpr finished) started

theorem tearsDown_maintained (cfg : IfaceConfig) (pd : PDConfig) :
    Maintained cfg pd (teardown cfg) (TearsDown cfg) :=
  ((accounted_maintained cfg pd).and (stopsWith_maintained cfg pd)).and (retiring_maintained cfg pd)

theorem launch_tearsDown {cfg : IfaceConfig} {pd : PDConfig} (kernel : Kernel) (clock : Instant)
    {turn : RestoreTurn} {saved : Option PersistedPD} (both : RestoresBoth saved turn)
    (restored : (teardown cfg).AtRestore cfg pd turn saved (newIface kernel clock))
    (uncalled : (launch cfg pd kernel clock turn saved).stop = .uncalled) :
    TearsDown cfg (launch cfg pd kernel clock turn saved) := by
  have initially : Accounted cfg none (newIface kernel clock) ∧
      StopsWith cfg (newIface kernel clock) := by
    refine ⟨⟨?_, fun _ _ impossible => nomatch impossible⟩, ?_⟩
    · intro entry added
      cases added
    · intro routes _
      simp [newIface, PdRoute.new]
  have early := (accounted_maintained cfg pd).and (stopsWith_maintained cfg pd)
  obtain ⟨accounted, stopsWith⟩ := early.restore both restored initially rfl
  have same := routing_sameAddresses cfg .start
    (restore cfg pd turn saved (newIface kernel clock))
  refine ⟨⟨accounted.of_same same, ?_⟩, ?_⟩
  · exact stopsWith.routing (fun impossible => nomatch impossible)
  · intro routes routed
    have running : (restore cfg pd turn saved (newIface kernel clock)).host.routes.stopped =
        false := by
      apply Bool.eq_false_iff.mpr
      intro stopped
      have finished := (stopsWith routes routed).mp stopped
      have stage := same.stop.symm.trans uncalled
      rw [finished] at stage
      cases stage
    unfold launch
    rw [routing_host cfg routed]
    refine ⟨PdRoute.start_started routes running, PdRoute.Rests.of_running routes ?_⟩
    rw [PdRoute.perform_stopped, running]
    rfl

/-- Once the goroutine and `stop` have both ended, in whatever interleaving, nothing that
the process has added is left, provided that no address is added too late. -/
theorem teardown_complete (cfg ready : IfaceConfig) (pd : PDConfig) (client : Pd.Config)
    (fuel : Nat) (kernel : Kernel) (clock : Instant) (turn : RestoreTurn)
    (saved : Option PersistedPD) (turns : Nat → Turn) (last : Plumbed) (later : List Other)
    (normalized : cfg.normalize = .ok ready) (delegates : ready.pd = some pd)
    (both : RestoresBoth saved turn)
    (restored : (teardown ready).AtRestore ready pd turn saved (newIface kernel clock))
    (uncalled : (launch ready pd kernel clock turn saved).stop = .uncalled)
    (permitted : PermittedThrough (clientHandle ready pd) ((teardown ready).AtTurn ready pd)
      (Pd.start client fuel) (launch ready pd kernel clock turn saved) turns)
    (ended : finish (clientHandle ready pd) (Pd.start client fuel)
      (launch ready pd kernel clock turn saved) turns = some ((), last))
    (allowed : (teardown ready).Among ready last later)
    (finished : (run (otherStep ready) last later).stop = .finished) :
    Clean ready (run (otherStep ready) last later) := by
  obtain ⟨before, _, completed⟩ := IfaceConfig.normalize_pd normalized delegates
  have fits := PDConfig.normalize_prefixLen completed
  obtain ⟨installed, agreed, follows⟩ := launch_follows ready fits kernel clock both
  have maintained := tearsDown_maintained ready pd
  have safe := maintained.start_safe client fuel agreed follows
    (launch_tearsDown kernel clock both restored uncalled)
  obtain ⟨_, _, tearsDown⟩ := finish_of_safe safe permitted ended
  exact (maintained.others.run allowed tearsDown).clean finished

theorem eq_end_of_isSome {found : Option (Unit × Plumbed)} (ended : found.isSome = true)
    (otherwise : Plumbed) : found = some ((), (found.map Prod.snd).getD otherwise) := by
  cases found with
  | none => cases ended
  | some result => rfl

def sampleLaunch : Plumbed :=
  launch routedReady routedPD sampleHost 0 (restoredAt (3600 * second) (3600 * second))
    (some (sampleSaved (some Pd.sampleBinding.net)))

/-- `stop` is called and signals the goroutine before its first operation. -/
def signalled (turn : Nat) : Turn where
  others := if turn = 0 then [.stop, .stop] else []
  moment := Pd.quiet 0 true
  within := fun _ => []

def signalledEnd : Plumbed :=
  ((finish (clientHandle routedReady routedPD) (Pd.start Pd.sampleConfig 1) sampleLaunch
    signalled).map Prod.snd).getD sampleLaunch

theorem teardown_complete_restored :
    sampleLaunch.added = signalledEnd.host.kernel.addrs ∧ sampleLaunch.added ≠ [] ∧
      Clean routedReady (run (otherStep routedReady) signalledEnd [.stop, .stop, .stop, .stop]) :=
  ⟨by decide +kernel, by decide +kernel,
    teardown_complete routedIface routedReady routedPD Pd.sampleConfig 1 sampleHost 0
      (restoredAt (3600 * second) (3600 * second)) (some (sampleSaved (some Pd.sampleBinding.net)))
      signalled signalledEnd [.stop, .stop, .stop, .stop] routedIface_normalized rfl
      (by
        intro found same
        cases same
        decide)
      (by decide +kernel) (by decide +kernel) (by decide +kernel)
      (eq_end_of_isSome (by decide +kernel) sampleLaunch) (by decide +kernel) (by decide +kernel)⟩

/-- A delegation is acquired, and the whole of `stop` runs after the REPLY is recorded
and before the callback sets `pdAddr`. -/
def overtaken (turn : Nat) : Turn where
  others := []
  moment :=
    if turn = 15 then Pd.hears 0 (Pd.sampleAnswer .advertise)
    else if turn = 23 then Pd.hears 0 (Pd.sampleAnswer .reply)
    else Pd.quiet 0 true
  within := fun step =>
    if turn = 27 ∧ step = 0 then [.stop, .stop, .stop, .stop, .stop] else []

def overtakenEnd : Plumbed :=
  ((finish (clientHandle routedReady routedPD) (Pd.start Pd.sampleConfig 6)
    (launch routedReady routedPD sampleHost 0 (restoredAt 0 0) none) overtaken).map
      Prod.snd).getD (newIface sampleHost 0)

/-- Both have ended, and the address is on the link. -/
theorem address_left_behind :
    (finish (clientHandle routedReady routedPD) (Pd.start Pd.sampleConfig 6)
        (launch routedReady routedPD sampleHost 0 (restoredAt 0 0) none) overtaken).isSome = true ∧
      overtakenEnd.stop = .finished ∧
      ∃ entry ∈ overtakenEnd.added, entry ∈ overtakenEnd.host.kernel.addrs := by
  decide +kernel

end BridgeDhcp.Server
