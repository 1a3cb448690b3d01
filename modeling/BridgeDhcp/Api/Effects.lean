/-
What requests can do.

A request that is answered with an error has changed nothing: the statements of a call
that fails leave the static bindings as they were.  Runs mix requests with everything else
the daemon does; failed requests drop out of them.  What the status shows does not depend
on the order in which maps are iterated, only on what they hold.
-/

import BridgeDhcp.Api.Handlers
import BridgeDhcp.Config.CleanRestart
import BridgeDhcp.Server.StaticCalls

set_option autoImplicit false

namespace BridgeDhcp.Api

open GoMap GoError Netip Server StepRun

/-! ### Failed requests -/

def Harmless (manager : Manager) (outcome : Response × Manager) : Prop :=
  outcome.1.failed = true → outcome.2 = manager

section Harmless

variable {api : ApiServer} {manager : Manager} {moment : Moment} {values : PathValues}
  {body : List UInt8}

theorem harmless_kept (response : Response) : Harmless manager (response, manager) :=
  fun _ => rfl

theorem harmless_conclude (code : Nat) (outcome : Except String Manager) :
    Harmless manager (conclude manager code outcome) := by
  cases outcome with
  | error reason => exact harmless_kept _
  | ok after =>
      intro failed
      cases failed

/-- Answered with an error or not, the manager holds what the statements of the call leave
in the map. -/
theorem conclude_performs {name : String} {family : Int} {which : Family} {it : Served}
    (found : manager.ifaces.lookup name = some it) (chosen : Manager.familyOf family = .ok which)
    (code : Nat) (call : StaticCalls.Call) :
    ∃ after, (conclude manager code
        (manager.editStatics name family (fun server => call.apply server))).2.ifaces.lookup name =
          some after ∧
      (after.server which).statics.bindings =
        StaticCalls.perform (it.server which).statics.bindings call := by
  rw [StaticCalls.perform_eq]
  cases edited : call.apply (it.server which) with
  | error reason =>
      have fails : manager.editStatics name family (fun server => call.apply server) =
          .error reason := by
        unfold Manager.editStatics
        rw [Manager.iface_eq_ok_iff.mpr found, chosen]
        change (call.apply (it.server which) >>= _) = _
        rw [edited]
        rfl
      rw [fails]
      exact ⟨it, found, rfl⟩
  | ok after =>
      have succeeds : manager.editStatics name family (fun server => call.apply server) =
          .ok (manager.put name (it.withServer which after)).markDirty :=
        Manager.editStatics_eq_ok_iff.mpr ⟨it, which, after, found, chosen, edited, rfl⟩
      rw [succeeds]
      refine ⟨it.withServer which after, ?_, ?_⟩
      · exact (manager.lookup_put name name _).trans (if_pos rfl)
      · rw [Served.server_withServer, if_pos rfl]
        rfl

theorem harmless_withFamily {next : Int → Response × Manager}
    (harmless : ∀ family, Harmless manager (next family)) :
    Harmless manager (withFamily manager values next) := by
  unfold withFamily
  cases familyOf values with
  | error reason => exact harmless_kept _
  | ok family => exact harmless family

theorem harmless_decoded {Value : Type} (read : Except String Value)
    {next : Value → Response × Manager} (harmless : ∀ value, Harmless manager (next value)) :
    Harmless manager (decoded manager read next) := by
  unfold decoded
  cases read with
  | error reason => exact harmless_kept _
  | ok value => exact harmless value

theorem harmless_serve (handler : Handler) :
    Harmless manager (handler.serve api manager moment values body) := by
  cases handler with
  | status => exact harmless_kept _
  | leases =>
      apply harmless_withFamily
      intro family
      cases managerLeases manager moment (pathValue values "iface") family with
      | error reason => exact harmless_kept _
      | ok leases => exact harmless_kept _
  | replaceStatics =>
      apply harmless_withFamily
      intro family
      apply harmless_decoded
      intro statics
      exact harmless_conclude _ _
  | putStatic =>
      apply harmless_withFamily
      intro family
      apply harmless_decoded
      intro binding
      exact harmless_conclude _ _
  | deleteStatic =>
      apply harmless_withFamily
      intro family
      exact harmless_conclude _ _
  | deleteLease =>
      change Harmless manager (handleDeleteLease api manager values)
      unfold handleDeleteLease
      cases api.lib.parseAddr (pathValue values "ip") with
      | none => exact harmless_kept _
      | some ip => exact harmless_conclude _ _
  | pdRenew => exact harmless_conclude _ _
  | pdRelease => exact harmless_conclude _ _

theorem harmless_serveHTTP (request : Request) :
    Harmless manager (serveHTTP api manager moment request) := by
  unfold serveHTTP
  split
  · unfold serveMux
    cases request.target with
    | none => exact harmless_kept _
    | some segments =>
        dsimp only
        split
        · exact harmless_serve _
        · split
          · exact harmless_kept _
          · exact harmless_kept _
  · exact harmless_kept _

end Harmless

/-! ### Runs -/

inductive Event where
  | request (moment : Moment) (request : Request)
  /-- Something else that the daemon does. -/
  | operation (operation : Operation)

section Runs

variable (api : ApiServer) (lib4 : Library4) (lib6 : Library6)

def advance (manager : Manager) : Event → Manager
  | .request moment request => (serveHTTP api manager moment request).2
  | .operation operation => manager.step lib4 lib6 operation

def respond (manager : Manager) : Event → List Response
  | .request moment request => [(serveHTTP api manager moment request).1]
  | .operation _ => []

def responses (manager : Manager) : List Event → List Response
  | [] => []
  | event :: rest =>
      respond api manager event ++ responses (advance api lib4 lib6 manager event) rest

def fails (manager : Manager) (event : Event) : Bool :=
  (respond api manager event).any Response.failed

def withoutFailures (manager : Manager) : List Event → List Event
  | [] => []
  | event :: rest =>
      let later := withoutFailures (advance api lib4 lib6 manager event) rest
      if fails api manager event then later else event :: later

variable {api lib4 lib6}

theorem advance_of_fails {manager : Manager} {event : Event} (failed : fails api manager event = true) :
    advance api lib4 lib6 manager event = manager := by
  cases event with
  | operation operation => cases failed
  | request moment request =>
      apply harmless_serveHTTP request
      simpa [fails, respond] using failed

theorem respond_of_succeeds {manager : Manager} {event : Event}
    (succeeded : fails api manager event = false) :
    (respond api manager event).filter (fun response => !response.failed) =
      respond api manager event := by
  rw [List.filter_eq_self]
  intro response member
  have each := List.any_eq_false.mp succeeded response member
  simpa using each

theorem respond_of_fails {manager : Manager} {event : Event}
    (failed : fails api manager event = true) :
    (respond api manager event).filter (fun response => !response.failed) = [] := by
  cases event with
  | operation operation => cases failed
  | request moment request => simpa [fails, respond] using failed

/-- In every run, requests that are answered with an error may be left out: the manager
ends the same and all other responses are the same. -/
theorem failures_drop_out (api : ApiServer) (lib4 : Library4) (lib6 : Library6) (manager : Manager)
    (events : List Event) :
    let kept := withoutFailures api lib4 lib6 manager events
    run (advance api lib4 lib6) manager kept = run (advance api lib4 lib6) manager events ∧
    responses api lib4 lib6 manager kept =
      (responses api lib4 lib6 manager events).filter (fun response => !response.failed) := by
  induction events generalizing manager with
  | nil => exact ⟨rfl, rfl⟩
  | cons event rest ih =>
      obtain ⟨ends, answers⟩ := ih (advance api lib4 lib6 manager event)
      dsimp only at ends answers ⊢
      unfold withoutFailures
      cases failed : fails api manager event with
      | true =>
          have same : advance api lib4 lib6 manager event = manager := advance_of_fails failed
          rw [same] at ends answers
          simp only [same, if_true]
          constructor
          · rw [run_cons, same]
            exact ends
          · rw [answers, responses, List.filter_append, respond_of_fails failed, same,
              List.nil_append]
      | false =>
          simp only [Bool.false_eq_true, if_false]
          constructor
          · rw [run_cons, run_cons]
            exact ends
          · rw [responses, responses, List.filter_append, respond_of_succeeds failed, answers]

end Runs

/-! ### The status -/

section Status

theorem insertionSort_congr {Item : Type} {before : Item → Item → Prop} [DecidableRel before]
    [Std.Total before] [IsTrans Item before] {first second : List Item} (same : first.Perm second)
    (distinct : ∀ one ∈ first, ∀ two ∈ first, before one two → before two one → one = two) :
    first.insertionSort before = second.insertionSort before := by
  have firstSorted := List.pairwise_insertionSort before first
  have secondSorted := List.pairwise_insertionSort before second
  have perm := ((List.perm_insertionSort before first).trans same).trans
    (List.perm_insertionSort before second).symm
  apply List.Perm.eq_of_pairwise _ firstSorted secondSorted perm
  intro one two inFirst inSecond early late
  have oneListed := (List.perm_insertionSort before first).mem_iff.mp inFirst
  have twoListed := same.mem_iff.mpr ((List.perm_insertionSort before second).mem_iff.mp inSecond)
  exact distinct one oneListed two twoListed early late

instance total_byID : Std.Total byID where
  total left right := by
    unfold byID
    rcases le_total left.id right.id with early | late
    · exact Or.inl (not_lt.mpr early)
    · exact Or.inr (not_lt.mpr late)

instance trans_byID : IsTrans StaticBinding byID where
  trans first second third := by
    unfold byID
    intro one two
    exact not_lt.mpr (le_trans (not_lt.mp one) (not_lt.mp two))

theorem sortStatics_congr {left right : AddressServer}
    (same : ∀ id, right.statics.bindings.lookup id = left.statics.bindings.lookup id)
    (first second : RangeOrders) :
    sortStatics (left.listStatic first) = sortStatics (right.listStatic second) := by
  apply insertionSort_congr
  · apply (List.perm_ext_iff_of_nodup _ _).mpr
    · intro binding
      rw [mem_listStatic_iff, mem_listStatic_iff, same]
    · exact (acceptable_listStatic left first).distinct.of_map
    · exact (acceptable_listStatic right second).distinct.of_map
  · intro one oneListed two twoListed early late
    have ids : one.id = two.id := le_antisymm (not_lt.mp early) (not_lt.mp late)
    rw [mem_listStatic_iff] at oneListed twoListed
    rw [ids, twoListed] at oneListed
    exact (Option.some.inj oneListed).symm

theorem snapshot_congr {left right : LeaseTable} {now : Int}
    (agree : LeaseTable.AgreeAt now left right) (first second : RangeOrder Lease) :
    left.snapshot first now = right.snapshot second now := by
  have perm : (left.snapshot first now).Perm (right.snapshot second now) := by
    apply (List.perm_ext_iff_of_nodup (left.nodup_snapshot first now)
      (right.nodup_snapshot second now)).mpr
    intro lease
    rw [LeaseTable.mem_snapshot_iff, LeaseTable.mem_snapshot_iff]
    constructor
    · intro listed
      exact ⟨(agree lease.ip lease listed.2).mp listed.1, listed.2⟩
    · intro listed
      exact ⟨(agree lease.ip lease listed.2).mpr listed.1, listed.2⟩
  apply List.Perm.eq_of_pairwise _ (List.pairwise_insertionSort _ _)
    (List.pairwise_insertionSort _ _) perm
  intro one two inFirst inSecond early late
  have ips := LeaseTable.ip_eq_of_sorted early late
  have oneHeld := (left.mem_snapshot_iff first now one).mp inFirst
  have twoHeld := (left.mem_snapshot_iff first now two).mp (perm.mem_iff.mpr inSecond)
  rw [ips, twoHeld.1] at oneHeld
  exact (Option.some.inj oneHeld.1).symm

def IfaceStatus.listing (status : IfaceStatus) :
    String × (List Lease × List Lease) × (List StaticBinding × List StaticBinding) :=
  (status.name, (status.leases4, status.leases6), (status.statics4, status.statics6))

theorem listing_congr {left right : Served} {first second : Moment} (time : first.now = second.now)
    (kept : KeptAcross first.now left right) (name : String) :
    (statusOf first name left).listing = (statusOf second name right).listing := by
  have four := snapshot_congr (kept.leases .four) (first.orders name .four).leases
    (second.orders name .four).leases
  have six := snapshot_congr (kept.leases .six) (first.orders name .six).leases
    (second.orders name .six).leases
  have statics4 := sortStatics_congr (kept.statics .four) (first.orders name .four)
    (second.orders name .four)
  have statics6 := sortStatics_congr (kept.statics .six) (first.orders name .six)
    (second.orders name .six)
  unfold IfaceStatus.listing statusOf AddressServer.activeLeases
  rw [← time]
  exact congrArg (Prod.mk name) (congr (congrArg Prod.mk (congr (congrArg Prod.mk four) six))
    (congr (congrArg Prod.mk statics4) statics6))

/-- The leases and static bindings in the status are the same for every order of
iteration over the maps, and for every manager that holds the same: so is the status
after a restart that keeps what the interfaces held. -/
theorem status_shows_contents (order : List String) (left right : Manager) (first second : Moment)
    (time : first.now = second.now)
    (kept : ∀ name, Option.Rel (KeptAcross first.now) (left.ifaces.lookup name)
      (right.ifaces.lookup name)) :
    (managerStatus order left first).map IfaceStatus.listing =
      (managerStatus order right second).map IfaceStatus.listing := by
  unfold managerStatus
  rw [List.map_filterMap, List.map_filterMap]
  apply List.filterMap_congr
  intro name _
  have related := kept name
  cases found : left.ifaces.lookup name with
  | none =>
      rw [found] at related
      cases other : right.ifaces.lookup name with
      | none => rfl
      | some it =>
          rw [other] at related
          cases related
  | some it =>
      rw [found] at related
      cases other : right.ifaces.lookup name with
      | none =>
          rw [other] at related
          cases related
      | some restarted =>
          rw [other] at related
          cases related with
          | some held => exact congrArg some (listing_congr time held name)

theorem keptAcross_refl (now : Int) (it : Served) : KeptAcross now it it :=
  ⟨fun _ _ => rfl, fun _ _ _ _ => Iff.rfl, fun _ held _ => held⟩

def momentWith (now : Int) (orders : RangeOrders) : Moment where
  now := now
  orders _ _ := orders

theorem status_shows_contents_reversed :
    let manager := Config.stopAfter [.putStatic "br0" 4 Config.scanner]
    ((managerStatus ["br0"] manager (momentWith 0 storedOrders)).map
      (fun status => status.statics4.map StaticBinding.id)) = [["printer", "scanner"]] ∧
    (managerStatus ["br0"] manager (momentWith 0 storedOrders)).map IfaceStatus.listing =
      (managerStatus ["br0"] manager
        (momentWith 0 ⟨RangeOrder.reversed, RangeOrder.reversed⟩)).map IfaceStatus.listing := by
  refine ⟨by decide +kernel, ?_⟩
  refine status_shows_contents ["br0"] _ _ (momentWith 0 storedOrders)
    (momentWith 0 ⟨RangeOrder.reversed, RangeOrder.reversed⟩) rfl ?_
  intro name
  cases (Config.stopAfter [.putStatic "br0" 4 Config.scanner]).ifaces.lookup name with
  | none => exact .none
  | some it => exact .some (keptAcross_refl 0 it)

end Status

end BridgeDhcp.Api
