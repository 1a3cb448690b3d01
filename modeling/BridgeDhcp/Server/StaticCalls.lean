/-
The calls that change the static bindings of a server, statement by statement.

Here the bindings are a bare map and a call is a program over it: an error leaves the
map as the statements before it made it.
-/

import BridgeDhcp.Server.StateRoundTrip

set_option autoImplicit false

namespace BridgeDhcp.Server.StaticCalls

open GoMap GoText StepRun

/-! ### The calls -/

abbrev Program := EStateM String (Map String StaticBinding)

def returnError {Result : Type} : Except String Result → Program Result
  | .error reason => throw reason
  | .ok result => pure result

def putStatic (binding : StaticBinding) : Program Unit := do
  if binding.id = "" then throw "static binding needs an id"
  returnError binding.validate
  modify (fun statics => statics.insert binding.id binding)

def buildStaticSetFrom (built : Map String StaticBinding) :
    List StaticBinding → Except String (Map String StaticBinding)
  | [] => .ok built
  | binding :: rest =>
      if binding.id = "" then .error "static binding needs an id"
      else
        let quoted := quote binding.id
        match binding.validate with
        | .error reason => .error s!"binding {quoted}: {reason}"
        | .ok () =>
            if (built.lookup binding.id).isSome then .error s!"duplicate binding id {quoted}"
            else buildStaticSetFrom (built.insert binding.id binding) rest

def replaceStatics (bindings : List StaticBinding) : Program Unit := do
  let built ← returnError (buildStaticSetFrom ∅ bindings)
  set built

def deleteStatic (id : String) : Program Unit := do
  let quoted := quote id
  if ((← get).lookup id).isNone then throw s!"static binding {quoted} not found"
  modify (fun statics => statics.erase id)

inductive Call where
  | putStatic (binding : StaticBinding)
  | replaceStatics (bindings : List StaticBinding)
  | deleteStatic (id : String)

def Call.program : Call → Program Unit
  | .putStatic binding => StaticCalls.putStatic binding
  | .replaceStatics bindings => StaticCalls.replaceStatics bindings
  | .deleteStatic id => StaticCalls.deleteStatic id

def left : EStateM.Result String (Map String StaticBinding) Unit → Map String StaticBinding
  | .ok _ statics => statics
  | .error _ statics => statics

def perform (statics : Map String StaticBinding) (call : Call) : Map String StaticBinding :=
  left (call.program.run statics)

def listStatic (statics : Map String StaticBinding) (order : RangeOrder StaticBinding) :
    List StaticBinding :=
  order.arrange (values statics)

/-! ### The calls on checked sets -/

def Call.apply (server : AddressServer) : Call → Except String AddressServer
  | .putStatic binding => server.putStatic binding
  | .replaceStatics bindings => server.replaceStatics bindings
  | .deleteStatic id => server.deleteStatic id

def outcome (server : AddressServer) :
    Except String AddressServer → EStateM.Result String (Map String StaticBinding) Unit
  | .error reason => .error reason server.statics.bindings
  | .ok after => .ok () after.statics.bindings

theorem putStatic_outcome (server : AddressServer) (binding : StaticBinding) :
    (putStatic binding).run server.statics.bindings =
      outcome server (server.putStatic binding) := by
  unfold AddressServer.putStatic
  split
  · next unnamed =>
      simp only [putStatic, unnamed, if_true]
      rfl
  · next named =>
      split
      · next reason failed =>
          simp only [putStatic, named, if_false, failed]
          rfl
      · next checked =>
          simp only [putStatic, named, if_false, checked]
          rfl

theorem buildStaticSetFrom_bindings (built : StaticSet) (bindings : List StaticBinding) :
    buildStaticSetFrom built.bindings bindings =
      (Server.buildStaticSetFrom built bindings).map StaticSet.bindings := by
  induction bindings generalizing built with
  | nil => rfl
  | cons binding rest ih =>
      rw [Server.buildStaticSetFrom]
      split
      · next unnamed =>
          rw [buildStaticSetFrom, if_pos unnamed]
          rfl
      · next named =>
          dsimp only
          split
          · next reason failed =>
              simp only [buildStaticSetFrom, if_neg named, failed]
              rfl
          · next checked =>
              simp only [buildStaticSetFrom, if_neg named, checked]
              split
              · rfl
              · exact ih (built.assign binding named checked)

theorem run_replaceStatics (bindings : List StaticBinding) (statics : Map String StaticBinding) :
    (replaceStatics bindings).run statics =
      match buildStaticSet bindings with
      | .error reason => .error reason statics
      | .ok set => .ok () set.bindings := by
  have built := buildStaticSetFrom_bindings StaticSet.empty bindings
  change EStateM.run (returnError (buildStaticSetFrom StaticSet.empty.bindings bindings) >>= set)
    statics = _
  rw [built]
  unfold buildStaticSet
  cases Server.buildStaticSetFrom StaticSet.empty bindings with
  | error reason => rfl
  | ok set => rfl

theorem replaceStatics_outcome (server : AddressServer) (bindings : List StaticBinding) :
    (replaceStatics bindings).run server.statics.bindings =
      outcome server (server.replaceStatics bindings) := by
  rw [run_replaceStatics]
  unfold AddressServer.replaceStatics
  cases buildStaticSet bindings with
  | error reason => rfl
  | ok set => rfl

theorem run_deleteStatic (id : String) (statics : Map String StaticBinding) :
    (deleteStatic id).run statics =
      if (statics.lookup id).isNone then
        let quoted := quote id
        .error s!"static binding {quoted} not found" statics
      else .ok () (statics.erase id) := by
  have looked : (deleteStatic id).run statics =
      EStateM.run
        (if (statics.lookup id).isNone then do
          let quoted := quote id
          throw s!"static binding {quoted} not found"
          modify (fun statics => statics.erase id)
        else modify (fun statics => statics.erase id)) statics := rfl
  rw [looked]
  cases (statics.lookup id).isNone with
  | false => rfl
  | true => rfl

theorem deleteStatic_outcome (server : AddressServer) (id : String) :
    (deleteStatic id).run server.statics.bindings = outcome server (server.deleteStatic id) := by
  rw [run_deleteStatic]
  unfold AddressServer.deleteStatic
  cases server.statics.bindings.lookup id with
  | none => rfl
  | some binding => rfl

theorem program_outcome (server : AddressServer) (call : Call) :
    call.program.run server.statics.bindings = outcome server (call.apply server) := by
  cases call with
  | putStatic binding => exact putStatic_outcome server binding
  | replaceStatics bindings => exact replaceStatics_outcome server bindings
  | deleteStatic id => exact deleteStatic_outcome server id

theorem perform_eq (server : AddressServer) (call : Call) :
    perform server.statics.bindings call =
      (keepOnError server (call.apply server)).statics.bindings := by
  unfold perform
  rw [program_outcome]
  cases call.apply server with
  | error reason => rfl
  | ok after => rfl

theorem run_perform_checked (server : AddressServer) (calls : List Call) :
    ∃ reached : AddressServer,
      run perform server.statics.bindings calls = reached.statics.bindings := by
  induction calls generalizing server with
  | nil => exact ⟨server, rfl⟩
  | cons call rest ih =>
      rw [run_cons, perform_eq]
      exact ih _

/-! ### Every sequence of calls -/

section Restorable

variable (reached : AddressServer)

theorem stored_acceptable {id : String} {binding : StaticBinding}
    (found : reached.statics.bindings.lookup id = some binding) :
    binding.id = id ∧ binding.id ≠ "" ∧ (binding.mac ≠ none ∨ binding.clientID ≠ none) ∧
      0 < binding.offset := by
  obtain ⟨own, named, checked⟩ := reached.statics.wellFormed id binding found
  obtain ⟨conditions, positive⟩ := (StaticBinding.validate_eq_ok_iff binding).mp checked
  exact ⟨own, named, conditions, UInt64.pos_iff_ne_zero.mpr positive⟩

theorem failed_unchanged {call : Call} {reason : String} {after : Map String StaticBinding}
    (failed : call.program.run reached.statics.bindings = .error reason after) :
    after = reached.statics.bindings := by
  rw [program_outcome] at failed
  cases result : call.apply reached with
  | error other =>
      rw [result] at failed
      cases failed
      rfl
  | ok changed =>
      rw [result] at failed
      cases failed

theorem exists_restored (order : RangeOrder StaticBinding) (other : Map String StaticBinding) :
    ∃ restored,
      (replaceStatics (listStatic reached.statics.bindings order)).run other = .ok () restored ∧
      ∀ id, restored.lookup id = reached.statics.bindings.lookup id := by
  let orders : RangeOrders := ⟨order, RangeOrder.stored⟩
  obtain ⟨set, built⟩ :=
    (buildStaticSet_isOk_iff _).mpr (acceptable_listStatic reached orders)
  refine ⟨set.bindings, ?_, lookup_of_listStatic built⟩
  change (replaceStatics (reached.listStatic orders)).run other = _
  rw [run_replaceStatics, built]

end Restorable

/-- After every sequence of calls on a server, each binding is stored under its own
non-empty id and has a condition and a positive offset; a call that fails leaves
the map as it was; and what is listed, in any order, is accepted on every server
and gives the same map there. -/
theorem calls_keep_restorable_set (server : AddressServer) (calls : List Call) :
    (∀ id binding, (run perform server.statics.bindings calls).lookup id = some binding →
      binding.id = id ∧ binding.id ≠ "" ∧ (binding.mac ≠ none ∨ binding.clientID ≠ none) ∧
        0 < binding.offset) ∧
    (∀ (call : Call) (reason : String) (after : Map String StaticBinding),
      call.program.run (run perform server.statics.bindings calls) = .error reason after →
        after = run perform server.statics.bindings calls) ∧
    (∀ (order : RangeOrder StaticBinding) (other : Map String StaticBinding),
      ∃ restored,
        (replaceStatics (listStatic (run perform server.statics.bindings calls) order)).run other =
          .ok () restored ∧
        ∀ id, restored.lookup id = (run perform server.statics.bindings calls).lookup id) := by
  obtain ⟨reached, same⟩ := run_perform_checked server calls
  rw [same]
  exact ⟨fun _ _ => stored_acceptable reached, fun _ _ _ => failed_unchanged reached,
    exists_restored reached⟩

end BridgeDhcp.Server.StaticCalls
