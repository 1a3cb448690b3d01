/-
The control API: requests, the mux and the handlers.

A request is checked for the key, routed by its method and path, and answered by a
handler that makes one call of the manager.  A path is given by its segments, as the
mux matches them; one that is not clean is redirected.
-/

import BridgeDhcp.Server.LeaseExpiry
import BridgeDhcp.Server.Manager
import BridgeDhcp.StepRun

set_option autoImplicit false

namespace BridgeDhcp.Api

open GoMap GoError Netip Server StepRun

/-! ### Requests and responses -/

inductive Method where
  | get
  | head
  | put
  | post
  | delete
  | other (name : String)
  deriving DecidableEq, Repr

structure Request where
  method : Method
  /-- The unescaped segments of the path; absent if the path is not clean. -/
  target : Option (List String)
  /-- The header `Authorization`, empty without one. -/
  authorization : String
  body : List UInt8

/-- The part of `IfaceStatus` that comes from the servers and the PD client. -/
structure IfaceStatus where
  name : String
  dhcp4 : Bool
  dhcp6 : Bool
  pdState : Option Pd.ClientState
  pdPrefix : Option Prefix
  leases4 : List Lease
  leases6 : List Lease
  statics4 : List StaticBinding
  statics6 : List StaticBinding

inductive Reply where
  | error (message : String)
  | ok
  | leases (leases : List Lease)
  | status (ifaces : List IfaceStatus)
  /-- The texts of the mux itself. -/
  | plain

structure Response where
  code : Nat
  reply : Reply

def Response.failed (response : Response) : Bool := decide (400 ≤ response.code)

def httpError (code : Nat) (message : String) : Response := ⟨code, .error message⟩

def writeJSON (reply : Reply) : Response := ⟨200, reply⟩

structure Library where
  showAddr : Addr → String
  parseAddr : String → Option Addr
  decodeStatics : List UInt8 → Except String (List StaticBinding)
  decodeBinding : List UInt8 → Except String StaticBinding

/-- What a handler reads besides the request: the clock, and the order of each
iteration over a map. -/
structure Moment where
  now : Int
  orders : String → Family → RangeOrders

structure ApiServer where
  lib : Library
  key : String
  order : List String

/-! ### Reading the manager -/

def byID (left right : StaticBinding) : Prop := ¬ right.id < left.id

instance decidableByID : DecidableRel byID :=
  fun left right => inferInstanceAs (Decidable (¬ right.id < left.id))

def sortStatics (bindings : List StaticBinding) : List StaticBinding :=
  bindings.insertionSort byID

def managerLeases (manager : Manager) (moment : Moment) (name : String)
    (family : Int) : Except String (List Lease) := do
  let it ← manager.iface name
  let which ← Manager.familyOf family
  .ok ((it.server which).activeLeases (moment.orders name which) moment.now)

def statusOf (moment : Moment) (name : String) (it : Served) : IfaceStatus where
  name := name
  dhcp4 := it.d4.cfg.enabled
  dhcp6 := it.d6.cfg.enabled
  pdState := it.pdc.map (fun world => world.client.state)
  pdPrefix := it.binding.map (fun binding => binding.net)
  leases4 := it.d4.activeLeases (moment.orders name .four) moment.now
  leases6 := it.d6.activeLeases (moment.orders name .six) moment.now
  statics4 := sortStatics (it.d4.listStatic (moment.orders name .four))
  statics6 := sortStatics (it.d6.listStatic (moment.orders name .six))

def managerStatus (order : List String) (manager : Manager) (moment : Moment) : List IfaceStatus :=
  order.filterMap (fun name => (manager.ifaces.lookup name).map (statusOf moment name))

/-! ### Handlers -/

inductive Handler where
  | status
  | leases
  | replaceStatics
  | putStatic
  | deleteStatic
  | deleteLease
  | pdRenew
  | pdRelease
  deriving DecidableEq, Repr

abbrev PathValues := List (String × String)

def pathValue (values : PathValues) (name : String) : String :=
  (values.lookup name).getD ""

def familyOf (values : PathValues) : Except String Int :=
  if pathValue values "family" = "4" then .ok 4
  else if pathValue values "family" = "6" then .ok 6
  else .error "family must be 4 or 6"

def conclude (manager : Manager) (code : Nat) :
    Except String Manager → Response × Manager
  | .error reason => (httpError code reason, manager)
  | .ok after => (writeJSON .ok, after)

/-- A request without a family is answered before anything else is looked at. -/
def withFamily (manager : Manager) (values : PathValues) (next : Int → Response × Manager) :
    Response × Manager :=
  match familyOf values with
  | .error reason => (httpError 400 reason, manager)
  | .ok family => next family

def decoded {Value : Type} (manager : Manager) (body : Except String Value)
    (next : Value → Response × Manager) : Response × Manager :=
  match body with
  | .error reason => (httpError 400 reason, manager)
  | .ok value => next value

section Handlers

variable (api : ApiServer) (manager : Manager) (moment : Moment) (values : PathValues)
  (body : List UInt8)

def handleStatus : Response × Manager :=
  (writeJSON (.status (managerStatus api.order manager moment)), manager)

def handleLeases : Response × Manager :=
  withFamily manager values (fun family =>
    match managerLeases manager moment (pathValue values "iface") family with
    | .error reason => (httpError 404 reason, manager)
    | .ok leases => (writeJSON (.leases leases), manager))

def handleReplaceStatics : Response × Manager :=
  withFamily manager values (fun family =>
    decoded manager (api.lib.decodeStatics body) (fun statics =>
      conclude manager 400 (manager.replaceStatics (pathValue values "iface") family statics)))

def handlePutStatic : Response × Manager :=
  withFamily manager values (fun family =>
    decoded manager (api.lib.decodeBinding body) (fun binding =>
      conclude manager 400 (manager.putStatic (pathValue values "iface") family binding)))

def handleDeleteStatic : Response × Manager :=
  withFamily manager values (fun family =>
    conclude manager 404
      (manager.deleteStatic (pathValue values "iface") family (pathValue values "id")))

def handlePDRenew : Response × Manager :=
  conclude manager 404 (manager.renewPD (pathValue values "iface"))

def handlePDRelease : Response × Manager :=
  conclude manager 404 (manager.releasePD (pathValue values "iface"))

def leaseError : String ⊕ Addr → String
  | .inl reason => reason
  | .inr ip =>
      let shown := api.lib.showAddr ip
      s!"lease {shown} not found"

def handleDeleteLease : Response × Manager :=
  match api.lib.parseAddr (pathValue values "ip") with
  | none => (httpError 400 "bad ip", manager)
  | some ip =>
      conclude manager 404
        ((manager.deleteLease (pathValue values "iface") ip).mapError (leaseError api))

def Handler.serve : Handler → Response × Manager
  | .status => handleStatus api manager moment
  | .leases => handleLeases manager moment values
  | .replaceStatics => handleReplaceStatics api manager values body
  | .putStatic => handlePutStatic api manager values body
  | .deleteStatic => handleDeleteStatic manager values
  | .deleteLease => handleDeleteLease api manager values
  | .pdRenew => handlePDRenew manager values
  | .pdRelease => handlePDRelease manager values

end Handlers

/-! ### The mux -/

inductive Part where
  | word (text : String)
  | hole (name : String)
  deriving DecidableEq, Repr

structure Pattern where
  method : Method
  parts : List Part
  handler : Handler

/-- A wildcard does not match an empty segment. -/
def capture : List Part → List String → Option PathValues
  | [], [] => some []
  | .word text :: parts, segment :: rest => if segment = text then capture parts rest else none
  | .hole name :: parts, segment :: rest =>
      if segment = "" then none else (capture parts rest).map ((name, segment) :: ·)
  | _, _ => none

/-- A pattern for GET takes HEAD as well. -/
def Method.admits (pattern method : Method) : Bool :=
  pattern == method || (pattern == .get && method == .head)

def underIface (rest : List Part) : List Part :=
  .word "v1" :: .word "ifaces" :: .hole "iface" :: rest

def patterns : List Pattern :=
  [⟨.get, [.word "v1", .word "status"], .status⟩,
    ⟨.get, underIface [.word "leases", .hole "family"], .leases⟩,
    ⟨.put, underIface [.word "statics", .hole "family"], .replaceStatics⟩,
    ⟨.post, underIface [.word "statics", .hole "family"], .putStatic⟩,
    ⟨.delete, underIface [.word "statics", .hole "family", .hole "id"], .deleteStatic⟩,
    ⟨.delete, underIface [.word "leases", .hole "ip"], .deleteLease⟩,
    ⟨.post, underIface [.word "pd", .word "renew"], .pdRenew⟩,
    ⟨.post, underIface [.word "pd", .word "release"], .pdRelease⟩]

def Pattern.matches (method : Method) (segments : List String) (pattern : Pattern) :
    Option (Handler × PathValues) :=
  if pattern.method.admits method then
    (capture pattern.parts segments).map (fun values => (pattern.handler, values))
  else none

def route (method : Method) (segments : List String) : Option (Handler × PathValues) :=
  patterns.findSome? (Pattern.matches method segments)

def serveMux (api : ApiServer) (manager : Manager) (moment : Moment) (request : Request) :
    Response × Manager :=
  match request.target with
  | none => (⟨301, .plain⟩, manager)
  | some segments =>
      match route request.method segments with
      | some (handler, values) => handler.serve api manager moment values request.body
      | none =>
          if patterns.any (fun pattern => (capture pattern.parts segments).isSome) then
            (⟨405, .plain⟩, manager)
          else (⟨404, .plain⟩, manager)

/-! ### The key -/

def trimPrefix (text lead : List Char) : List Char :=
  if lead.isPrefixOf text then text.drop lead.length else text

def bearer : List Char := "Bearer ".toList

def authorized (api : ApiServer) (authorization : String) : Bool :=
  trimPrefix authorization.toList bearer == api.key.toList

def serveHTTP (api : ApiServer) (manager : Manager) (moment : Moment) (request : Request) :
    Response × Manager :=
  if authorized api request.authorization then serveMux api manager moment request
  else (httpError 401 "invalid api key", manager)

end BridgeDhcp.Api
