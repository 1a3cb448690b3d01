/-
The command line client of the control API.

`bridgedhcp ctl` turns its arguments into a request: it pastes them into a path, which
is parsed, cleaned and matched on the other side.
-/

import BridgeDhcp.Api.Effects

set_option autoImplicit false

namespace BridgeDhcp.Api

open GoMap GoError GoText Netip Server

/-! ### The client -/

inductive Target where
  | clean (segments : List String)
  /-- The path is redirected to its cleaned form. -/
  | redirected (segments : List String)

structure Http where
  /-- Absent if the URL is refused. -/
  target : String → Option Target
  /-- Somebody listens on the socket. -/
  listening : String → Bool

structure CtlHost where
  readFile : String → Except String String

structure CtlOptions where
  socket : String
  key : String
  keyFile : String

def apiKeyOf (host : CtlHost) (options : CtlOptions) : Except String String :=
  if options.key = "" ∧ options.keyFile ≠ "" then
    (host.readFile options.keyFile).map trimSpace
  else .ok options.key

structure Command where
  method : Method
  path : String
  /-- The standard input is the body. -/
  sendsInput : Bool

def commandOf (rest : List String) : Option Command :=
  match rest with
  | [cmd] => if cmd = "status" then some ⟨.get, "/v1/status", false⟩ else none
  | [cmd, iface] =>
      if cmd = "pd-renew" then some ⟨.post, "/v1/ifaces/" ++ iface ++ "/pd/renew", false⟩
      else if cmd = "pd-release" then some ⟨.post, "/v1/ifaces/" ++ iface ++ "/pd/release", false⟩
      else none
  | [cmd, iface, last] =>
      if cmd = "leases" then some ⟨.get, "/v1/ifaces/" ++ iface ++ "/leases/" ++ last, false⟩
      else if cmd = "statics-replace" then
        some ⟨.put, "/v1/ifaces/" ++ iface ++ "/statics/" ++ last, true⟩
      else if cmd = "static-put" then
        some ⟨.post, "/v1/ifaces/" ++ iface ++ "/statics/" ++ last, true⟩
      else if cmd = "lease-del" then
        some ⟨.delete, "/v1/ifaces/" ++ iface ++ "/leases/" ++ last, false⟩
      else none
  | [cmd, iface, family, id] =>
      if cmd = "static-del" then
        some ⟨.delete, "/v1/ifaces/" ++ iface ++ "/statics/" ++ family ++ "/" ++ id, false⟩
      else none
  | _ => none

/-! ### The header -/

def isBlank (char : Char) : Bool := char == ' ' || char == '\t'

/-- Control characters other than tabs. -/
def refusedInHeader (char : Char) : Bool :=
  (char.toNat < 0x20 || char.toNat == 0x7f) && !isBlank char

/-- How the value of a header arrives: the client refuses some characters, and blanks at
both ends are lost. -/
def headerValue (value : String) : Option String :=
  if value.toList.any refusedInHeader then none
  else some (String.ofList ((value.toList.dropWhile isBlank).rdropWhile isBlank))

/-- The key is not empty, does not end in a blank and has no refused characters. -/
def carriedKey (key : String) : Bool :=
  !key.toList.any refusedInHeader && key.toList.getLast?.any (fun last => !isBlank last)

theorem headerValue_bearer {key : String} (carried : carriedKey key = true) :
    headerValue ("Bearer " ++ key) = some ("Bearer " ++ key) := by
  obtain ⟨accepted, ends⟩ := Bool.and_eq_true_iff.mp carried
  rw [Bool.not_eq_true'] at accepted
  have chars : ("Bearer " ++ key).toList = bearer ++ key.toList := String.toList_append
  have kept : ¬ (bearer ++ key.toList).any refusedInHeader = true := by
    rw [List.any_append, accepted, Bool.or_false]
    decide
  have begins : (bearer ++ key.toList).dropWhile isBlank = bearer ++ key.toList :=
    List.dropWhile_cons_of_neg (by decide)
  have closes : (bearer ++ key.toList).rdropWhile isBlank = bearer ++ key.toList := by
    rw [List.rdropWhile_eq_self_iff]
    intro nonempty blank
    cases found : key.toList.getLast? with
    | none =>
        rw [found] at ends
        cases ends
    | some last =>
        have same : (bearer ++ key.toList).getLast? = some last := by
          rw [List.getLast?_append, found]
          rfl
        rw [List.getLast?_eq_some_getLast nonempty] at same
        rw [Option.some.inj same] at blank
        rw [found, Option.any_some, blank] at ends
        cases ends
  unfold headerValue
  rw [chars, if_neg kept, begins, closes, ← chars, String.ofList_toList]

section Client

variable (http : Http) (api : ApiServer) (manager : Manager) (moment : Moment)

/-- `client.Do`: a redirect is followed with GET. -/
def exchange (command : Command) (target : Target) (authorization : String) (body : List UInt8) :
    Response × Manager :=
  match target with
  | .clean segments => serveHTTP api manager moment ⟨command.method, some segments, authorization, body⟩
  | .redirected segments =>
      let first := serveHTTP api manager moment ⟨command.method, none, authorization, body⟩
      if first.1.code = 301 then
        serveHTTP api first.2 moment ⟨.get, some segments, authorization, []⟩
      else first

/-- The closure `do`: the exit status and the manager afterwards. -/
def doRequest (socket key : String) (command : Command) (input : List UInt8) : Nat × Manager :=
  match http.target command.path, headerValue ("Bearer " ++ key) with
  | some target, some authorization =>
      if http.listening socket then
        let answered := exchange api manager moment command target authorization
          (if command.sendsInput then input else [])
        (if answered.1.failed then 1 else 0, answered.2)
      else (1, manager)
  | _, _ => (1, manager)

def runCtl (host : CtlHost) (options : CtlOptions) (rest : List String) (input : List UInt8) :
    Nat × Manager :=
  if options.socket = "" ∨ rest = [] then (2, manager)
  else
    match apiKeyOf host options with
    | .error _ => (1, manager)
    | .ok key =>
        match commandOf rest with
        | none => (2, manager)
        | some command => doRequest http api manager moment options.socket key command input

end Client

/-! ### What the commands stand for -/

inductive CtlCall where
  | status
  | leases (iface family : String)
  | staticsReplace (iface family : String)
  | staticPut (iface family : String)
  | staticDel (iface family id : String)
  | leaseDel (iface ip : String)
  | pdRenew (iface : String)
  | pdRelease (iface : String)

def CtlCall.arguments : CtlCall → List String
  | .status => []
  | .leases iface family => [iface, family]
  | .staticsReplace iface family => [iface, family]
  | .staticPut iface family => [iface, family]
  | .staticDel iface family id => [iface, family, id]
  | .leaseDel iface ip => [iface, ip]
  | .pdRenew iface => [iface]
  | .pdRelease iface => [iface]

def CtlCall.word : CtlCall → String
  | .status => "status"
  | .leases _ _ => "leases"
  | .staticsReplace _ _ => "statics-replace"
  | .staticPut _ _ => "static-put"
  | .staticDel _ _ _ => "static-del"
  | .leaseDel _ _ => "lease-del"
  | .pdRenew _ => "pd-renew"
  | .pdRelease _ => "pd-release"

def parseFamily (text : String) : Except String Int :=
  if text = "4" then .ok 4
  else if text = "6" then .ok 6
  else .error "family must be 4 or 6"

def CtlCall.perform (api : ApiServer) (manager : Manager) (moment : Moment) (input : List UInt8) :
    CtlCall → Except String Manager
  | .status => .ok manager
  | .leases iface family => do
      let family ← parseFamily family
      let _ ← managerLeases manager moment iface family
      .ok manager
  | .staticsReplace iface family => do
      let family ← parseFamily family
      let statics ← api.lib.decodeStatics input
      manager.replaceStatics iface family statics
  | .staticPut iface family => do
      let family ← parseFamily family
      let binding ← api.lib.decodeBinding input
      manager.putStatic iface family binding
  | .staticDel iface family id => do
      let family ← parseFamily family
      manager.deleteStatic iface family id
  | .leaseDel iface ip =>
      match api.lib.parseAddr ip with
      | none => .error "bad ip"
      | some ip => (manager.deleteLease iface ip).mapError (leaseError api)
  | .pdRenew iface => manager.renewPD iface
  | .pdRelease iface => manager.releasePD iface

def exitOf (manager : Manager) : Except String Manager → Nat × Manager
  | .ok after => (0, after)
  | .error _ => (1, manager)

/-! ### Paths -/

/-- The characters that a path of a URL carries as they are. -/
def carriedChar (char : Char) : Bool :=
  char.isAlphanum || "-._~$&+,:;=@!'()*[]".toList.contains char

/-- An argument that arrives as one segment: not empty, not cleaned away, and of
characters that are carried as they are. -/
def plainSegment (segment : String) : Bool :=
  segment != "" && segment != "." && segment != ".." && segment.toList.all carriedChar

def pathOf : List String → String
  | [] => ""
  | segment :: rest => "/" ++ segment ++ pathOf rest

def Http.Documented (http : Http) : Prop :=
  ∀ segments, segments ≠ [] → segments.all plainSegment = true →
    http.target (pathOf segments) = some (.clean segments)

def CtlCall.method : CtlCall → Method
  | .status => .get
  | .leases _ _ => .get
  | .staticsReplace _ _ => .put
  | .staticPut _ _ => .post
  | .staticDel _ _ _ => .delete
  | .leaseDel _ _ => .delete
  | .pdRenew _ => .post
  | .pdRelease _ => .post

def CtlCall.segments : CtlCall → List String
  | .status => ["v1", "status"]
  | .leases iface family => ["v1", "ifaces", iface, "leases", family]
  | .staticsReplace iface family => ["v1", "ifaces", iface, "statics", family]
  | .staticPut iface family => ["v1", "ifaces", iface, "statics", family]
  | .staticDel iface family id => ["v1", "ifaces", iface, "statics", family, id]
  | .leaseDel iface ip => ["v1", "ifaces", iface, "leases", ip]
  | .pdRenew iface => ["v1", "ifaces", iface, "pd", "renew"]
  | .pdRelease iface => ["v1", "ifaces", iface, "pd", "release"]

def CtlCall.sendsInput : CtlCall → Bool
  | .staticsReplace _ _ => true
  | .staticPut _ _ => true
  | _ => false

def CtlCall.handler : CtlCall → Handler
  | .status => .status
  | .leases _ _ => .leases
  | .staticsReplace _ _ => .replaceStatics
  | .staticPut _ _ => .putStatic
  | .staticDel _ _ _ => .deleteStatic
  | .leaseDel _ _ => .deleteLease
  | .pdRenew _ => .pdRenew
  | .pdRelease _ => .pdRelease

def CtlCall.values : CtlCall → PathValues
  | .status => []
  | .leases iface family => [("iface", iface), ("family", family)]
  | .staticsReplace iface family => [("iface", iface), ("family", family)]
  | .staticPut iface family => [("iface", iface), ("family", family)]
  | .staticDel iface family id => [("iface", iface), ("family", family), ("id", id)]
  | .leaseDel iface ip => [("iface", iface), ("ip", ip)]
  | .pdRenew iface => [("iface", iface)]
  | .pdRelease iface => [("iface", iface)]

theorem commandOf_call (call : CtlCall) :
    commandOf (call.word :: call.arguments) =
      some ⟨call.method, pathOf call.segments, call.sendsInput⟩ := by
  cases call with
  | status => rfl
  | _ =>
      simp only [commandOf, CtlCall.word, CtlCall.arguments, CtlCall.method, CtlCall.segments,
        CtlCall.sendsInput, pathOf, String.reduceEq, if_true, if_false, Option.some.injEq,
        Command.mk.injEq, true_and, and_true]
      apply String.toList_inj.mp
      simp [String.toList_append]

theorem route_call {call : CtlCall} (plain : call.arguments.all plainSegment = true) :
    route call.method call.segments = some (call.handler, call.values) := by
  have nonempty : ∀ argument ∈ call.arguments, argument ≠ "" := by
    intro argument member
    have each := List.all_eq_true.mp plain argument member
    unfold plainSegment at each
    simp only [Bool.and_eq_true, bne_iff_ne] at each
    exact each.1.1.1
  cases call <;>
    simp [CtlCall.arguments] at nonempty <;>
    simp [route, patterns, Pattern.matches, underIface, capture, Method.admits, CtlCall.method,
      CtlCall.segments, CtlCall.handler, CtlCall.values, nonempty]

theorem familyOf_values {iface family : String} (rest : PathValues) :
    familyOf (("iface", iface) :: ("family", family) :: rest) = parseFamily family := by
  have read : pathValue (("iface", iface) :: ("family", family) :: rest) "family" = family := rfl
  unfold familyOf parseFamily
  rw [read]

def exitStatus (answered : Response × Manager) : Nat × Manager :=
  (if answered.1.failed then 1 else 0, answered.2)

theorem exitStatus_conclude (manager : Manager) {code : Nat} (isError : 400 ≤ code)
    (outcome : Except String Manager) :
    exitStatus (conclude manager code outcome) = exitOf manager outcome := by
  cases outcome with
  | ok after => rfl
  | error reason => simp [exitStatus, conclude, httpError, Response.failed, exitOf, isError]

theorem exitStatus_withFamily {manager : Manager} {iface family : String} {rest : PathValues}
    {next : Int → Response × Manager} {call : Int → Except String Manager}
    (each : ∀ which, exitStatus (next which) = exitOf manager (call which)) :
    exitStatus (withFamily manager (("iface", iface) :: ("family", family) :: rest) next) =
      exitOf manager (parseFamily family >>= call) := by
  unfold withFamily
  rw [familyOf_values]
  cases parseFamily family with
  | error reason => rfl
  | ok which => exact each which

theorem exitStatus_decoded {manager : Manager} {Value : Type} (read : Except String Value)
    {next : Value → Response × Manager} {call : Value → Except String Manager}
    (each : ∀ value, exitStatus (next value) = exitOf manager (call value)) :
    exitStatus (decoded manager read next) = exitOf manager (read >>= call) := by
  unfold decoded
  cases read with
  | error reason => rfl
  | ok value => exact each value

theorem serve_call (api : ApiServer) (manager : Manager) (moment : Moment) (input : List UInt8)
    (call : CtlCall) :
    exitStatus (call.handler.serve api manager moment call.values
      (if call.sendsInput then input else [])) =
      exitOf manager (call.perform api manager moment input) := by
  have bad : 400 ≤ 400 := Nat.le_refl 400
  have missing : 400 ≤ 404 := by omega
  cases call with
  | status => rfl
  | leases iface family =>
      apply exitStatus_withFamily
      intro which
      have read : pathValue (CtlCall.leases iface family).values "iface" = iface := rfl
      rw [read]
      cases managerLeases manager moment iface which with
      | error reason => rfl
      | ok leases => rfl
  | staticsReplace iface family =>
      apply exitStatus_withFamily
      intro which
      apply exitStatus_decoded
      intro statics
      exact exitStatus_conclude manager bad _
  | staticPut iface family =>
      apply exitStatus_withFamily
      intro which
      apply exitStatus_decoded
      intro binding
      exact exitStatus_conclude manager bad _
  | staticDel iface family id =>
      apply exitStatus_withFamily
      intro which
      exact exitStatus_conclude manager missing _
  | leaseDel iface ip =>
      have read : pathValue (CtlCall.leaseDel iface ip).values "ip" = ip := rfl
      simp only [CtlCall.handler, Handler.serve, handleDeleteLease, CtlCall.perform, read]
      cases api.lib.parseAddr ip with
      | none => rfl
      | some addr => exact exitStatus_conclude manager missing _
  | pdRenew iface => exact exitStatus_conclude manager missing _
  | pdRelease iface => exact exitStatus_conclude manager missing _

theorem authorized_bearer (api : ApiServer) (key : String) :
    authorized api ("Bearer " ++ key) = decide (key = api.key) := by
  unfold authorized trimPrefix
  rw [String.toList_append]
  change ((if bearer.isPrefixOf (bearer ++ key.toList) then _ else _) == _) = _
  rw [List.isPrefixOf_iff_prefix.mpr (List.prefix_append _ _), if_pos rfl]
  change ((bearer ++ key.toList).drop bearer.length == _) = _
  rw [List.drop_left, Bool.eq_iff_iff, beq_iff_eq, decide_eq_true_iff, String.toList_inj]

theorem plain_segments {call : CtlCall} (plain : call.arguments.all plainSegment = true) :
    call.segments.all plainSegment = true := by
  have words : plainSegment "v1" = true ∧ plainSegment "status" = true ∧
      plainSegment "ifaces" = true ∧ plainSegment "leases" = true ∧
      plainSegment "statics" = true ∧ plainSegment "pd" = true ∧ plainSegment "renew" = true ∧
      plainSegment "release" = true := by decide
  cases call with
  | status => simp [CtlCall.segments, words]
  | _ => simpa [CtlCall.segments, CtlCall.arguments, words] using plain

/-- A command whose arguments and key are carried as they are makes the call of the manager
that it stands for, and exits with 0 exactly if the call succeeds; with a key that is not
the server's it exits with 1 and nothing happens. -/
theorem ctl_makes_the_call (http : Http) (documented : http.Documented) (api : ApiServer)
    (manager : Manager) (moment : Moment) (host : CtlHost) (options : CtlOptions) (key : String)
    (resolved : apiKeyOf host options = .ok key)
    (carried : carriedKey key = true)
    (given : options.socket ≠ "") (listening : http.listening options.socket = true)
    (call : CtlCall) (plain : call.arguments.all plainSegment = true) (input : List UInt8) :
    runCtl http api manager moment host options (call.word :: call.arguments) input =
      if key = api.key then exitOf manager (call.perform api manager moment input)
      else (1, manager) := by
  have arrived : http.target (pathOf call.segments) = some (.clean call.segments) := by
    apply documented
    · cases call <;> simp [CtlCall.segments]
    · exact plain_segments plain
  have nonempty : ¬ (options.socket = "" ∨ call.word :: call.arguments = []) := by simp [given]
  unfold runCtl
  rw [if_neg nonempty, resolved, commandOf_call]
  dsimp only
  unfold doRequest
  rw [arrived, headerValue_bearer carried]
  dsimp only
  rw [if_pos listening]
  change exitStatus (serveHTTP api manager moment _) = _
  unfold serveHTTP
  rw [authorized_bearer]
  by_cases same : key = api.key
  · rw [if_pos (decide_eq_true same), if_pos same]
    unfold serveMux
    dsimp only
    rw [route_call plain]
    exact serve_call api manager moment input call
  · rw [if_neg same, if_neg (by simp [same])]
    rfl

/-! A library for which paths are cut at their slashes. -/

def splitSlash : List Char → List (List Char)
  | [] => [[]]
  | char :: rest =>
      if char = '/' then [] :: splitSlash rest
      else
        match splitSlash rest with
        | [] => [[char]]
        | first :: others => (char :: first) :: others

theorem splitSlash_append {word : List Char} (plain : '/' ∉ word) (rest : List Char) :
    splitSlash (word ++ '/' :: rest) = word :: splitSlash rest := by
  induction word with
  | nil => rfl
  | cons char word ih =>
      have different : char ≠ '/' := fun same => plain (same ▸ List.mem_cons_self)
      have later := ih (fun member => plain (List.mem_cons_of_mem char member))
      rw [List.cons_append, splitSlash, if_neg different, later]

theorem splitSlash_word {word : List Char} (plain : '/' ∉ word) : splitSlash word = [word] := by
  induction word with
  | nil => rfl
  | cons char word ih =>
      have different : char ≠ '/' := fun same => plain (same ▸ List.mem_cons_self)
      rw [splitSlash, if_neg different, ih (fun member => plain (List.mem_cons_of_mem char member))]

def sampleHttp : Http where
  target path := some (.clean ((splitSlash path.toList).tail.map String.ofList))
  listening socket := socket == "/run/bridgedhcp.sock"

theorem slash_not_plain {segment : String} (plain : plainSegment segment = true) :
    '/' ∉ segment.toList := by
  intro member
  have all := (Bool.and_eq_true_iff.mp plain).2
  have unescaped := List.all_eq_true.mp all '/' member
  exact absurd unescaped (by decide)

theorem splitSlash_pathOf {segment : String} {rest : List String}
    (plain : (segment :: rest).all plainSegment = true) :
    (splitSlash (pathOf (segment :: rest)).toList).tail.map String.ofList = segment :: rest := by
  induction rest generalizing segment with
  | nil =>
      have here := slash_not_plain (List.all_eq_true.mp plain segment List.mem_cons_self)
      have path : (pathOf [segment]).toList = '/' :: segment.toList := by
        simp [pathOf, String.toList_append]
      rw [path, splitSlash, if_pos rfl, splitSlash_word here]
      simp
  | cons next rest ih =>
      have here := slash_not_plain (List.all_eq_true.mp plain segment List.mem_cons_self)
      have later : (next :: rest).all plainSegment = true := by
        rw [List.all_cons] at plain
        exact (Bool.and_eq_true_iff.mp plain).2
      have tail := ih later
      have path : (pathOf (segment :: next :: rest)).toList =
          '/' :: (segment.toList ++ '/' :: (next.toList ++ (pathOf rest).toList)) := by
        simp [pathOf, String.toList_append]
      have nextPath : (pathOf (next :: rest)).toList = '/' :: (next.toList ++ (pathOf rest).toList) := by
        simp [pathOf, String.toList_append]
      rw [nextPath, splitSlash, if_pos rfl, List.tail_cons] at tail
      rw [path, splitSlash, if_pos rfl, List.tail_cons, splitSlash_append here, List.map_cons, tail]
      simp

theorem sampleHttp_documented : sampleHttp.Documented := by
  intro segments nonempty plain
  cases segments with
  | nil => exact absurd rfl nonempty
  | cons segment rest => exact congrArg (fun found => some (Target.clean found)) (splitSlash_pathOf plain)

def sampleLeased : Addr := .v6 0x20010db8000000000000000000000005#128

def sampleApi : ApiServer where
  lib :=
    { showAddr := fun _ => "2001:db8::5"
      parseAddr := fun text => if text = "2001:db8::5" then some sampleLeased else none
      decodeStatics := fun _ => .error "EOF"
      decodeBinding := fun _ => .error "EOF" }
  key := "secret"
  order := ["br0"]

def sampleCtlHost : CtlHost where
  readFile _ := .ok "secret\n"

/-- The key is read from a file, and the only static binding is deleted; an IPv6 address
is carried as well, but nobody has a lease there. -/
theorem ctl_makes_the_call_delete :
    let options : CtlOptions := ⟨"/run/bridgedhcp.sock", "", "/etc/bridgedhcp.key"⟩
    let outcome := runCtl sampleHttp sampleApi Config.firstRun (momentWith 0 storedOrders)
      sampleCtlHost options ["static-del", "br0", "4", "printer"] []
    let missed := runCtl sampleHttp sampleApi Config.firstRun (momentWith 0 storedOrders)
      sampleCtlHost options ["lease-del", "br0", "2001:db8::5"] []
    outcome.1 = 0 ∧ Config.staticAt Config.firstRun "br0" .four "printer" = some Config.printer ∧
      Config.staticAt outcome.2 "br0" .four "printer" = none ∧ missed = (1, Config.firstRun) := by
  intro options outcome missed
  have resolved : apiKeyOf sampleCtlHost options = .ok "secret" := by decide +kernel
  have called : outcome = _ :=
    ctl_makes_the_call sampleHttp sampleHttp_documented sampleApi Config.firstRun
      (momentWith 0 storedOrders) sampleCtlHost options "secret" resolved (by decide) (by decide)
      (by decide) (.staticDel "br0" "4" "printer") (by decide) []
  have refused : missed = _ :=
    ctl_makes_the_call sampleHttp sampleHttp_documented sampleApi Config.firstRun
      (momentWith 0 storedOrders) sampleCtlHost options "secret" resolved (by decide) (by decide)
      (by decide) (.leaseDel "br0" "2001:db8::5") (by decide) []
  rw [called, refused]
  exact ⟨by decide +kernel, by decide +kernel, by decide +kernel, by rfl⟩

end BridgeDhcp.Api
