/-
The state of the prefix-delegation client and what its goroutine does to it.

The goroutine is a program over the operations below: its critical sections, its
system calls and the select statement of `sleep`.  Other goroutines call the
client's methods between any two operations; a moment carries those calls, the
clock and everything else that the operation's answer depends on.

The trace records what happened, latest first.  It and the list of procedures in
progress are there to be spoken about and are never read by the program.
-/

import BridgeDhcp.InteractionProgram
import BridgeDhcp.Pd.Delegation

set_option autoImplicit false

namespace BridgeDhcp.Pd

open Netip GoTime Packet Interaction

/-! ### State -/

inductive ClientState where
  | stopped
  | resolving
  | soliciting
  | requesting
  | bound
  | renewing
  | rebinding
  | releasing
  deriving DecidableEq, Repr

abbrev Duid := List UInt8

/-- The `Client` record.  `wake` is the token of the one-slot channel and `done`
says that the other channel is closed. -/
structure Client where
  state : ClientState
  binding : Option Binding
  serverDUID : Option Duid
  startedAt : Instant
  releaseReq : Bool
  wake : Bool
  done : Bool
  deriving DecidableEq, Repr

def Client.new : Client where
  state := .stopped
  binding := none
  serverDUID := none
  startedAt := 0
  releaseReq := false
  wake := false
  done := false

/-- A binding read back from disk is kept unless it has expired. -/
def Client.restore (client : Client) (binding : Binding) (now : Instant) : Client :=
  if binding.expiresAt < now then client else { client with binding := some binding }

inductive ApiCall where
  | wakeup
  | renew
  | release
  | stop
  deriving DecidableEq, Repr

/-- A second token does not fit into the channel.  `Release` sets its flag and
leaves a token; the two are one step here. -/
def Client.apply (client : Client) : ApiCall → Client
  | .wakeup => { client with wake := true }
  | .renew => { client with wake := true }
  | .release => { client with releaseReq := true, wake := true }
  | .stop => { client with done := true }

/-! ### Operations -/

structure Query where
  messageType : MessageType6
  transactionID : BitVec 24
  clientID : Duid
  serverID : Option Duid
  elapsed : Duration
  iaid : List UInt8
  hint : Option IPNet
  deriving DecidableEq, Repr

inductive Procedure where
  | applyReply
  | dropPrefix
  | acquireFresh
  deriving DecidableEq, Repr

inductive Site where
  | session
  | bound
  | exchange
  | sleep
  | apply
  deriving DecidableEq, Repr

inductive Op where
  | stopped
  | now (site : Site)
  | select (deadline : Instant)
  | openSocket
  | uplinkReady (site : Site)
  | random
  | write (query : Query)
  | read (deadline : Instant)
  | setState (state : ClientState)
  | markStart
  | takeReleaseReq
  | load
  | hint
  | store (binding : Binding) (server : Option Duid)
  | clear
  | callback (net : Prefix) (ok : Bool)
  | enter (procedure : Procedure)
  | leave (procedure : Procedure)
  deriving DecidableEq, Repr

structure Held where
  binding : Option Binding
  serverDUID : Option Duid

@[reducible]
def Op.Answer : Op → Type
  | .stopped => Bool
  | .now _ => Instant
  | .select _ => Bool
  | .openSocket => Bool
  | .uplinkReady _ => Bool
  | .random => Option (BitVec 24)
  | .write _ => Bool
  | .read _ => Option (Option Answer6)
  | .setState _ => Unit
  | .markStart => Unit
  | .takeReleaseReq => Bool
  | .load => Held
  | .hint => Duration × Option Binding
  | .store _ _ => Option Binding
  | .clear => Option Binding
  | .callback _ _ => Unit
  | .enter _ => Unit
  | .leave _ => Unit

/-! ### The world -/

inductive Event where
  | called (call : ApiCall)
  | wrote (query : Query) (held : Option Binding) (ok : Bool)
  | applied (binding : Binding) (pending : Bool)
  | dropped (binding : Binding)
  | callback (net : Prefix) (ok : Bool)
  | entered (procedure : Procedure) (held : Option Binding)
  deriving DecidableEq, Repr

structure Stamped where
  at_ : Instant
  event : Event
  deriving DecidableEq, Repr

structure World where
  client : Client
  clock : Instant
  running : List Procedure
  trace : List Stamped
  deriving DecidableEq, Repr

def World.start (client : Client) (clock : Instant) : World where
  client := client
  clock := clock
  running := []
  trace := []

inductive Channel where
  | done
  | wake
  | timer
  deriving DecidableEq, Repr

/-- What one operation meets: the methods called just before it, the clock, the
result of a system call, random bytes, a datagram (none if it does not parse as a
message), and the case that a select statement takes. -/
structure Moment where
  calls : List ApiCall
  now : Instant
  ok : Bool
  random : BitVec 24
  received : Option Answer6
  channel : Channel
  deriving DecidableEq, Repr

def World.record (world : World) (event : Event) : World :=
  { world with trace := ⟨world.clock, event⟩ :: world.trace }

def World.call (world : World) (call : ApiCall) : World :=
  { world with client := world.client.apply call }.record (.called call)

def World.advance (world : World) (moment : Moment) : World :=
  moment.calls.foldl World.call { world with clock := moment.now }

/-- A case of a select statement can be taken only when its channel is ready. -/
def World.select (world : World) (deadline : Instant) : Channel → Option (Bool × World)
  | .done => if world.client.done then some (false, world) else none
  | .wake =>
      if world.client.wake then
        some (true, { world with client := { world.client with wake := false } })
      else none
  | .timer => if deadline ≤ world.clock then some (true, world) else none

/-- The critical section of `applyReply`. -/
def World.stored (world : World) (binding : Binding) (server : Option Duid) : World :=
  { world with
    client := { world.client with binding := some binding, serverDUID := server } }.record
      (.applied binding world.client.wake)

/-- The critical section of `dropPrefix`. -/
def World.cleared (world : World) : World :=
  let empty := { world with client := { world.client with binding := none, serverDUID := none } }
  match world.client.binding with
  | none => empty
  | some binding => empty.record (.dropped binding)

def World.entered (world : World) (procedure : Procedure) : World :=
  { world with running := procedure :: world.running }.record
    (.entered procedure world.client.binding)

def World.left (world : World) : World := { world with running := world.running.tail }

def World.answer (world : World) (moment : Moment) : (op : Op) → Option (op.Answer × World)
  | .stopped => some (world.client.done, world)
  | .now _ => some (world.clock, world)
  | .select deadline => world.select deadline moment.channel
  | .openSocket => some (moment.ok, world)
  | .uplinkReady _ => some (moment.ok, world)
  | .random => some (if moment.ok then some moment.random else none, world)
  | .write query => some (moment.ok, world.record (.wrote query world.client.binding moment.ok))
  | .read _ => some (if moment.ok then some moment.received else none, world)
  | .setState state => some ((), { world with client := { world.client with state := state } })
  | .markStart =>
      some ((), { world with client := { world.client with startedAt := world.clock } })
  | .takeReleaseReq =>
      some (world.client.releaseReq,
        { world with client := { world.client with releaseReq := false } })
  | .load => some (⟨world.client.binding, world.client.serverDUID⟩, world)
  | .hint => some ((sub world.clock world.client.startedAt, world.client.binding), world)
  | .store binding server => some (world.client.binding, world.stored binding server)
  | .clear => some (world.client.binding, world.cleared)
  | .callback net ok => some ((), world.record (.callback net ok))
  | .enter procedure => some ((), world.entered procedure)
  | .leave _ => some ((), world.left)

def handle (world : World) (moment : Moment) (op : Op) : Option (op.Answer × World) :=
  (world.advance moment).answer moment op

/-! ### What operations leave alone -/

def Event.aside : Event → Bool
  | .called _ => true
  | .wrote _ _ _ => true
  | _ => false

/-- Operations that neither change the delegation nor say anything. -/
def Op.idle : Op → Bool
  | .store _ _ => false
  | .clear => false
  | .callback _ _ => false
  | .enter _ => false
  | .leave _ => false
  | .write _ => false
  | _ => true

/-- Operations that neither change the delegation nor speak about it. -/
def Op.aside : Op → Bool
  | .write _ => true
  | op => op.idle

theorem Op.aside_of_idle {op : Op} (idle : op.idle = true) : op.aside = true := by
  cases op with
  | write query => rfl
  | _ => exact idle

/-- From one world to the other the delegation and the procedures in progress are
the same, and nothing was said about the delegation. -/
structure Passes (world after : World) : Prop where
  binding : after.client.binding = world.client.binding
  running : after.running = world.running
  trace : ∃ noise, after.trace = noise ++ world.trace ∧
    ∀ stamped ∈ noise, stamped.event.aside = true

theorem Passes.of_trace_eq {world after : World}
    (binding : after.client.binding = world.client.binding)
    (running : after.running = world.running) (trace : after.trace = world.trace) :
    Passes world after := by
  refine ⟨binding, running, [], ?_, ?_⟩
  · rw [trace, List.nil_append]
  · intro stamped member
    cases member

theorem Passes.trans {world middle after : World} (first : Passes world middle)
    (second : Passes middle after) : Passes world after := by
  obtain ⟨early, earlyTrace, earlyAside⟩ := first.trace
  obtain ⟨late, lateTrace, lateAside⟩ := second.trace
  refine ⟨second.binding.trans first.binding, second.running.trans first.running,
    late ++ early, ?_, ?_⟩
  · rw [lateTrace, earlyTrace, List.append_assoc]
  · intro stamped member
    rcases List.mem_append.mp member with inLate | inEarly
    · exact lateAside stamped inLate
    · exact earlyAside stamped inEarly

theorem Passes.trace_invariant (Property : List Stamped → Prop)
    (kept : ∀ stamped earlier, stamped.event.aside = true → Property earlier →
      Property (stamped :: earlier))
    {world after : World} (passed : Passes world after) (before : Property world.trace) :
    Property after.trace := by
  obtain ⟨noise, trace, aside⟩ := passed.trace
  rw [trace]
  clear trace
  induction noise with
  | nil => exact before
  | cons stamped rest ih =>
      apply kept stamped (rest ++ world.trace) (aside stamped List.mem_cons_self)
      exact ih (fun later member => aside later (List.mem_cons_of_mem stamped member))

theorem Passes.record (world : World) {event : Event} (aside : event.aside = true) :
    Passes world (world.record event) := by
  refine ⟨rfl, rfl, [⟨world.clock, event⟩], rfl, ?_⟩
  intro stamped member
  rw [List.mem_singleton.mp member]
  exact aside

theorem Client.apply_binding (client : Client) (call : ApiCall) :
    (client.apply call).binding = client.binding := by
  cases call <;> rfl

theorem World.call_passes (world : World) (call : ApiCall) : Passes world (world.call call) := by
  have applied : Passes world { world with client := world.client.apply call } :=
    .of_trace_eq (world.client.apply_binding call) rfl rfl
  exact applied.trans (.record _ rfl)

theorem World.advance_invariant (Property : World → Prop) {world : World} {moment : Moment}
    (waited : Property { world with clock := moment.now })
    (kept : ∀ current call, Property current → Property (current.call call)) :
    Property (world.advance moment) := by
  have calls : ∀ (called : List ApiCall) (current : World), Property current →
      Property (called.foldl World.call current) := by
    intro called
    induction called with
    | nil =>
        intro current property
        exact property
    | cons call rest ih =>
        intro current property
        exact ih (current.call call) (kept current call property)
  exact calls moment.calls _ waited

theorem World.advance_passes (world : World) (moment : Moment) :
    Passes world (world.advance moment) := by
  apply World.advance_invariant (Passes world)
  · exact .of_trace_eq rfl rfl rfl
  · intro current call passed
    exact passed.trans (current.call_passes call)

@[simp] theorem World.advance_clock (world : World) (moment : Moment) :
    (world.advance moment).clock = moment.now := by
  apply World.advance_invariant (fun after => after.clock = moment.now)
  · rfl
  · intro current call same
    exact same

theorem World.select_cases {world after : World} {deadline : Instant} {channel : Channel}
    {answer : Bool} (selected : world.select deadline channel = some (answer, after)) :
    (answer = false ∧ world.client.done = true ∧ after = world) ∨
      (answer = true ∧ world.client.wake = true ∧
        after = { world with client := { world.client with wake := false } }) ∨
      (answer = true ∧ deadline ≤ world.clock ∧ after = world) := by
  cases channel with
  | done =>
      obtain ⟨ready, result⟩ := Option.ite_none_right_eq_some.mp selected
      cases result
      exact Or.inl ⟨rfl, ready, rfl⟩
  | wake =>
      obtain ⟨ready, result⟩ := Option.ite_none_right_eq_some.mp selected
      cases result
      exact Or.inr (Or.inl ⟨rfl, ready, rfl⟩)
  | timer =>
      obtain ⟨ready, result⟩ := Option.ite_none_right_eq_some.mp selected
      cases result
      exact Or.inr (Or.inr ⟨rfl, ready, rfl⟩)

/-- Idle operations may consume a token or a request and change nothing else that
matters. -/
structure Idles (world after : World) : Prop where
  clock : after.clock = world.clock
  running : after.running = world.running
  trace : after.trace = world.trace
  binding : after.client.binding = world.client.binding
  done : after.client.done = world.client.done
  wake : after.client.wake = true → world.client.wake = true
  releaseReq : after.client.releaseReq = true → world.client.releaseReq = true

theorem Idles.refl (world : World) : Idles world world :=
  ⟨rfl, rfl, rfl, rfl, rfl, id, id⟩

theorem World.answer_idles {op : Op} {world after : World} {moment : Moment}
    {answer : op.Answer} (idle : op.idle = true)
    (answered : world.answer moment op = some (answer, after)) : Idles world after := by
  cases op with
  | select deadline =>
      rcases World.select_cases answered with ⟨_, _, same⟩ | ⟨_, _, taken⟩ | ⟨_, _, same⟩
      · rw [same]
        exact .refl world
      · rw [taken]
        exact ⟨rfl, rfl, rfl, rfl, rfl, Bool.noConfusion, id⟩
      · rw [same]
        exact .refl world
  | takeReleaseReq =>
      cases answered
      exact ⟨rfl, rfl, rfl, rfl, rfl, id, Bool.noConfusion⟩
  | write query => cases idle
  | store binding server => cases idle
  | clear => cases idle
  | callback net ok => cases idle
  | enter procedure => cases idle
  | leave procedure => cases idle
  | _ =>
      cases answered
      exact ⟨rfl, rfl, rfl, rfl, rfl, id, id⟩

theorem handle_passes {op : Op} {world after : World} {moment : Moment} {answer : op.Answer}
    (aside : op.aside = true) (handled : handle world moment op = some (answer, after)) :
    Passes world after := by
  have idles : op.idle = true → Passes world after := by
    intro idle
    have settled := World.answer_idles idle handled
    exact (world.advance_passes moment).trans
      (.of_trace_eq settled.binding settled.running settled.trace)
  cases op with
  | write query =>
      cases handled
      exact (world.advance_passes moment).trans (.record _ rfl)
  | _ => exact idles aside

end BridgeDhcp.Pd
