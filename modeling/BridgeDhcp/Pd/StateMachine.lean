/-
The state machine of the prefix-delegation client: SOLICIT, ADVERTISE, REQUEST,
REPLY, then RENEW and REBIND, with confirmation of a held delegation on wakeups.

Each definition follows the method of the same name.  Loops that the source
bounds by nothing take fuel and are cut when it is used up.
-/

import BridgeDhcp.Pd.Client

set_option autoImplicit false

namespace BridgeDhcp.Pd

open Netip GoTime Packet Interaction

/-- One client's settings.  `clientID` is what `DUIDFromBytes` makes of the
configured bytes, none if it refuses them. -/
structure Config where
  clientID : Option Duid
  iaid : UInt32
  initialTimeout : Duration
  maxTimeout : Duration
  attempts : Int
  deriving DecidableEq, Repr

def Config.normalize (cfg : Config) : Config :=
  { cfg with
    initialTimeout := if cfg.initialTimeout ≤ 0 then second else cfg.initialTimeout
    maxTimeout := if cfg.maxTimeout ≤ 0 then 32 * second else cfg.maxTimeout
    attempts := if cfg.attempts ≤ 0 then 6 else cfg.attempts }

def iaidBytes (iaid : UInt32) : List UInt8 :=
  [(iaid >>> 24).toUInt8, (iaid >>> 16).toUInt8, (iaid >>> 8).toUInt8, iaid.toUInt8]

abbrev Routine := Prog Op Op.Answer

abbrev perform (op : Op) : Routine op.Answer := Prog.perform op

/-! ### Waiting and notifying -/

def sleep (duration : Duration) : Routine Bool := do
  let begun ← perform (.now .sleep)
  perform (.select (begun + duration))

def withdraw : Option Binding → Routine Unit
  | none => pure ()
  | some binding => perform (.callback binding.net false)

def dropPrefix : Routine Unit := do
  perform (.enter .dropPrefix)
  let old ← perform .clear
  withdraw old
  perform (.leave .dropPrefix)

def announce (old : Option Binding) (binding : Binding) : Routine Unit :=
  match old with
  | none => perform (.callback binding.net true)
  | some held =>
      if held.net = binding.net then pure ()
      else do
        withdraw (some held)
        perform (.callback binding.net true)

def applyUsable (reply : Answer6) : Option (Prefix × Duration) → Routine Bool
  | none => pure false
  | some (net, lifetime) => do
      let now ← perform (.now .apply)
      let binding : Binding := { net := net, boundAt := now, expiresAt := now + lifetime }
      let old ← perform (.store binding reply.serverID)
      announce old binding
      pure true

def applyReply (reply : Answer6) : Routine Bool := do
  perform (.enter .applyReply)
  let applied ← applyUsable reply (usablePrefix reply)
  perform (.leave .applyReply)
  pure applied

theorem applyReply_unusable {reply : Answer6} (unusable : usablePrefix reply = none) :
    applyReply reply =
      .act (.enter .applyReply) (fun _ => .act (.leave .applyReply) (fun _ => .ret false)) := by
  unfold applyReply
  rw [unusable]
  rfl

theorem applyReply_usable {reply : Answer6} {usable : Prefix × Duration}
    (usability : usablePrefix reply = some usable) :
    applyReply reply =
      .act (.enter .applyReply) (fun _ => .act (.now .apply) (fun now =>
        .act (.store { net := usable.1, boundAt := now, expiresAt := now + usable.2 }
            reply.serverID)
          (fun old =>
            announce old { net := usable.1, boundAt := now, expiresAt := now + usable.2 } >>=
              (fun _ => .act (.leave .applyReply) (fun _ => .ret true))))) := by
  unfold applyReply
  rw [usability]
  change Prog.act _ _ = _
  congr 1
  funext _
  change Prog.act _ _ = _
  congr 1
  funext now
  change Prog.act _ _ = _
  congr 1
  funext old
  -- The rest of `applyUsable` and what follows it in `applyReply` are one program.
  exact Prog.bind_assoc
    (announce old { net := usable.1, boundAt := now, expiresAt := now + usable.2 })
    (fun _ => pure true) (fun applied => perform (.leave .applyReply) >>= fun _ => pure applied)

/-! ### Exchanges -/

def buildMessage (cfg : Config) (messageType : MessageType6) (txn : BitVec 24)
    (server : Option Duid) : Routine (Option Query) :=
  match cfg.clientID with
  | none => pure none
  | some duid => do
      let (elapsed, binding) ← perform .hint
      pure (some
        { messageType := messageType
          transactionID := txn
          clientID := duid
          serverID := server
          elapsed := elapsed
          iaid := iaidBytes cfg.iaid
          hint := binding.map (fun held => IPNet.ofPrefix held.net) })

/-- Datagrams are read until one answers the query or the deadline has passed. -/
def awaitReply (deadline : Instant) (txn : BitVec 24) (expect : MessageType6) :
    Nat → Routine (Option Answer6)
  | 0 => .cut
  | fuel + 1 => do
      if (← perform (.now .exchange)) < deadline then
        match ← perform (.read deadline) with
        | none => pure none
        | some none => awaitReply deadline txn expect fuel
        | some (some resp) =>
            if resp.messageType = expect ∧ resp.transactionID = txn then pure (some resp)
            else awaitReply deadline txn expect fuel
      else pure none

def nextTimeout (cfg : Config) (timeout : Duration) : Duration :=
  if cfg.maxTimeout < wrap64 (timeout * 2) then cfg.maxTimeout else wrap64 (timeout * 2)

/-- The attempts that are left, the first of them with the given timeout. -/
def transmit (cfg : Config) (fuel : Nat) (messageType : MessageType6) (txn : BitVec 24)
    (server : Option Duid) (expect : MessageType6) : Nat → Duration → Routine (Option Answer6)
  | 0, _ => pure none
  | left + 1, timeout => do
      if ← perform .stopped then pure none
      else
        match ← buildMessage cfg messageType txn server with
        | none => pure none
        | some query =>
            if ← perform (.write query) then
              let sentAt ← perform (.now .exchange)
              match ← awaitReply (sentAt + timeout) txn expect fuel with
              | some resp => pure (some resp)
              | none =>
                  transmit cfg fuel messageType txn server expect left (nextTimeout cfg timeout)
            else pure none

def exchange (cfg : Config) (fuel : Nat) (messageType : MessageType6) (server : Option Duid)
    (expect : MessageType6) : Routine (Option Answer6) := do
  match ← perform .random with
  | none => pure none
  | some txn =>
      transmit cfg fuel messageType txn server expect cfg.attempts.toNat cfg.initialTimeout

def exchangeAndApply (cfg : Config) (fuel : Nat) (messageType : MessageType6)
    (server : Option Duid) : Routine Bool := do
  match ← exchange cfg fuel messageType server .reply with
  | none => pure false
  | some reply => applyReply reply

/-! ### Acquiring, confirming and releasing -/

def sendRelease (cfg : Config) (fuel : Nat) : Option Duid → Routine Unit
  | none => pure ()
  | some server => do
      perform (.setState .releasing)
      perform .markStart
      let _ ← exchange cfg fuel .release (some server) .reply

def maybeRelease (cfg : Config) (fuel : Nat) : Routine Bool := do
  if ← perform .takeReleaseReq then
    let held ← perform .load
    match held.binding with
    | none => pure false
    | some _ =>
        sendRelease cfg fuel held.serverDUID
        dropPrefix
        pure true
  else pure false

def confirmByRenew (cfg : Config) (fuel : Nat) : Option Duid → Routine Bool
  | none => pure false
  | some server => do
      perform (.setState .renewing)
      perform .markStart
      exchangeAndApply cfg fuel .renew (some server)

def confirmExisting (cfg : Config) (fuel : Nat) : Routine Bool := do
  let held ← perform .load
  if ← confirmByRenew cfg fuel held.serverDUID then pure true
  else
    perform (.setState .rebinding)
    perform .markStart
    exchangeAndApply cfg fuel .rebind none

def solicit (cfg : Config) (fuel : Nat) : Routine Bool := do
  perform (.setState .soliciting)
  perform .markStart
  match ← exchange cfg fuel .solicit none .advertise with
  | none => pure false
  | some adv =>
      match adv.serverID with
      | none => pure false
      | some server =>
          perform (.setState .requesting)
          exchangeAndApply cfg fuel .request (some server)

def acquireFresh (cfg : Config) (fuel : Nat) : Routine Bool := do
  perform (.enter .acquireFresh)
  let acquired ← solicit cfg fuel
  perform (.leave .acquireFresh)
  pure acquired

/-! ### Loops -/

/-- The end of a wait before T1: confirm if the link is usable.  The result is none
when `boundLoop` goes on. -/
def confirmEarly (cfg : Config) (fuel : Nat) (binding : Binding) : Routine (Option Bool) := do
  let current ← perform .load
  match current.binding with
  | none => pure none
  | some _ =>
      if (← perform (.now .bound)) < binding.t1At then
        if ← perform (.uplinkReady .bound) then
          if ← confirmExisting cfg fuel then pure none
          else
            dropPrefix
            pure (some true)
        else pure none
      else pure none

def beforeT1 (cfg : Config) (fuel : Nat) (binding : Binding) : Routine (Option Bool) := do
  let begun ← perform (.now .bound)
  if ← sleep (min (sub binding.t1At begun) minute) then
    if ← maybeRelease cfg fuel then pure (some true)
    else confirmEarly cfg fuel binding
  else pure (some true)

/-- The iteration of `boundLoop` from T1 on: give up at expiry, else RENEW or
REBIND. -/
def afterT1 (cfg : Config) (fuel : Nat) (binding : Binding) (server : Option Duid)
    (now : Instant) : Routine (Option Bool) := do
  if binding.expiresAt < now then
    dropPrefix
    pure (some true)
  else
    let rebinds := binding.t2At < now ∨ server = none
    perform (.setState (if rebinds then .rebinding else .renewing))
    perform .markStart
    if ← exchangeAndApply cfg fuel (if rebinds then .rebind else .renew)
        (if rebinds then none else server) then pure none
    else if binding.expiresAt < (← perform (.now .bound)) then
      dropPrefix
      pure (some true)
    else pure none

def heldTurn (cfg : Config) (fuel : Nat) (binding : Binding) (server : Option Duid) :
    Routine (Option Bool) := do
  perform (.setState .bound)
  let now ← perform (.now .bound)
  if now < binding.t1At then beforeT1 cfg fuel binding
  else afterT1 cfg fuel binding server now

def boundTurn (cfg : Config) (fuel : Nat) : Routine (Option Bool) := do
  if ← perform .stopped then pure (some true)
  else if ← maybeRelease cfg fuel then pure (some true)
  else
    let held ← perform .load
    match held.binding with
    | none => pure (some true)
    | some binding => heldTurn cfg fuel binding held.serverDUID

def boundLoop (cfg : Config) : Nat → Routine Bool
  | 0 => .cut
  | fuel + 1 => do
      match ← boundTurn cfg fuel with
      | none => boundLoop cfg fuel
      | some result => pure result

/-- The end of a turn of `sessionLoop`: a fresh delegation.  The result says
whether the loop goes on. -/
def sessionAcquire (cfg : Config) (fuel : Nat) : Routine Bool := do
  if ← acquireFresh cfg fuel then boundLoop cfg fuel
  else
    let _ ← sleep (5 * second)
    pure false

def sessionConfirm (cfg : Config) (fuel : Nat) : Routine Bool := do
  if ← perform (.uplinkReady .session) then
    if ← confirmExisting cfg fuel then boundLoop cfg fuel
    else
      dropPrefix
      sessionAcquire cfg fuel
  else sleep second

def sessionTurn (cfg : Config) (fuel : Nat) : Routine Bool := do
  if ← perform .stopped then pure false
  else if ← maybeRelease cfg fuel then pure true
  else
    let held ← perform .load
    match held.binding with
    | none => sessionAcquire cfg fuel
    | some binding =>
        if (← perform (.now .session)) < binding.expiresAt then sessionConfirm cfg fuel
        else sessionAcquire cfg fuel

def sessionLoop (cfg : Config) : Nat → Routine Unit
  | 0 => .cut
  | fuel + 1 => do
      if ← sessionTurn cfg fuel then sessionLoop cfg fuel
      else pure ()

def session (cfg : Config) (fuel : Nat) : Routine Bool := do
  perform (.setState .resolving)
  if ← perform .openSocket then
    sessionLoop cfg fuel
    if ← perform .stopped then pure true
    else sleep (5 * second)
  else sleep (5 * second)

def run (cfg : Config) : Nat → Routine Unit
  | 0 => .cut
  | fuel + 1 => do
      if ← perform .stopped then perform (.setState .stopped)
      else if ← session cfg fuel then run cfg fuel
      else perform (.setState .stopped)

def start (cfg : Config) (fuel : Nat) : Routine Unit := run cfg.normalize fuel

/-! ### Parts of sample runs -/

def sampleConfig : Config where
  clientID := some [0, 3, 0, 1, 2, 0, 0, 0, 0, 1]
  iaid := 1
  initialTimeout := 0
  maxTimeout := 0
  attempts := 1

def quiet (now : Instant) (ok : Bool) : Moment where
  calls := []
  now := now
  ok := ok
  random := 0
  received := none
  channel := .timer

def sampleBinding : Binding where
  net :=
    { addr := .v6 0x20010db8000000000000000000000000#128
      bits := 56
      addrValid := rfl
      bitsFit := by decide }
  boundAt := -3598 * second
  expiresAt := 2 * second

def sampleAnswer (messageType : MessageType6) : Answer6 where
  messageType := messageType
  transactionID := 0
  serverID := some [0, 1]
  iapd := some
    { status := none
      prefixes :=
        [{ validSeconds := 14400
           net := some
             { ip := [32, 1, 13, 184, 0, 0, 0, 0, 0, 0, 0, 0, 0, 0, 0, 0]
               mask := cidrMask 56
               maskFits := by decide } }] }

def hears (now : Instant) (answer : Answer6) : Moment :=
  { quiet now true with received := some answer }

end BridgeDhcp.Pd
