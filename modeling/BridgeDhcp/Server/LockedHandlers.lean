/-
The frame handlers, one lock at a time.

A handler holds no lock from its first read to its last write.  It takes the mutex of
the server to read the configuration and to list the static bindings, the mutex of the
lease table once for each of its operations, and that of the interface for each look at
its state.  Here a handler is the program of its locked operations, and a moment says
what the other goroutines did before the operation that uses it.
-/

import BridgeDhcp.InteractionHistory
import BridgeDhcp.InteractionRefinement
import BridgeDhcp.Server.Dhcp4Server
import BridgeDhcp.Server.Dhcp6Server

set_option autoImplicit false

namespace BridgeDhcp.Server

open GoMap Netip Packet StepRun Interaction

/-! ### Operations -/

inductive LockedOp (Message : Type) where
  | receive
  | config
  | v4
  | v6
  | linkLocal
  | hardwareAddr
  | listStatics
  | timeNow
  | inUse (ip : Addr) (mac clientID : String)
  | byClient (mac clientID : String)
  | set (lease : Lease)
  | allocate (start stop : Addr) (skip : Addr → Bool) (lease : Lease)
  | release (ip : Addr)
  | write (frame : UdpFrame Message)

abbrev LockedOp.Answer {Message : Type} : LockedOp Message → Type
  | .receive => Ingress
  | .config => PoolConfig
  | .v4 => Option Prefix
  | .v6 => Option Prefix
  | .linkLocal => Addr
  | .hardwareAddr => List UInt8
  | .listStatics => List StaticBinding
  | .timeNow => Int
  | .inUse _ _ _ => Bool
  | .byClient _ _ => Option Lease
  | .set _ => Unit
  | .allocate _ _ _ _ => Addr
  | .release _ => Bool
  | .write _ => Unit

abbrev Handler (Message : Type) : Type → Type := Prog (LockedOp Message) LockedOp.Answer

def call {Message : Type} (op : LockedOp Message) : Handler Message op.Answer := Prog.perform op

/-- What an operation meets: the events of the other goroutines since the last
operation, the clock, the interface, the iteration orders and the next frame. -/
structure Moment where
  others : List Input
  now : Int
  env : Env
  orders : RangeOrders
  frame : Ingress

structure Receipt where
  frame : Ingress
  at_ : Int

/-- A server in the middle of its work: its state, the latest instant, the frame in
hand and the frames written. -/
structure ServerWorld (Message : Type) where
  server : AddressServer
  now : Int
  handling : Option Receipt
  written : List (UdpFrame Message)

section World

variable {Message : Type}

def handlesNone : Env → RangeOrders → Int → AddressServer → Ingress → Handled Unit :=
  fun _ _ _ server _ => { consumed := false, server := server, written := [] }

def serverFound (world : ServerWorld Message) (moment : Moment) : AddressServer :=
  run (stepWith handlesNone) world.server moment.others

def LockedOp.apply (server : AddressServer) (moment : Moment) :
    (op : LockedOp Message) → op.Answer × LeaseTable
  | .receive => (moment.frame, server.leases)
  | .config => (server.cfg, server.leases)
  | .v4 => (moment.env.v4, server.leases)
  | .v6 => (moment.env.v6, server.leases)
  | .linkLocal => (moment.env.linkLocal, server.leases)
  | .hardwareAddr => (moment.env.mac, server.leases)
  | .listStatics => (listBindings server.statics.bindings moment.orders, server.leases)
  | .timeNow => (moment.now, server.leases)
  | .inUse ip mac clientID => (server.leases.inUse moment.now ip mac clientID, server.leases)
  | .byClient mac clientID =>
      (server.leases.byClient moment.orders.leases moment.now mac clientID, server.leases)
  | .set lease => ((), server.leases.set lease)
  | .allocate start stop skip lease => server.leases.allocate moment.now start stop skip lease
  | .release ip => server.leases.release ip
  | .write _ => ((), server.leases)

def LockedOp.handling (before : Option Receipt) (moment : Moment) :
    LockedOp Message → Option Receipt
  | .receive => some ⟨moment.frame, moment.now⟩
  | _ => before

def LockedOp.frames : LockedOp Message → List (UdpFrame Message)
  | .write frame => [frame]
  | _ => []

def proceed (world : ServerWorld Message) (moment : Moment) (op : LockedOp Message) :
    ServerWorld Message where
  server := { serverFound world moment with leases := (op.apply (serverFound world moment) moment).2 }
  now := moment.now
  handling := op.handling world.handling moment
  written := world.written ++ op.frames

def locked (world : ServerWorld Message) (moment : Moment) (op : LockedOp Message) :
    Option (op.Answer × ServerWorld Message) :=
  some ((op.apply (serverFound world moment) moment).1, proceed world moment op)

def ClockForward (world : ServerWorld Message) (_ : LockedOp Message) (moment : Moment) : Prop :=
  world.now ≤ moment.now

end World

/-! ### Selecting an address -/

section Selecting

variable {Message : Type}

def inPool (served : Prefix) (reserved : List Addr) (poolStart poolEnd ip : Addr) : Bool :=
  !poolEnd.less ip && !ip.less poolStart && ip != served.addr && !reserved.contains ip

def bookUnless (taken : Bool) (otherwise : Handler Message Addr) (lease : Lease) :
    Handler Message Addr :=
  if taken then otherwise
  else do
    call (.set lease)
    return lease.ip

def allocateLocked (cfg : PoolConfig) (served : Prefix) (reserved : List Addr) (lease : Lease) :
    Handler Message Addr :=
  call (.allocate (addrAtOffset served cfg.poolOffsetStart)
    (addrAtOffset served cfg.poolOffsetEnd)
    (fun ip => ip == served.addr || reserved.contains ip) lease)

def selectFromPoolLocked (cfg : PoolConfig) (served : Prefix) (reserved : List Addr)
    (client : Applicant) (requested : Option Addr) (lease : Lease) : Handler Message Addr :=
  let poolStart := addrAtOffset served cfg.poolOffsetStart
  let poolEnd := addrAtOffset served cfg.poolOffsetEnd
  if !poolStart.isValid || !poolEnd.isValid then .ret .invalid
  else
    match requested with
    | none => allocateLocked cfg served reserved lease
    | some ip =>
        if inPool served reserved poolStart poolEnd ip then do
          -- the last operand of the test: the others are looked at first
          let taken ← call (.inUse ip client.mac client.clientID)
          bookUnless taken (allocateLocked cfg served reserved lease) { lease with ip := ip }
        else allocateLocked cfg served reserved lease

def selectDynamicLocked (cfg : PoolConfig) (served : Prefix) (reserved : List Addr)
    (client : Applicant) (requested : Option Addr) (lease : Lease) : Handler Message Addr := do
  let current ← call (.byClient client.mac client.clientID)
  match current with
  | some current =>
      if keepable served reserved current then
        bookUnless false (.ret .invalid) { lease with ip := current.ip }
      else selectFromPoolLocked cfg served reserved client requested lease
  | none => selectFromPoolLocked cfg served reserved client requested lease

def selectAmong (cfg : PoolConfig) (served : Prefix) (client : Applicant)
    (requested : Option Addr) (bindings : List StaticBinding) (now : Int) :
    Handler Message Addr :=
  let lease := draftLease cfg now client
  let ip := reservedFor served bindings client
  if ip.isValid then do
    let taken ← call (.inUse ip client.mac client.clientID)
    bookUnless taken (.ret .invalid) { lease with ip := ip, static := true }
  else selectDynamicLocked cfg served (staticIPs served bindings) client requested lease

/-- `selectIP` and, without a requested address, `selectIP6`. -/
def selectLocked (cfg : PoolConfig) (served : Prefix) (client : Applicant)
    (requested : Option Addr) : Handler Message Addr := do
  let bindings ← call .listStatics
  let now ← call .timeNow
  selectAmong cfg served client requested bindings now

end Selecting

/-! ### The DHCPv4 handler -/

theorem Env.no_v4 : ∀ served, (none : Option Prefix) = some served → served.addr.is4 = true := by
  intro served impossible
  cases impossible

theorem Env.no_v6 : ∀ served, (none : Option Prefix) = some served → served.addr.is6 = true := by
  intro served impossible
  cases impossible

def Env.read (mac : List UInt8) (linkLocal : Addr) : Env where
  mac := mac
  v4 := none
  v6 := none
  linkLocal := linkLocal
  v4Is4 := Env.no_v4
  v6Is6 := Env.no_v6

section Dhcp4

variable (lib : Library4)

def transmit4Locked (served : Prefix) (request reply : DHCPv4) (yiaddr : Addr) :
    Handler DHCPv4 Unit := do
  let mac ← call .hardwareAddr
  call (.write (transmit4 (Env.read mac .invalid) served request reply yiaddr))

def sendReplyLocked (cfg : DHCP4Config) (served : Prefix) (request : DHCPv4)
    (typ : MessageType4) (ip : Addr) : Handler DHCPv4 Unit :=
  match lib.newReplyFromRequest request (replyModifiers cfg served typ) with
  | none => .ret ()
  | some reply => transmit4Locked served request { reply with yourIPAddr := ip.asSlice } ip

def sendNakLocked (served : Prefix) (request : DHCPv4) : Handler DHCPv4 Unit :=
  match lib.newReplyFromRequest request
      [.withMessageType .nak, .optServerIdentifier served.addr.asSlice] with
  | none => .ret ()
  | some reply => transmit4Locked served request reply .invalid

def replyToDiscoverLocked (cfg : DHCP4Config) (served : Prefix) (request : DHCPv4) :
    Handler DHCPv4 Unit := do
  let ip ← selectLocked cfg served (applicant4 request) (requestedAddr request)
  if ip.isValid then sendReplyLocked lib cfg served request .offer ip
  else return ()

def replyToRequestLocked (cfg : DHCP4Config) (served : Prefix) (request : DHCPv4) :
    Handler DHCPv4 Unit :=
  match wantedAddr request with
  | none => sendNakLocked lib served request
  | some want => do
      let got ← selectLocked cfg served (applicant4 request) (requestedAddr request)
      if !got.isValid || got != want then sendNakLocked lib served request
      else sendReplyLocked lib cfg served request .ack got

def handleRelease4Locked (request : DHCPv4) : Handler DHCPv4 Unit :=
  match addrFromSlice (to4 request.clientIPAddr) with
  | none => .ret ()
  | some ip => do
      let _ ← call (.release ip)
      return ()

def handleDecline4Locked (cfg : DHCP4Config) (request : DHCPv4) : Handler DHCPv4 Unit :=
  match requestedAddr request with
  | none => .ret ()
  | some ip => do
      let now ← call .timeNow
      call (.set (declinedLease cfg now ip))

def handleRequest4Locked (cfg : DHCP4Config) (served : Prefix) (request : DHCPv4) :
    Handler DHCPv4 Unit :=
  match request.messageType with
  | .discover => replyToDiscoverLocked lib cfg served request
  | .request => replyToRequestLocked lib cfg served request
  | .release => handleRelease4Locked request
  | .decline => handleDecline4Locked cfg request
  | _ => .ret ()

def bootRequest (pkt : Ingress) : Option DHCPv4 :=
  (lib.fromBytes pkt.payload).filter (fun request => request.opCode == .bootRequest)

def answerFrame4Locked (pkt : Ingress) (cfg : DHCP4Config) :
    Option Prefix → Handler DHCPv4 Bool
  | none => .ret true
  | some served =>
      if cfg.enabled = false then .ret true
      else
        match bootRequest lib pkt with
        | none => .ret true
        | some request => do
            handleRequest4Locked lib cfg served request
            return true

def handleFrame4Locked (pkt : Ingress) : Handler DHCPv4 Bool :=
  if !pkt.isUDP4 || pkt.dstPort != dhcp4ServerPort then .ret false
  else do
    let cfg ← call .config
    let served ← call .v4
    answerFrame4Locked lib pkt cfg served

end Dhcp4

/-! ### The DHCPv6 handler -/

section Dhcp6

variable (lib : Library6)

def transmit6Locked (pkt : Ingress) (reply : DHCPv6) : Handler DHCPv6 Unit := do
  let linkLocal ← call .linkLocal
  if linkLocal.isValid then do
    let mac ← call .hardwareAddr
    let frame : UdpFrame DHCPv6 :=
      { srcMAC := mac
        dstMAC := pkt.srcMAC
        srcIP := linkLocal.asSlice
        dstIP := pkt.srcIP
        srcPort := dhcp6ServerPort
        dstPort := dhcp6ClientPort
        message := reply }
    call (.write frame)
  else return ()

def sendBuilt6 (pkt : Ingress) (finish : DHCPv6 → DHCPv6) : Option DHCPv6 → Handler DHCPv6 Unit
  | none => .ret ()
  | some reply => transmit6Locked pkt (finish reply)

def replyAddressLocked (cfg : DHCP6Config) (served : Prefix) (pkt : Ingress) (msg : DHCPv6)
    (duid : List UInt8) (advertise : Bool) : Handler DHCPv6 Unit := do
  let ip ← selectLocked cfg served (applicant6 pkt duid (hostnameOf msg)) none
  if ip.isValid then do
    let mac ← call .hardwareAddr
    let modifiers := addressModifiers (Env.read mac .invalid) cfg served msg ip
    sendBuilt6 pkt (preserveIAID msg)
      (if advertise then lib.newAdvertiseFromSolicit msg modifiers
        else lib.newReplyFromMessage msg modifiers)
  else return ()

def replyStatusLocked (pkt : Ingress) (msg : DHCPv6) : Handler DHCPv6 Unit := do
  let mac ← call .hardwareAddr
  sendBuilt6 pkt id (lib.newReplyFromMessage msg [.withServerID ⟨mac⟩])

def replyInformationLocked (cfg : DHCP6Config) (served : Prefix) (pkt : Ingress)
    (msg : DHCPv6) : Handler DHCPv6 Unit := do
  let mac ← call .hardwareAddr
  sendBuilt6 pkt id
    (lib.newReplyFromMessage msg [.withServerID ⟨mac⟩, .withDNS (dnsServers6 cfg served)])

def handleRelease6Locked (pkt : Ingress) (msg : DHCPv6) (duid : List UInt8) :
    Handler DHCPv6 Unit := do
  let current ← call (.byClient (hardwareAddrString pkt.srcMAC) (hexEncode duid))
  match current with
  | none => replyStatusLocked lib pkt msg
  | some lease => do
      let _ ← call (.release lease.ip)
      replyStatusLocked lib pkt msg

def handleMessage6Locked (cfg : DHCP6Config) (served : Prefix) (pkt : Ingress) (msg : DHCPv6)
    (duid : List UInt8) : Handler DHCPv6 Unit :=
  match msg.messageType with
  | .solicit => replyAddressLocked lib cfg served pkt msg duid true
  | .request => replyAddressLocked lib cfg served pkt msg duid false
  | .renew => replyAddressLocked lib cfg served pkt msg duid false
  | .rebind => replyAddressLocked lib cfg served pkt msg duid false
  | .release => handleRelease6Locked lib pkt msg duid
  | .informationRequest => replyInformationLocked lib cfg served pkt msg
  | _ => .ret ()

/-- The message in a frame with the DUID of its sender, if it decodes to one. -/
def clientMessage (pkt : Ingress) : Option (DHCPv6 × List UInt8) :=
  match lib.fromBytes pkt.payload with
  | some (.message msg) => msg.clientID.map (fun duid => (msg, duid))
  | _ => none

def answerFrame6Locked (pkt : Ingress) (cfg : DHCP6Config) :
    Option Prefix → Handler DHCPv6 Bool
  | none => .ret true
  | some served =>
      if cfg.enabled = false then .ret true
      else
        match clientMessage lib pkt with
        | none => .ret true
        | some (msg, duid) => do
            handleMessage6Locked lib cfg served pkt msg duid
            return true

def handleFrame6Locked (pkt : Ingress) : Handler DHCPv6 Bool :=
  if !pkt.isUDP6 || pkt.dstPort != dhcp6ServerPort then .ret false
  else do
    let cfg ← call .config
    let served ← call .v6
    answerFrame6Locked lib pkt cfg served

end Dhcp6

/-! ### Only the reader takes frames -/

def KeepsFrame {Message : Type} (op : LockedOp Message) : Prop := op ≠ .receive

section Uses

variable {Message : Type}

theorem call_uses {op : LockedOp Message} (keeps : KeepsFrame op) : Uses KeepsFrame (call op) :=
  Uses.perform keeps

theorem call_bind_uses {Value : Type} {op : LockedOp Message}
    {next : op.Answer → Handler Message Value} (keeps : KeepsFrame op)
    (continues : ∀ answer, Uses KeepsFrame (next answer)) :
    Uses KeepsFrame (call op >>= next) :=
  (call_uses keeps).bind continues

variable (cfg : PoolConfig) (served : Prefix) (reserved : List Addr) (client : Applicant)
  (requested : Option Addr) (lease : Lease)

theorem bookUnless_uses (taken : Bool) {otherwise : Handler Message Addr}
    (uses : Uses KeepsFrame otherwise) : Uses KeepsFrame (bookUnless taken otherwise lease) := by
  cases taken with
  | true => exact uses
  | false =>
      refine call_bind_uses nofun ?_
      intro _
      trivial

theorem allocateLocked_uses :
    Uses KeepsFrame (allocateLocked cfg served reserved lease : Handler Message Addr) :=
  call_uses nofun

theorem selectFromPoolLocked_uses :
    Uses KeepsFrame (selectFromPoolLocked cfg served reserved client requested lease :
      Handler Message Addr) := by
  unfold selectFromPoolLocked
  dsimp only
  split
  · trivial
  · cases requested with
    | none => exact allocateLocked_uses cfg served reserved lease
    | some ip =>
        dsimp only
        split
        · refine call_bind_uses nofun ?_
          intro taken
          exact bookUnless_uses _ taken (allocateLocked_uses cfg served reserved lease)
        · exact allocateLocked_uses cfg served reserved lease

theorem selectLocked_uses :
    Uses KeepsFrame (selectLocked cfg served client requested : Handler Message Addr) := by
  refine call_bind_uses nofun ?_
  intro bindings
  refine call_bind_uses nofun ?_
  intro now
  unfold selectAmong
  dsimp only
  split
  · refine call_bind_uses nofun ?_
    intro taken
    exact bookUnless_uses _ taken trivial
  · refine call_bind_uses nofun ?_
    intro current
    split
    · split
      · exact bookUnless_uses _ false trivial
      · exact selectFromPoolLocked_uses cfg served _ client requested _
    · exact selectFromPoolLocked_uses cfg served _ client requested _

end Uses

section Uses4

variable (lib : Library4) (cfg : DHCP4Config) (served : Prefix) (request : DHCPv4)

theorem transmit4Locked_uses (reply : DHCPv4) (yiaddr : Addr) :
    Uses KeepsFrame (transmit4Locked served request reply yiaddr) := by
  refine call_bind_uses nofun ?_
  intro mac
  exact call_uses nofun

theorem sendReplyLocked_uses (typ : MessageType4) (ip : Addr) :
    Uses KeepsFrame (sendReplyLocked lib cfg served request typ ip) := by
  unfold sendReplyLocked
  split
  · trivial
  · exact transmit4Locked_uses served request _ ip

theorem sendNakLocked_uses : Uses KeepsFrame (sendNakLocked lib served request) := by
  unfold sendNakLocked
  split
  · trivial
  · exact transmit4Locked_uses served request _ _

theorem handleRequest4Locked_uses :
    Uses KeepsFrame (handleRequest4Locked lib cfg served request) := by
  unfold handleRequest4Locked
  cases request.messageType with
  | discover =>
      apply (selectLocked_uses cfg served (applicant4 request) (requestedAddr request)).bind
      intro ip
      split
      · exact sendReplyLocked_uses lib cfg served request _ ip
      · trivial
  | request =>
      dsimp only [replyToRequestLocked]
      cases wantedAddr request with
      | none => exact sendNakLocked_uses lib served request
      | some want =>
          apply (selectLocked_uses cfg served (applicant4 request) (requestedAddr request)).bind
          intro got
          split
          · exact sendNakLocked_uses lib served request
          · exact sendReplyLocked_uses lib cfg served request _ got
  | release =>
      dsimp only [handleRelease4Locked]
      cases addrFromSlice (to4 request.clientIPAddr) with
      | none => trivial
      | some ip =>
          refine call_bind_uses nofun ?_
          intro _
          trivial
  | decline =>
      dsimp only [handleDecline4Locked]
      cases requestedAddr request with
      | none => trivial
      | some ip =>
          refine call_bind_uses nofun ?_
          intro now
          exact call_uses nofun
  | _ => trivial

end Uses4

section Uses6

variable (lib : Library6) (cfg : DHCP6Config) (served : Prefix) (pkt : Ingress) (msg : DHCPv6)
  (duid : List UInt8)

theorem sendBuilt6_uses (finish : DHCPv6 → DHCPv6) (built : Option DHCPv6) :
    Uses KeepsFrame (sendBuilt6 pkt finish built) := by
  cases built with
  | none => trivial
  | some reply =>
      refine call_bind_uses nofun ?_
      intro linkLocal
      split
      · refine call_bind_uses nofun ?_
        intro mac
        exact call_uses nofun
      · trivial

theorem replyAddressLocked_uses (advertise : Bool) :
    Uses KeepsFrame (replyAddressLocked lib cfg served pkt msg duid advertise) := by
  apply (selectLocked_uses cfg served (applicant6 pkt duid (hostnameOf msg)) none).bind
  intro ip
  split
  · refine call_bind_uses nofun ?_
    intro mac
    exact sendBuilt6_uses pkt _ _
  · trivial

theorem replyStatusLocked_uses : Uses KeepsFrame (replyStatusLocked lib pkt msg) := by
  refine call_bind_uses nofun ?_
  intro mac
  exact sendBuilt6_uses pkt _ _

theorem handleMessage6Locked_uses :
    Uses KeepsFrame (handleMessage6Locked lib cfg served pkt msg duid) := by
  unfold handleMessage6Locked
  cases msg.messageType with
  | solicit => exact replyAddressLocked_uses lib cfg served pkt msg duid true
  | request => exact replyAddressLocked_uses lib cfg served pkt msg duid false
  | renew => exact replyAddressLocked_uses lib cfg served pkt msg duid false
  | rebind => exact replyAddressLocked_uses lib cfg served pkt msg duid false
  | release =>
      refine call_bind_uses nofun ?_
      intro current
      split
      · exact replyStatusLocked_uses lib pkt msg
      · refine call_bind_uses nofun ?_
        intro _
        exact replyStatusLocked_uses lib pkt msg
  | informationRequest =>
      refine call_bind_uses nofun ?_
      intro mac
      exact sendBuilt6_uses pkt _ _
  | _ => trivial

end Uses6

/-! ### The reader -/

def readFrames {Message : Type} (handleFrame : Ingress → Handler Message Bool) :
    Nat → Handler Message Unit
  | 0 => .cut
  | fuel + 1 => do
      let pkt ← call .receive
      let _ ← handleFrame pkt
      readFrames handleFrame fuel

end BridgeDhcp.Server
