/-
The handlers without interruptions.

When no other goroutine runs between the operations of a handler, and the clock and
the interface stand still, the program of its locked operations does what the handler
does as one event.
-/

import BridgeDhcp.Server.LockedHandlers

set_option autoImplicit false

namespace BridgeDhcp.Server

open GoMap Netip Packet StepRun Interaction

section Calm

variable {Message : Type} (env : Env) (orders : RangeOrders) (now : Int) (pkt : Ingress)

def calm : Moment where
  others := []
  now := now
  env := env
  orders := orders
  frame := pkt

variable {env orders now pkt}

@[simp] theorem calm_now : (calm env orders now pkt).now = now := rfl

@[simp] theorem calm_env : (calm env orders now pkt).env = env := rfl

@[simp] theorem calm_orders : (calm env orders now pkt).orders = orders := rfl

def handled (world : ServerWorld Message) (table : LeaseTable)
    (written : List (UdpFrame Message)) : ServerWorld Message :=
  { world with
    server := { world.server with leases := table }
    written := world.written ++ written }

theorem handled_self (world : ServerWorld Message) :
    handled world world.server.leases [] = world := by
  unfold handled
  rw [List.append_nil]

theorem handled_after (world : ServerWorld Message) (table : LeaseTable)
    (written : List (UdpFrame Message)) :
    handled (handled world table []) (handled world table []).server.leases written =
      handled world table written := by
  unfold handled
  dsimp only
  rw [List.append_nil]

theorem finish_ret {Value : Type} (value : Value) (world : ServerWorld Message) :
    finish locked (.ret value : Handler Message Value) world
        (fun _ => calm env orders now pkt) =
      some (value, handled world world.server.leases []) := by
  rw [handled_self]
  rfl

theorem finish_call {Value : Type} (op : LockedOp Message)
    {next : op.Answer → Handler Message Value} {world : ServerWorld Message}
    (current : world.now = now) (keeps : KeepsFrame op) :
    finish locked (call op >>= next) world (fun _ => calm env orders now pkt) =
      finish locked (next (op.apply world.server (calm env orders now pkt)).1)
        (handled world (op.apply world.server (calm env orders now pkt)).2 op.frames)
        (fun _ => calm env orders now pkt) := by
  have same : proceed world (calm env orders now pkt) op =
      handled world (op.apply world.server (calm env orders now pkt)).2 op.frames := by
    subst current
    unfold proceed handled
    cases op with
    | receive => exact absurd rfl keeps
    | _ => rfl
  rw [← same]
  rfl

theorem finish_last (op : LockedOp Message) {world : ServerWorld Message}
    (current : world.now = now) (keeps : KeepsFrame op) :
    finish locked (call op) world (fun _ => calm env orders now pkt) =
      some ((op.apply world.server (calm env orders now pkt)).1,
        handled world (op.apply world.server (calm env orders now pkt)).2 op.frames) := by
  have bound := @finish_call Message env orders now pkt _ op Prog.ret world current keeps
  exact bound

theorem finish_read {Value : Type} (op : LockedOp Message)
    {next : op.Answer → Handler Message Value} {world : ServerWorld Message}
    (current : world.now = now) (keeps : KeepsFrame op)
    (reads : (op.apply world.server (calm env orders now pkt)).2 = world.server.leases)
    (silent : op.frames = []) :
    finish locked (call op >>= next) world (fun _ => calm env orders now pkt) =
      finish locked (next (op.apply world.server (calm env orders now pkt)).1) world
        (fun _ => calm env orders now pkt) := by
  rw [finish_call op current keeps, reads, silent, handled_self]

/-! ### The selection -/

section Selecting

variable {cfg : PoolConfig} {served : Prefix} {reserved : List Addr} {client : Applicant}
  {requested : Option Addr} {world : ServerWorld Message}

theorem finish_bookUnless (current : world.now = now) (taken : Bool)
    (otherwise : Handler Message Addr) (lease : Lease) :
    finish locked (bookUnless taken otherwise lease) world (fun _ => calm env orders now pkt) =
      if taken then finish locked otherwise world (fun _ => calm env orders now pkt)
      else some (lease.ip, handled world (world.server.leases.set lease) []) := by
  cases taken with
  | true => rfl
  | false => exact finish_call (.set lease) current nofun

theorem finish_allocateLocked (current : world.now = now) (lease : Lease) :
    finish locked (allocateLocked cfg served reserved lease : Handler Message Addr) world
        (fun _ => calm env orders now pkt) =
      let lowest := world.server.leases.allocate now (addrAtOffset served cfg.poolOffsetStart)
        (addrAtOffset served cfg.poolOffsetEnd)
        (fun ip => ip == served.addr || reserved.contains ip) lease
      some (lowest.1, handled world lowest.2 []) :=
  finish_last (.allocate _ _ _ lease) current nofun

theorem grantable_eq (table : LeaseTable) (poolStart poolEnd ip : Addr) :
    grantable table now served reserved client poolStart poolEnd ip =
      (inPool served reserved poolStart poolEnd ip &&
        !table.inUse now ip client.mac client.clientID) := rfl

theorem finish_selectFromPoolLocked (current : world.now = now) :
    finish locked (selectFromPoolLocked cfg served reserved client requested
        (draftLease cfg now client) : Handler Message Addr) world
        (fun _ => calm env orders now pkt) =
      let selected := selectFromPool cfg world.server.leases now served reserved client requested
      some (selected.1, handled world selected.2 []) := by
  unfold selectFromPoolLocked selectFromPool
  dsimp only
  split
  · rw [handled_self]
    rfl
  · cases requested with
    | none => exact finish_allocateLocked current _
    | some ip =>
        dsimp only
        rw [grantable_eq]
        split
        · rename_i inside
          rw [inside, finish_read (.inUse ip client.mac client.clientID) current nofun rfl rfl,
            Bool.true_and]
          rw [finish_bookUnless current, finish_allocateLocked current]
          change (if world.server.leases.inUse now ip client.mac client.clientID then _ else _) = _
          cases world.server.leases.inUse now ip client.mac client.clientID <;> rfl
        · rename_i outside
          rw [Bool.eq_false_iff.mpr outside, Bool.false_and]
          exact finish_allocateLocked current _

theorem finish_selectDynamicLocked (current : world.now = now) :
    finish locked (selectDynamicLocked cfg served reserved client requested
        (draftLease cfg now client) : Handler Message Addr) world
        (fun _ => calm env orders now pkt) =
      let selected := selectDynamic cfg world.server.leases orders now served reserved client
        requested
      some (selected.1, handled world selected.2 []) := by
  unfold selectDynamicLocked selectDynamic
  rw [finish_read (.byClient client.mac client.clientID) current nofun rfl rfl]
  simp only [LockedOp.apply, calm_now, calm_orders]
  cases world.server.leases.byClient orders.leases now client.mac client.clientID with
  | none => exact finish_selectFromPoolLocked current
  | some held =>
      dsimp only
      split
      · exact finish_bookUnless current false _ _
      · exact finish_selectFromPoolLocked current

theorem finish_selectLocked (current : world.now = now) :
    finish locked (selectLocked cfg served client requested : Handler Message Addr) world
        (fun _ => calm env orders now pkt) =
      let selected := selectAddress cfg world.server.statics.bindings world.server.leases orders
        now served client requested
      some (selected.1, handled world selected.2 []) := by
  unfold selectLocked
  rw [selectAddress_eq, finish_read .listStatics current nofun rfl rfl,
    finish_read .timeNow current nofun rfl rfl]
  change finish locked (selectAmong cfg served client requested
    (listBindings world.server.statics.bindings orders) now) world _ = _
  unfold selectAmong
  dsimp only
  split
  · rw [finish_read (.inUse _ client.mac client.clientID) current nofun rfl rfl,
      finish_bookUnless current]
    change (if world.server.leases.inUse now _ _ _ then _ else _) = _
    split
    · rw [handled_self]
      rfl
    · rfl
  · exact finish_selectDynamicLocked current

end Selecting

/-! ### The DHCPv4 handler -/

section Dhcp4

variable {lib : Library4} {cfg : DHCP4Config} {served : Prefix} {request : DHCPv4}
  {world : ServerWorld DHCPv4}

theorem finish_transmit4Locked (current : world.now = now) (reply : DHCPv4) (yiaddr : Addr) :
    finish locked (transmit4Locked served request reply yiaddr) world
        (fun _ => calm env orders now pkt) =
      some ((), handled world world.server.leases
        [transmit4 env served request reply yiaddr]) := by
  unfold transmit4Locked
  rw [finish_read .hardwareAddr current nofun rfl rfl]
  exact finish_last (.write _) current nofun

theorem finish_sendReplyLocked (current : world.now = now) (typ : MessageType4) (ip : Addr) :
    finish locked (sendReplyLocked lib cfg served request typ ip) world
        (fun _ => calm env orders now pkt) =
      some ((), handled world world.server.leases
        (sendReply lib env cfg served request typ ip)) := by
  unfold sendReplyLocked sendReply
  cases lib.newReplyFromRequest request (replyModifiers cfg served typ) with
  | none => exact finish_ret () world
  | some reply => exact finish_transmit4Locked current _ ip

theorem finish_sendNakLocked (current : world.now = now) :
    finish locked (sendNakLocked lib served request) world (fun _ => calm env orders now pkt) =
      some ((), handled world world.server.leases (sendNak lib env served request)) := by
  unfold sendNakLocked sendNak
  cases lib.newReplyFromRequest request
      [.withMessageType .nak, .optServerIdentifier served.addr.asSlice] with
  | none => exact finish_ret () world
  | some reply => exact finish_transmit4Locked current reply _

theorem finish_replyToDiscoverLocked (current : world.now = now) :
    finish locked (replyToDiscoverLocked lib world.server.cfg served request) world
        (fun _ => calm env orders now pkt) =
      let result := replyToDiscover lib env orders now world.server served request
      some ((), handled world result.server.leases result.written) := by
  unfold replyToDiscoverLocked replyToDiscover selectIP
  rw [finish_bind_steady, finish_selectLocked current]
  dsimp only [Option.bind_some]
  split
  · rw [finish_sendReplyLocked (by exact current), handled_after]
  · rfl

theorem finish_replyToRequestLocked (current : world.now = now) :
    finish locked (replyToRequestLocked lib world.server.cfg served request) world
        (fun _ => calm env orders now pkt) =
      let result := replyToRequest lib env orders now world.server served request
      some ((), handled world result.server.leases result.written) := by
  unfold replyToRequestLocked replyToRequest selectIP
  cases wantedAddr request with
  | none => exact finish_sendNakLocked current
  | some want =>
      dsimp only
      rw [finish_bind_steady, finish_selectLocked current]
      dsimp only [Option.bind_some]
      split
      · rw [finish_sendNakLocked (by exact current), handled_after]
      · rw [finish_sendReplyLocked (by exact current), handled_after]

def handleRequest4 (lib : Library4) (env : Env) (orders : RangeOrders) (now : Int)
    (server : AddressServer) (served : Prefix) (request : DHCPv4) : Handled DHCPv4 :=
  match request.messageType with
  | .discover => replyToDiscover lib env orders now server served request
  | .request => replyToRequest lib env orders now server served request
  | .release => { consumed := true, server := handleRelease4 server request, written := [] }
  | .decline => { consumed := true, server := handleDecline4 now server request, written := [] }
  | _ => { consumed := true, server := server, written := [] }

theorem handleRequest4_consumed (server : AddressServer) :
    (handleRequest4 lib env orders now server served request).consumed = true := by
  unfold handleRequest4
  cases request.messageType with
  | request =>
      dsimp only [replyToRequest]
      cases wantedAddr request <;> rfl
  | _ => rfl

theorem finish_handleRequest4Locked (current : world.now = now) :
    finish locked (handleRequest4Locked lib world.server.cfg served request) world
        (fun _ => calm env orders now pkt) =
      let result := handleRequest4 lib env orders now world.server served request
      some ((), handled world result.server.leases result.written) := by
  unfold handleRequest4Locked handleRequest4
  cases request.messageType with
  | discover => exact finish_replyToDiscoverLocked current
  | request => exact finish_replyToRequestLocked current
  | release =>
      dsimp only [handleRelease4Locked, handleRelease4]
      cases addrFromSlice (to4 request.clientIPAddr) with
      | none => exact finish_ret () world
      | some ip => exact finish_call (.release ip) current nofun
  | decline =>
      dsimp only [handleDecline4Locked, handleDecline4]
      cases requestedAddr request with
      | none => exact finish_ret () world
      | some ip =>
          dsimp only
          rw [finish_read .timeNow current nofun rfl rfl]
          exact finish_last (.set _) current nofun
  | _ => exact finish_ret () world

theorem finish_handleFrame4Locked (current : world.now = now) :
    finish locked (handleFrame4Locked lib pkt) world (fun _ => calm env orders now pkt) =
      let result := handleFrame4 lib env orders now world.server pkt
      some (result.consumed, handled world result.server.leases result.written) := by
  unfold handleFrame4Locked handleFrame4 acceptedRequest
  dsimp only
  split
  · exact finish_ret false world
  · rw [finish_read .config current nofun rfl rfl, finish_read .v4 current nofun rfl rfl]
    change finish locked (answerFrame4Locked lib pkt world.server.cfg env.v4) world _ = _
    unfold answerFrame4Locked bootRequest
    cases env.v4 with
    | none => exact finish_ret true world
    | some served =>
        dsimp only
        split
        · exact finish_ret true world
        · cases lib.fromBytes pkt.payload with
          | none => exact finish_ret true world
          | some request =>
              rw [Option.filter_some]
              by_cases boots : request.opCode = .bootRequest
              · rw [if_pos (beq_iff_eq.mpr boots)]
                dsimp only
                rw [if_pos boots, finish_bind_steady, finish_handleRequest4Locked current]
                exact congrArg (fun flag => some (flag, _))
                  (handleRequest4_consumed world.server).symm
              · rw [if_neg (fun tested => boots (beq_iff_eq.mp tested))]
                dsimp only
                rw [if_neg boots]
                exact finish_ret true world

end Dhcp4

/-! ### The DHCPv6 handler -/

section Dhcp6

variable {lib : Library6} {cfg : DHCP6Config} {served : Prefix} {msg : DHCPv6}
  {duid : List UInt8} {world : ServerWorld DHCPv6}

def sentBuilt6 (env : Env) (pkt : Ingress) (finish : DHCPv6 → DHCPv6) :
    Option DHCPv6 → List (UdpFrame DHCPv6)
  | none => []
  | some reply => transmit6 env pkt (finish reply)

theorem finish_sendBuilt6 (current : world.now = now) (change : DHCPv6 → DHCPv6)
    (built : Option DHCPv6) :
    finish locked (sendBuilt6 pkt change built) world (fun _ => calm env orders now pkt) =
      some ((), handled world world.server.leases (sentBuilt6 env pkt change built)) := by
  cases built with
  | none => exact finish_ret () world
  | some reply =>
      dsimp only [sendBuilt6, sentBuilt6]
      unfold transmit6Locked transmit6
      rw [finish_read .linkLocal current nofun rfl rfl]
      by_cases valid : env.linkLocal.isValid = true
      · rw [if_pos valid]
        refine (congrArg (fun program => finish locked program world _) (if_pos valid)).trans ?_
        rw [finish_read .hardwareAddr current nofun rfl rfl]
        exact finish_last (.write _) current nofun
      · rw [if_neg valid]
        refine (congrArg (fun program => finish locked program world _) (if_neg valid)).trans ?_
        exact finish_ret () world

theorem finish_replyAddressLocked (current : world.now = now) (advertise : Bool) :
    finish locked (replyAddressLocked lib world.server.cfg served pkt msg duid advertise) world
        (fun _ => calm env orders now pkt) =
      let result := replyAddress lib env orders now world.server served pkt msg duid advertise
      some ((), handled world result.server.leases result.written) := by
  unfold replyAddressLocked replyAddress selectIP6
  rw [finish_bind_steady, finish_selectLocked current]
  dsimp only [Option.bind_some]
  split
  · rw [finish_read .hardwareAddr (by exact current) nofun rfl rfl,
      finish_sendBuilt6 (by exact current), handled_after]
    rfl
  · rfl

theorem finish_replyStatusLocked (current : world.now = now) :
    finish locked (replyStatusLocked lib pkt msg) world (fun _ => calm env orders now pkt) =
      some ((), handled world world.server.leases (replyStatus lib env pkt msg)) := by
  unfold replyStatusLocked
  rw [finish_read .hardwareAddr current nofun rfl rfl, finish_sendBuilt6 current]
  rfl

theorem finish_handleRelease6Locked (current : world.now = now) :
    finish locked (handleRelease6Locked lib pkt msg duid) world
        (fun _ => calm env orders now pkt) =
      some ((), handled world (handleRelease6 orders now world.server pkt duid).leases
        (replyStatus lib env pkt msg)) := by
  unfold handleRelease6Locked handleRelease6
  rw [finish_read (.byClient _ _) current (by intro same; cases same) rfl rfl]
  simp only [LockedOp.apply, calm_now, calm_orders]
  cases world.server.leases.byClient orders.leases now (hardwareAddrString pkt.srcMAC)
      (hexEncode duid) with
  | none => exact finish_replyStatusLocked current
  | some lease =>
      dsimp only
      rw [finish_call (.release lease.ip) current (by intro same; cases same)]
      dsimp only [LockedOp.apply, LockedOp.frames]
      rw [finish_replyStatusLocked (by exact current), handled_after]

def handleMessage6 (lib : Library6) (env : Env) (orders : RangeOrders) (now : Int)
    (server : AddressServer) (served : Prefix) (pkt : Ingress) (msg : DHCPv6)
    (duid : List UInt8) : Handled DHCPv6 :=
  match msg.messageType with
  | .solicit => replyAddress lib env orders now server served pkt msg duid true
  | .request => replyAddress lib env orders now server served pkt msg duid false
  | .renew => replyAddress lib env orders now server served pkt msg duid false
  | .rebind => replyAddress lib env orders now server served pkt msg duid false
  | .release =>
      { consumed := true
        server := handleRelease6 orders now server pkt duid
        written := replyStatus lib env pkt msg }
  | .informationRequest =>
      { consumed := true
        server := server
        written := replyInformation lib env server.cfg served pkt msg }
  | _ => { consumed := true, server := server, written := [] }

theorem finish_handleMessage6Locked (current : world.now = now) :
    finish locked (handleMessage6Locked lib world.server.cfg served pkt msg duid) world
        (fun _ => calm env orders now pkt) =
      let result := handleMessage6 lib env orders now world.server served pkt msg duid
      some ((), handled world result.server.leases result.written) := by
  unfold handleMessage6Locked handleMessage6
  cases msg.messageType with
  | solicit => exact finish_replyAddressLocked current true
  | request => exact finish_replyAddressLocked current false
  | renew => exact finish_replyAddressLocked current false
  | rebind => exact finish_replyAddressLocked current false
  | release => exact finish_handleRelease6Locked current
  | informationRequest =>
      dsimp only [replyInformationLocked]
      rw [finish_read .hardwareAddr current nofun rfl rfl, finish_sendBuilt6 current]
      rfl
  | _ => exact finish_ret () world

theorem finish_handleFrame6Locked (current : world.now = now) :
    finish locked (handleFrame6Locked lib pkt) world (fun _ => calm env orders now pkt) =
      let result := handleFrame6 lib env orders now world.server pkt
      some (result.consumed, handled world result.server.leases result.written) := by
  unfold handleFrame6Locked handleFrame6 acceptedMessage
  dsimp only
  split
  · exact finish_ret false world
  · rw [finish_read .config current nofun rfl rfl, finish_read .v6 current nofun rfl rfl]
    change finish locked (answerFrame6Locked lib pkt world.server.cfg env.v6) world _ = _
    unfold answerFrame6Locked clientMessage
    cases env.v6 with
    | none => exact finish_ret true world
    | some served =>
        dsimp only
        split
        · exact finish_ret true world
        · cases lib.fromBytes pkt.payload with
          | none => exact finish_ret true world
          | some decoded =>
              cases decoded with
              | relay => exact finish_ret true world
              | message msg =>
                  dsimp only
                  cases msg.clientID with
                  | none => exact finish_ret true world
                  | some duid =>
                      dsimp only [Option.map_some]
                      rw [finish_bind_steady, finish_handleMessage6Locked current]
                      unfold handleMessage6
                      dsimp only [Option.bind_some]
                      cases msg.messageType <;> rfl

end Dhcp6

end Calm

end BridgeDhcp.Server
