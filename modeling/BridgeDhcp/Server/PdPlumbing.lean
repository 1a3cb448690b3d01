/-
How an interface follows its delegation.

The client's goroutine calls `onPDChange`, which sets `pdAddr`, changes the address of
the served link and hands the network to the policy routing, each in a step of its own.
Between any two steps of the goroutine other parties act: `stop` is taken as far as its
next step, the mirror loop looks at the uplink, the watch loop wakes the client, and
the link is created, deleted, brought up or down, or otherwise changed.

The packet socket, the DNS forwarder and the loops that serve the link are left out:
they touch neither addresses nor routes.
-/

import BridgeDhcp.InteractionRefinement
import BridgeDhcp.Server.ComposePd
import BridgeDhcp.StepRun

set_option autoImplicit false

namespace BridgeDhcp.Server

open Netip GoTime Netlink Interaction StepRun

/-! ### State -/

/-- How far `stop` has come: it closes `done`, stops the client, reads `pdAddr`, looks
for the link, deletes the address there, and stops the policy routing. -/
inductive StopStage where
  | uncalled
  | closed
  | signalled
  | read (addr : Option Prefix)
  | located (addr : Prefix) (index : Int)
  | removed
  | finished
  deriving DecidableEq

structure Plumbed where
  pd : Pd.World
  /-- Calls of the client's methods that the goroutine has not met yet. -/
  calls : List Pd.ApiCall
  /-- None for the zero prefix. -/
  pdAddr : Option Prefix
  /-- The policy routing; nothing uses its state when there is none. -/
  host : PdRoute.Host
  /-- The addresses that `addAddr` put on a link, never read by the program. -/
  added : List (Int × Prefix)
  stop : StopStage
  /-- The link has changed and the watch loop was not told yet. -/
  unseen : Bool

section Steps

variable (cfg : IfaceConfig)

def onKernel (state : Plumbed) (change : Kernel → Kernel) : Plumbed :=
  { state with host := { state.host with kernel := change state.host.kernel } }

def routing (call : PdRoute.Call) (state : Plumbed) : Plumbed :=
  match cfg.routes with
  | none => state
  | some routes => { state with host := PdRoute.perform routes call state.host }

def servedLink (state : Plumbed) : Option Int := state.host.kernel.linkByName cfg.name

/-! ### Other parties -/

def stopStep (state : Plumbed) : Plumbed :=
  match state.stop with
  | .uncalled => { state with stop := .closed }
  | .closed => { state with calls := state.calls ++ [.stop], stop := .signalled }
  | .signalled => { state with stop := .read state.pdAddr }
  | .read none => { state with stop := .removed }
  | .read (some addr) =>
      match servedLink cfg state with
      | none => { state with stop := .removed }
      | some index => { state with stop := .located addr index }
  | .located addr index =>
      { onKernel state (fun kernel => kernel.addrDel index addr) with stop := .removed }
  | .removed => { routing cfg .stop state with stop := .finished }
  | .finished => state

inductive Other where
  | stop
  /-- A turn of the mirror loop of the policy routing. -/
  | resync
  /-- A turn of `watchLoop`. -/
  | watch
  | create (index : Int)
  | raise
  | lower
  | delete
  /-- The kernel's state is changed in some other way. -/
  | change (after : Kernel)

/-- The kernel changes the served link, if there is one. -/
def onLink (state : Plumbed) (change : Kernel → Int → Kernel) : Plumbed :=
  match servedLink cfg state with
  | none => state
  | some index => { onKernel state (fun kernel => change kernel index) with unseen := true }

def otherStep (state : Plumbed) : Other → Plumbed
  | .stop => stopStep cfg state
  | .resync => routing cfg .resync state
  | .watch => { state with calls := state.calls ++ [.wakeup], unseen := false }
  | .create index =>
      if (servedLink cfg state).isSome = true then state
      else { onKernel state (fun kernel => kernel.linkAdd cfg.name index) with unseen := true }
  | .raise => onLink cfg state Kernel.linkSetUp
  | .lower => onLink cfg state Kernel.linkSetDown
  | .delete => onLink cfg state (fun kernel _ => kernel.linkDel cfg.name)
  | .change after => onKernel state (fun _ => after)

/-! ### The callback -/

inductive PlumbOp where
  | setAddr (addr : Option Prefix)
  | takeAddr
  | linkByName
  | addrAdd (index : Int) (net : Prefix)
  | addrDel (index : Int) (net : Prefix)
  | install (net : Prefix)
  | clear

@[reducible]
def PlumbOp.Answer : PlumbOp → Type
  | .takeAddr => Option Prefix
  | .linkByName => Option Int
  | _ => Unit

/-- What the process has added is noted when the kernel did not have it before. -/
def addressed (index : Int) (net : Prefix) (state : Plumbed) : Plumbed :=
  let after := state.host.kernel.addrAdd index net
  { onKernel state (fun _ => after) with
    added :=
      if after.hasAddr index net && !state.host.kernel.hasAddr index net then
        (index, net) :: state.added
      else state.added }

def plumbAnswer (state : Plumbed) : (op : PlumbOp) → op.Answer × Plumbed
  | .setAddr addr => ((), { state with pdAddr := addr })
  | .takeAddr => (state.pdAddr, { state with pdAddr := none })
  | .linkByName => (servedLink cfg state, state)
  | .addrAdd index net => ((), addressed index net state)
  | .addrDel index net => ((), onKernel state (fun kernel => kernel.addrDel index net))
  | .install net => ((), routing cfg (.install net) state)
  | .clear => ((), routing cfg .clear state)

def plumbHandle (state : Plumbed) (others : List Other) (op : PlumbOp) :
    Option (op.Answer × Plumbed) :=
  some (plumbAnswer cfg (run (otherStep cfg) state others) op)

abbrev Plumbing := Prog PlumbOp PlumbOp.Answer

abbrev plumb (op : PlumbOp) : Plumbing op.Answer := Prog.perform op

def addAddrOn (net : Prefix) : Option Int → Plumbing Unit
  | none => pure ()
  | some index => plumb (.addrAdd index net)

def addAddr (net : Prefix) : Plumbing Unit := plumb .linkByName >>= addAddrOn net

def removeAddrOn (net : Prefix) : Option Int → Plumbing Unit
  | none => pure ()
  | some index => plumb (.addrDel index net)

def removeAddr (net : Prefix) : Plumbing Unit := plumb .linkByName >>= removeAddrOn net

def gainPrefix : Option Prefix → Plumbing Unit
  | none => plumb (.setAddr none)
  | some addr => do
      plumb (.setAddr (some addr))
      addAddr addr
      plumb (.install addr.masked)

def removeServed : Option Prefix → Plumbing Unit
  | none => pure ()
  | some net => removeAddr net

def losePrefix : Plumbing Unit := do
  let addr ← plumb .takeAddr
  plumb .clear
  removeServed addr

def onPDChange (pd : PDConfig) (delegated : Option Prefix) (ok : Bool) : Plumbing Unit :=
  if ok then gainPrefix (composePD pd delegated) else losePrefix

/-! ### The client's goroutine -/

/-- What one operation of the goroutine meets.  While a callback runs, others act
before each of its steps. -/
structure Turn where
  others : List Other
  moment : Pd.Moment
  within : Nat → List Other

def reported (state : Plumbed) (turn : Turn) (op : Pd.Op) : Option (op.Answer × Plumbed) :=
  let begun := run (otherStep cfg) state turn.others
  (Pd.handle begun.pd { turn.moment with calls := begun.calls ++ turn.moment.calls } op).map
    (fun result => (result.1, { begun with pd := result.2, calls := [] }))

def calledBack (pd : PDConfig) (within : Nat → List Other) (state : Plumbed) :
    Pd.Op → Option Plumbed
  | .callback net ok =>
      (finish (plumbHandle cfg) (onPDChange pd (some net) ok) state within).map Prod.snd
  | _ => some state

def clientHandle (pd : PDConfig) (state : Plumbed) (turn : Turn) (op : Pd.Op) :
    Option (op.Answer × Plumbed) :=
  (reported cfg state turn op).bind (fun result =>
    (calledBack cfg pd turn.within result.2 op).map (fun after => (result.1, after)))

/-! ### Start -/

/-- A delegation as it is read from disk; the prefix may be the zero one. -/
structure PersistedPD where
  net : Option Prefix
  boundAt : Instant
  expiresAt : Instant
  deriving DecidableEq

/-- `Client.Restore`, which reads the clock only for a valid prefix. -/
def PersistedPD.restore (saved : PersistedPD) (client : Pd.Client) (now : Instant) : Pd.Client :=
  match saved.net with
  | none => client
  | some net =>
      client.restore { net := net, boundAt := saved.boundAt, expiresAt := saved.expiresAt } now

def newIface (kernel : Kernel) (clock : Instant) : Plumbed where
  pd := Pd.World.start Pd.Client.new clock
  calls := []
  pdAddr := none
  host := ⟨kernel, PdRoute.new⟩
  added := []
  stop := .uncalled
  unseen := false

/-- The two times that `restore` reads the clock, and what others do while it
runs. -/
structure RestoreTurn where
  first : Instant
  second : Instant
  within : Nat → List Other

def seeded (turn : RestoreTurn) (saved : PersistedPD) (state : Plumbed) : Plumbed :=
  { state with
    pd := { state.pd with client := saved.restore state.pd.client turn.first } }

def restore (pd : PDConfig) (turn : RestoreTurn) (saved : Option PersistedPD)
    (state : Plumbed) : Plumbed :=
  match saved with
  | none => state
  | some saved =>
      if turn.second < saved.expiresAt then
        ((finish (plumbHandle cfg) (onPDChange pd saved.net true) (seeded turn saved state)
          turn.within).map Prod.snd).getD (seeded turn saved state)
      else seeded turn saved state

def launch (pd : PDConfig) (kernel : Kernel) (clock : Instant) (turn : RestoreTurn)
    (saved : Option PersistedPD) : Plumbed :=
  routing cfg .start (restore cfg pd turn saved (newIface kernel clock))

end Steps

end BridgeDhcp.Server
