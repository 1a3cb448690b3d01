/-
The packet socket of an interface, from attachment to teardown.

`runLoop` opens a socket, stores it in the interface, reads from it until that fails and
closes it; `stop` takes the stored socket and closes it as well; every sender reads the
stored socket and then writes to it.  None of them holds a lock while it uses a
descriptor, and the kernel gives a closed descriptor's number away again.
-/

import BridgeDhcp.StepRun
import Mathlib.Logic.Function.Basic
import Mathlib.Tactic.Common

set_option autoImplicit false

namespace BridgeDhcp.Attachment

open StepRun

/-! ### The goroutines -/

abbrev Conn := Nat

inductive Owner where
  | conn (conn : Conn)
  | other
  deriving DecidableEq, Repr

inductive AccessKind where
  | recvfrom
  | sendto
  | close
  deriving DecidableEq, Repr

/-- A system call on the descriptor of a socket: whether the socket was closed before,
and whose descriptor the number is now. -/
structure Access where
  conn : Conn
  kind : AccessKind
  closedBefore : Bool
  hit : Option Owner
  deriving DecidableEq, Repr

inductive Runner where
  | checking
  | looking
  | opening
  | storing (conn : Conn)
  | reading (conn : Conn)
  | leaving (conn : Conn)
  | closing (conn : Conn)
  | sleeping
  | returned
  deriving DecidableEq, Repr

def Runner.conn : Runner → Option Conn
  | .storing conn => some conn
  | .reading conn => some conn
  | .leaving conn => some conn
  | .closing conn => some conn
  | _ => none

/-- `runLoop` may open a socket without looking at `done` again. -/
def Runner.committed : Runner → Bool
  | .looking => true
  | .opening => true
  | _ => false

/-- Where `stop` stands; it has taken the stored socket. -/
inductive Stopper where
  | idle
  | signalled
  | taken (conn : Option Conn)
  | finished
  deriving DecidableEq, Repr

structure World where
  done : Bool
  /-- The field `conn`. -/
  stored : Option Conn
  opened : Nat
  fdOf : Conn → Nat
  closed : Conn → Bool
  fds : Nat → Option Owner
  runner : Runner
  stopper : Stopper
  /-- The socket that each sender has read and not used yet. -/
  holding : Nat → Option Conn
  /-- The newest first. -/
  accesses : List Access
  /-- Sockets opened when `done` was closed already. -/
  late : Nat

structure Turn where
  present : Bool
  /-- The descriptor that `Open` gets, absent if it fails. -/
  fd : Option Nat
  received : Bool
  timer : Bool

inductive Input where
  | run (turn : Turn)
  | stop
  | grab (sender : Nat)
  | send (sender : Nat)
  | otherOpens (fd : Nat)
  | otherCloses (fd : Nat)

namespace World

def start (fds : Nat → Bool) : World where
  done := false
  stored := none
  opened := 0
  fdOf _ := 0
  closed _ := false
  fds fd := if fds fd then some .other else none
  runner := .checking
  stopper := .idle
  holding _ := none
  accesses := []
  late := 0

def access (world : World) (conn : Conn) (kind : AccessKind) : World :=
  { world with
    accesses := ⟨conn, kind, world.closed conn, world.fds (world.fdOf conn)⟩ :: world.accesses }

/-- `Close`, under the lock of the socket: only the first call does anything. -/
def close (world : World) (conn : Conn) : World :=
  if world.closed conn then world
  else
    { world.access conn .close with
      closed := Function.update world.closed conn true
      fds := Function.update world.fds (world.fdOf conn) none }

/-- `Open` returns a socket on an unused descriptor. -/
def attach (world : World) (fd : Nat) : World :=
  { world with
    opened := world.opened + 1
    fdOf := Function.update world.fdOf world.opened fd
    closed := Function.update world.closed world.opened false
    fds := Function.update world.fds fd (some (.conn world.opened))
    late := if world.done then world.late + 1 else world.late
    runner := .storing world.opened }

def run (world : World) (turn : Turn) : World :=
  match world.runner with
  | .checking => { world with runner := if world.done then .returned else .looking }
  | .looking => { world with runner := if turn.present then .opening else .sleeping }
  | .opening =>
      match turn.fd with
      | none => { world with runner := .sleeping }
      | some fd => if world.fds fd = none then world.attach fd else world
  | .storing conn => { world with stored := some conn, runner := .reading conn }
  | .reading conn =>
      -- a descriptor that nobody has gives EBADF
      { world.access conn .recvfrom with
        runner := if turn.received = true ∧ world.fds (world.fdOf conn) ≠ none then .reading conn
          else .leaving conn }
  | .leaving conn =>
      { world with
        stored := if world.stored = some conn then none else world.stored
        runner := .closing conn }
  | .closing conn => { world.close conn with runner := .checking }
  | .sleeping =>
      if turn.timer then { world with runner := .checking }
      else if world.done then { world with runner := .returned } else world
  | .returned => world

def stop (world : World) : World :=
  match world.stopper with
  | .idle => { world with done := true, stopper := .signalled }
  | .signalled => { world with stored := none, stopper := .taken world.stored }
  | .taken none => { world with stopper := .finished }
  | .taken (some conn) => { world.close conn with stopper := .finished }
  | .finished => world

def send (world : World) (sender : Nat) : World :=
  match world.holding sender with
  | none => world
  | some conn =>
      { world.access conn .sendto with holding := Function.update world.holding sender none }

def step (world : World) : Input → World
  | .run turn => world.run turn
  | .stop => world.stop
  | .grab sender => { world with holding := Function.update world.holding sender world.stored }
  | .send sender => world.send sender
  | .otherOpens fd =>
      if world.fds fd = none then
        { world with fds := Function.update world.fds fd (some .other) }
      else world
  | .otherCloses fd =>
      if world.fds fd = some .other then { world with fds := Function.update world.fds fd none }
      else world

end World

/-! ### Descriptors -/

/-- The call is on the descriptor of its socket, or the socket was closed before. -/
def Access.Sound (access : Access) : Prop :=
  access.hit = some (.conn access.conn) ∨ access.closedBefore = true ∧ access.kind ≠ .close

def Access.closes (conn : Conn) (access : Access) : Bool :=
  access.kind == .close && access.conn == conn

structure Descriptors (world : World) : Prop where
  /-- An open socket has its descriptor. -/
  own : ∀ conn, conn < world.opened → world.closed conn = false →
    world.fds (world.fdOf conn) = some (.conn conn)
  sound : ∀ access ∈ world.accesses, access.Sound
  once : ∀ conn, world.accesses.countP (Access.closes conn) =
    (decide (conn < world.opened) && world.closed conn).toNat

structure SameSockets (world after : World) : Prop where
  opened : after.opened = world.opened
  fdOf : after.fdOf = world.fdOf
  closed : after.closed = world.closed
  fds : after.fds = world.fds
  accesses : after.accesses = world.accesses

theorem Descriptors.of_same {world after : World} (before : Descriptors world)
    (same : SameSockets world after) : Descriptors after := by
  obtain ⟨opened, fdOf, closed, fds, accesses⟩ := same
  constructor
  · rw [opened, fdOf, closed, fds]
    exact before.own
  · rw [accesses]
    exact before.sound
  · rw [accesses, opened, closed]
    exact before.once

section Descriptors

variable {world : World} {conn : Conn}

theorem Descriptors.access (before : Descriptors world) (known : conn < world.opened)
    {kind : AccessKind} (uses : kind ≠ .close) : Descriptors (world.access conn kind) := by
  have here : Access.Sound ⟨conn, kind, world.closed conn, world.fds (world.fdOf conn)⟩ := by
    cases shut : world.closed conn with
    | true => exact Or.inr ⟨rfl, uses⟩
    | false => exact Or.inl (before.own conn known shut)
  have ignored (other : Conn) : ¬ Access.closes other
      ⟨conn, kind, world.closed conn, world.fds (world.fdOf conn)⟩ = true := by
    unfold Access.closes
    rw [beq_false_of_ne uses]
    exact Bool.false_ne_true
  constructor
  · exact before.own
  · intro access member
    rcases List.mem_cons.mp member with same | earlier
    · rw [same]
      exact here
    · exact before.sound access earlier
  · intro other
    have counted :=
      @List.countP_cons_of_neg _ (Access.closes other) _ world.accesses (ignored other)
    exact counted.trans (before.once other)

theorem Descriptors.close (before : Descriptors world) (known : conn < world.opened) :
    Descriptors (world.close conn) := by
  unfold World.close
  cases shut : world.closed conn with
  | true =>
      rw [if_pos rfl]
      exact before
  | false =>
      rw [if_neg Bool.false_ne_true]
      have mine := before.own conn known shut
      constructor
      · intro other otherKnown otherOpen
        change Function.update world.closed conn true other = false at otherOpen
        change Function.update world.fds (world.fdOf conn) none (world.fdOf other) = _
        have different : other ≠ conn := by
          intro same
          rw [same, Function.update_self] at otherOpen
          cases otherOpen
        rw [Function.update_of_ne different] at otherOpen
        have theirs := before.own other otherKnown otherOpen
        have apart : world.fdOf other ≠ world.fdOf conn := by
          intro same
          rw [same, mine] at theirs
          cases theirs
          exact different rfl
        rw [Function.update_of_ne apart]
        exact theirs
      · intro access member
        rcases List.mem_cons.mp member with same | earlier
        · rw [same]
          exact Or.inl mine
        · exact before.sound access earlier
      · intro other
        have once := before.once other
        by_cases same : other = conn
        · rw [same] at once ⊢
          rw [shut, Bool.and_false] at once
          have closing : Access.closes conn
              ⟨conn, .close, world.closed conn, world.fds (world.fdOf conn)⟩ = true := by
            unfold Access.closes
            rw [beq_self_eq_true, beq_self_eq_true]
            rfl
          have counted := @List.countP_cons_of_pos _ (Access.closes conn) _ world.accesses closing
          rw [once] at counted
          change _ = (decide (conn < world.opened) &&
            Function.update world.closed conn true conn).toNat
          rw [Function.update_self, decide_eq_true known]
          exact counted
        · have ignored : ¬ Access.closes other
              ⟨conn, .close, world.closed conn, world.fds (world.fdOf conn)⟩ = true := by
            unfold Access.closes
            rw [beq_false_of_ne (Ne.symm same), Bool.and_false]
            exact Bool.false_ne_true
          have counted := @List.countP_cons_of_neg _ (Access.closes other) _ world.accesses ignored
          change _ = (decide (other < world.opened) &&
            Function.update world.closed conn true other).toNat
          rw [Function.update_of_ne same]
          exact counted.trans once

theorem Descriptors.attach (before : Descriptors world) {fd : Nat} (unused : world.fds fd = none) :
    Descriptors (world.attach fd) := by
  constructor
  · intro other known isOpen
    change other < world.opened + 1 at known
    change Function.update world.closed world.opened false other = false at isOpen
    change Function.update world.fds fd _ (Function.update world.fdOf world.opened fd other) = _
    by_cases same : other = world.opened
    · rw [same, Function.update_self, Function.update_self]
    · rw [Function.update_of_ne same] at isOpen ⊢
      have theirs := before.own other (by omega) isOpen
      have apart : world.fdOf other ≠ fd := by
        intro equal
        rw [equal, unused] at theirs
        cases theirs
      rw [Function.update_of_ne apart]
      exact theirs
  · exact before.sound
  · intro other
    have once := before.once other
    change world.accesses.countP (Access.closes other) = (decide (other < world.opened + 1) &&
      Function.update world.closed world.opened false other).toNat
    by_cases same : other = world.opened
    · rw [same] at once ⊢
      rw [Function.update_self, Bool.and_false]
      rw [decide_eq_false (Nat.lt_irrefl world.opened)] at once
      exact once
    · rw [Function.update_of_ne same, once]
      have order : other < world.opened + 1 ↔ other < world.opened := by
        rw [Nat.lt_succ_iff_lt_or_eq]
        exact or_iff_left same
      rw [decide_eq_decide.mpr order]

theorem Descriptors.others (before : Descriptors world) {fd : Nat} {owner : Option Owner}
    (notOurs : ∀ conn, world.fds fd ≠ some (.conn conn)) :
    Descriptors { world with fds := Function.update world.fds fd owner } := by
  refine ⟨?_, before.sound, before.once⟩
  intro conn known isOpen
  have mine := before.own conn known isOpen
  change Function.update world.fds fd owner (world.fdOf conn) = _
  have apart : world.fdOf conn ≠ fd := by
    intro same
    rw [same] at mine
    exact notOurs conn mine
  rw [Function.update_of_ne apart]
  exact mine

end Descriptors

/-! ### Where the goroutines stand -/

structure Phases (world : World) : Prop where
  /-- The only open socket is the one that `runLoop` has in hand. -/
  current : ∀ conn, conn < world.opened → world.closed conn = false → world.runner.conn = some conn
  known : ∀ conn, world.runner.conn = some conn → conn < world.opened
  storing : ∀ conn, world.runner = .storing conn → world.closed conn = false
  stored : ∀ conn, world.stored = some conn →
    world.closed conn = false ∧ (world.runner = .reading conn ∨ world.runner = .leaving conn)
  taken : ∀ conn, world.stopper = .taken (some conn) →
    conn < world.opened ∧ world.stored ≠ some conn ∧ world.runner ≠ .storing conn
  held : ∀ sender conn, world.holding sender = some conn → conn < world.opened
  late : if world.done then world.late + world.runner.committed.toNat ≤ 1 else world.late = 0

section Phases

variable {world : World}

theorem Phases.stored_known (phases : Phases world) {conn : Conn}
    (stored : world.stored = some conn) : conn < world.opened := by
  apply phases.known
  rcases (phases.stored conn stored).2 with reading | leaving
  · rw [reading]
    rfl
  · rw [leaving]
    rfl

theorem Phases.access (before : Phases world) (conn : Conn) (kind : AccessKind) :
    Phases (world.access conn kind) :=
  ⟨before.current, before.known, before.storing, before.stored, before.taken, before.held,
    before.late⟩

theorem Phases.move (before : Phases world) {next : Runner} {stored : Option Conn}
    (same : next.conn = world.runner.conn) (notStoring : ∀ conn, next ≠ .storing conn)
    (keeps : ∀ conn, stored = some conn →
      world.closed conn = false ∧ (next = .reading conn ∨ next = .leaving conn))
    (untaken : ∀ conn, world.stopper = .taken (some conn) → stored ≠ some conn)
    (commits : world.done = true → next.committed.toNat ≤ world.runner.committed.toNat) :
    Phases { world with stored := stored, runner := next } := by
  constructor
  · intro conn known isOpen
    exact same.trans (before.current conn known isOpen)
  · intro conn has
    exact before.known conn (same.symm.trans has)
  · intro conn storing
    exact absurd storing (notStoring conn)
  · exact keeps
  · intro conn taken
    exact ⟨(before.taken conn taken).1, untaken conn taken, notStoring conn⟩
  · exact before.held
  · have late := before.late
    dsimp only
    cases signalled : world.done with
    | true =>
        rw [signalled, if_pos rfl] at late
        rw [if_pos rfl]
        have fewer := commits signalled
        omega
    | false =>
        rw [signalled, if_neg Bool.false_ne_true] at late
        rw [if_neg Bool.false_ne_true]
        exact late

theorem Phases.untaken (phases : Phases world) (conn : Conn)
    (taken : world.stopper = .taken (some conn)) : world.stored ≠ some conn :=
  (phases.taken conn taken).2.1

theorem Phases.not_stored (phases : Phases world)
    (notReading : ∀ conn, world.runner ≠ .reading conn)
    (notLeaving : ∀ conn, world.runner ≠ .leaving conn) : world.stored = none := by
  cases stored : world.stored with
  | none => rfl
  | some conn =>
      rcases (phases.stored conn stored).2 with reading | leaving
      · exact absurd reading (notReading conn)
      · exact absurd leaving (notLeaving conn)

theorem Phases.stored_none (phases : Phases world) (idle : world.runner.conn = none) :
    world.stored = none := by
  apply phases.not_stored
  · intro conn reading
    rw [reading] at idle
    cases idle
  · intro conn leaving
    rw [leaving] at idle
    cases idle

theorem Phases.move_idle (before : Phases world) {next : Runner} (idle : world.runner.conn = none)
    (nothing : next.conn = none)
    (commits : world.done = true → next.committed.toNat ≤ world.runner.committed.toNat) :
    Phases { world with runner := next } := by
  refine before.move (nothing.trans idle.symm) ?_ ?_ before.untaken commits
  · intro conn same
    rw [same] at nothing
    cases nothing
  · intro conn stored
    rw [before.stored_none idle] at stored
    cases stored

theorem World.close_closed (world : World) (conn : Conn) :
    (world.close conn).closed = Function.update world.closed conn true := by
  unfold World.close
  split
  · next shut => rw [← shut, Function.update_eq_self]
  · rfl

theorem World.close_frame (world : World) (conn : Conn) :
    (world.close conn).opened = world.opened ∧ (world.close conn).stored = world.stored ∧
      (world.close conn).runner = world.runner ∧ (world.close conn).stopper = world.stopper ∧
      (world.close conn).holding = world.holding ∧ (world.close conn).done = world.done ∧
      (world.close conn).late = world.late := by
  unfold World.close
  split
  · exact ⟨rfl, rfl, rfl, rfl, rfl, rfl, rfl⟩
  · exact ⟨rfl, rfl, rfl, rfl, rfl, rfl, rfl⟩

theorem World.open_of_close {world : World} {conn other : Conn}
    (isOpen : (world.close conn).closed other = false) :
    other ≠ conn ∧ world.closed other = false := by
  rw [World.close_closed] at isOpen
  by_cases same : other = conn
  · rw [same, Function.update_self] at isOpen
    cases isOpen
  · rw [Function.update_of_ne same] at isOpen
    exact ⟨same, isOpen⟩

theorem World.close_of_open {world : World} {conn other : Conn} (different : other ≠ conn)
    (isOpen : world.closed other = false) : (world.close conn).closed other = false := by
  rw [World.close_closed, Function.update_of_ne different]
  exact isOpen

theorem Phases.close (before : Phases world) {conn : Conn} (notStored : world.stored ≠ some conn)
    (notStoring : world.runner ≠ .storing conn) : Phases (world.close conn) := by
  obtain ⟨opened, stored, runner, stopper, holding, done, late⟩ := world.close_frame conn
  constructor
  · intro other known isOpen
    rw [opened] at known
    rw [runner]
    exact before.current other known (World.open_of_close isOpen).2
  · rw [runner, opened]
    exact before.known
  · intro other storing
    rw [runner] at storing
    apply World.close_of_open _ (before.storing other storing)
    intro same
    exact notStoring (same ▸ storing)
  · intro other isStored
    rw [stored] at isStored
    rw [runner]
    obtain ⟨isOpen, phase⟩ := before.stored other isStored
    refine ⟨World.close_of_open ?_ isOpen, phase⟩
    intro same
    exact notStored (same ▸ isStored)
  · rw [stopper, opened, stored, runner]
    exact before.taken
  · rw [holding, opened]
    exact before.held
  · rw [done, late, runner]
    exact before.late

end Phases

/-! ### Every step -/

structure Attached (world : World) : Prop where
  descriptors : Descriptors world
  phases : Phases world

section Steps

variable {world : World}

theorem attached_attach (before : Attached world) (opening : world.runner = .opening) {fd : Nat}
    (unused : world.fds fd = none) : Attached (world.attach fd) := by
  have phases := before.phases
  have idle : world.runner.conn = none := by rw [opening]; rfl
  have nothing := phases.stored_none idle
  refine ⟨before.descriptors.attach unused, ?_⟩
  constructor
  · intro conn known isOpen
    change conn < world.opened + 1 at known
    change Function.update world.closed world.opened false conn = false at isOpen
    change some world.opened = some conn
    by_cases same : conn = world.opened
    · rw [same]
    · rw [Function.update_of_ne same] at isOpen
      have earlier := phases.current conn
        (Nat.lt_of_le_of_ne (Nat.le_of_lt_succ known) same) isOpen
      rw [idle] at earlier
      cases earlier
  · intro conn has
    cases has
    exact Nat.lt_succ_self world.opened
  · intro conn storing
    cases storing
    exact Function.update_self world.opened false world.closed
  · intro conn stored
    change world.stored = some conn at stored
    rw [nothing] at stored
    cases stored
  · intro conn taken
    obtain ⟨known, notStored, _⟩ := phases.taken conn taken
    refine ⟨Nat.lt_succ_of_lt known, notStored, ?_⟩
    intro storing
    cases storing
    exact Nat.lt_irrefl _ known
  · intro sender conn holds
    exact Nat.lt_succ_of_lt (phases.held sender conn holds)
  · have late := phases.late
    rw [opening] at late
    change if world.done then (if world.done then world.late + 1 else world.late) + 0 ≤ 1
      else (if world.done then world.late + 1 else world.late) = 0
    cases signalled : world.done with
    | true =>
        rw [signalled] at late
        exact late
    | false =>
        rw [signalled] at late
        exact late

theorem attached_move {next : Runner} {stored : Option Conn} (before : Attached world)
    (phases : Phases { world with stored := stored, runner := next }) :
    Attached { world with stored := stored, runner := next } :=
  ⟨before.descriptors.of_same ⟨rfl, rfl, rfl, rfl, rfl⟩, phases⟩

theorem attached_idle {next : Runner} (before : Attached world) (idle : world.runner.conn = none)
    (nothing : next.conn = none)
    (commits : world.done = true → next.committed.toNat ≤ world.runner.committed.toNat) :
    Attached { world with runner := next } :=
  attached_move before (before.phases.move_idle idle nothing commits)

theorem attached_store (before : Attached world) {conn : Conn}
    (stage : world.runner = .storing conn) :
    Attached { world with stored := some conn, runner := .reading conn } := by
  have phases := before.phases
  apply attached_move before
  apply phases.move
  · rw [stage]
    rfl
  · intro other impossible
    cases impossible
  · intro other stored
    cases stored
    exact ⟨phases.storing conn stage, Or.inl rfl⟩
  · intro other taken same
    cases same
    exact (phases.taken conn taken).2.2 stage
  · intro _
    exact Nat.zero_le _

theorem stored_of_reading (phases : Phases world) {conn other : Conn}
    (stage : world.runner = .reading conn) (stored : world.stored = some other) : other = conn := by
  rcases (phases.stored other stored).2 with reading | leaving
  · rw [stage] at reading
    cases reading
    rfl
  · rw [stage] at leaving
    cases leaving

theorem attached_read (before : Attached world) {conn : Conn} (stage : world.runner = .reading conn)
    (more : Prop) [Decidable more] :
    Attached { world.access conn .recvfrom with
      runner := if more then .reading conn else .leaving conn } := by
  have hand : world.runner.conn = some conn := by rw [stage]; rfl
  have known := before.phases.known conn hand
  have used : Attached (world.access conn .recvfrom) :=
    ⟨before.descriptors.access known (by decide), before.phases.access conn .recvfrom⟩
  apply attached_move used
  apply used.phases.move
  · split
    · exact hand.symm
    · exact hand.symm
  · intro other
    split
    · exact fun impossible => by cases impossible
    · exact fun impossible => by cases impossible
  · intro other stored
    refine ⟨(before.phases.stored other stored).1, ?_⟩
    rw [stored_of_reading before.phases stage stored]
    split
    · exact Or.inl rfl
    · exact Or.inr rfl
  · exact used.phases.untaken
  · intro _
    split
    · exact Nat.zero_le _
    · exact Nat.zero_le _

theorem nothing_stored (phases : Phases world) {conn : Conn}
    (stage : world.runner = .leaving conn) :
    (if world.stored = some conn then none else world.stored) = none := by
  split
  · rfl
  · next different =>
      cases stored : world.stored with
      | none => rfl
      | some other =>
          rcases (phases.stored other stored).2 with reading | leaving
          · rw [stage] at reading
            cases reading
          · rw [stage] at leaving
            cases leaving
            exact absurd stored different

theorem attached_leave (before : Attached world) {conn : Conn}
    (stage : world.runner = .leaving conn) :
    Attached { world with stored := none, runner := .closing conn } := by
  apply attached_move before
  apply before.phases.move
  · rw [stage]
    rfl
  · intro other impossible
    cases impossible
  · intro other impossible
    cases impossible
  · intro other _ impossible
    cases impossible
  · intro _
    exact Nat.zero_le _

theorem attached_close (before : Attached world) {conn : Conn}
    (stage : world.runner = .closing conn) :
    Attached { world.close conn with runner := .checking } := by
  have phases := before.phases
  have hand : world.runner.conn = some conn := by rw [stage]; rfl
  have nothing : world.stored = none := by
    apply phases.not_stored
    · intro other reading
      rw [stage] at reading
      cases reading
    · intro other leaving
      rw [stage] at leaving
      cases leaving
  have notStored : world.stored ≠ some conn := by
    rw [nothing]
    intro impossible
    cases impossible
  have notStoring : world.runner ≠ .storing conn := by
    rw [stage]
    intro impossible
    cases impossible
  have shut := phases.close notStored notStoring
  obtain ⟨opened, stored, runner, stopper, holding, done, late⟩ := world.close_frame conn
  refine ⟨(before.descriptors.close (phases.known conn hand)).of_same ⟨rfl, rfl, rfl, rfl, rfl⟩, ?_⟩
  constructor
  · intro other known isOpen
    have inHand := shut.current other known isOpen
    rw [runner, hand] at inHand
    cases inHand
    exact absurd rfl (World.open_of_close isOpen).1
  · intro other impossible
    cases impossible
  · intro other impossible
    cases impossible
  · intro other impossible
    change (world.close conn).stored = some other at impossible
    rw [stored, nothing] at impossible
    cases impossible
  · intro other taken
    obtain ⟨known, otherStored, _⟩ := shut.taken other taken
    refine ⟨known, otherStored, ?_⟩
    intro impossible
    cases impossible
  · exact shut.held
  · have count := shut.late
    rw [runner, stage] at count
    exact count

theorem attached_run (before : Attached world) (turn : Turn) : Attached (world.run turn) := by
  have none_le (next : Runner) (free : next.committed = false) :
      world.done = true → next.committed.toNat ≤ world.runner.committed.toNat := by
    intro _
    rw [free]
    exact Nat.zero_le _
  unfold World.run
  cases stage : world.runner with
  | checking =>
      have idle : world.runner.conn = none := by rw [stage]; rfl
      dsimp only
      split
      · exact attached_idle before idle rfl (none_le .returned rfl)
      · next running =>
          exact attached_idle before idle rfl (fun signalled => absurd signalled running)
  | looking =>
      have idle : world.runner.conn = none := by rw [stage]; rfl
      dsimp only
      split
      · apply attached_idle before idle rfl
        intro _
        rw [stage]
        exact Nat.le_refl 1
      · exact attached_idle before idle rfl (none_le .sleeping rfl)
  | opening =>
      have idle : world.runner.conn = none := by rw [stage]; rfl
      dsimp only
      cases turn.fd with
      | none => exact attached_idle before idle rfl (none_le .sleeping rfl)
      | some fd =>
          dsimp only
          split
          · next unused => exact attached_attach before stage unused
          · exact before
  | storing conn => exact attached_store before stage
  | reading conn => exact attached_read before stage _
  | leaving conn =>
      dsimp only
      rw [nothing_stored before.phases stage]
      exact attached_leave before stage
  | closing conn => exact attached_close before stage
  | sleeping =>
      have idle : world.runner.conn = none := by rw [stage]; rfl
      dsimp only
      split
      · exact attached_idle before idle rfl (none_le .checking rfl)
      · split
        · exact attached_idle before idle rfl (none_le .returned rfl)
        · exact before
  | returned => exact before

theorem attached_finish (before : Attached world) :
    Attached { world with stopper := .finished } := by
  have phases := before.phases
  refine ⟨before.descriptors.of_same ⟨rfl, rfl, rfl, rfl, rfl⟩, ?_⟩
  refine ⟨phases.current, phases.known, phases.storing, phases.stored, ?_, phases.held,
    phases.late⟩
  intro conn impossible
  cases impossible

theorem attached_stop (before : Attached world) : Attached world.stop := by
  have phases := before.phases
  unfold World.stop
  cases stage : world.stopper with
  | idle =>
      refine ⟨before.descriptors.of_same ⟨rfl, rfl, rfl, rfl, rfl⟩, ?_⟩
      refine ⟨phases.current, phases.known, phases.storing, phases.stored, ?_, phases.held, ?_⟩
      · intro conn impossible
        cases impossible
      · have late := phases.late
        change world.late + world.runner.committed.toNat ≤ 1
        have commits : world.runner.committed.toNat ≤ 1 := Bool.toNat_le _
        split at late
        · exact late
        · omega
  | signalled =>
      refine ⟨before.descriptors.of_same ⟨rfl, rfl, rfl, rfl, rfl⟩, ?_⟩
      refine ⟨phases.current, phases.known, phases.storing, ?_, ?_, phases.held, phases.late⟩
      · intro conn impossible
        cases impossible
      · intro conn taken
        have stored : world.stored = some conn := Stopper.taken.inj taken
        refine ⟨phases.stored_known stored, ?_, ?_⟩
        · intro impossible
          cases impossible
        · intro storing
          have stage : world.runner = .storing conn := storing
          rcases (phases.stored conn stored).2 with reading | leaving
          · rw [stage] at reading
            cases reading
          · rw [stage] at leaving
            cases leaving
  | taken socket =>
      cases socket with
      | none => exact attached_finish before
      | some conn =>
          obtain ⟨known, notStored, notStoring⟩ := phases.taken conn stage
          exact attached_finish
            ⟨before.descriptors.close known, phases.close notStored notStoring⟩
  | finished => exact before

theorem attached_grab (before : Attached world) (sender : Nat) :
    Attached (world.step (.grab sender)) := by
  have phases := before.phases
  refine ⟨before.descriptors.of_same ⟨rfl, rfl, rfl, rfl, rfl⟩, ?_⟩
  refine ⟨phases.current, phases.known, phases.storing, phases.stored, phases.taken, ?_,
    phases.late⟩
  intro other conn holds
  change Function.update world.holding sender world.stored other = some conn at holds
  by_cases same : other = sender
  · rw [same, Function.update_self] at holds
    exact phases.stored_known holds
  · rw [Function.update_of_ne same] at holds
    exact phases.held other conn holds

theorem attached_send (before : Attached world) (sender : Nat) : Attached (world.send sender) := by
  unfold World.send
  cases held : world.holding sender with
  | none => exact before
  | some conn =>
      have known := before.phases.held sender conn held
      have phases := before.phases.access conn .sendto
      refine ⟨(before.descriptors.access known (by decide)).of_same ⟨rfl, rfl, rfl, rfl, rfl⟩, ?_⟩
      refine ⟨phases.current, phases.known, phases.storing, phases.stored, phases.taken, ?_,
        phases.late⟩
      intro other taken holds
      change Function.update world.holding sender none other = some taken at holds
      by_cases same : other = sender
      · rw [same, Function.update_self] at holds
        cases holds
      · rw [Function.update_of_ne same] at holds
        exact before.phases.held other taken holds

theorem attached_others (before : Attached world) {fd : Nat} {owner : Option Owner}
    (notOurs : ∀ conn, world.fds fd ≠ some (.conn conn)) :
    Attached { world with fds := Function.update world.fds fd owner } := by
  have phases := before.phases
  exact ⟨before.descriptors.others notOurs, phases.current, phases.known, phases.storing,
    phases.stored, phases.taken, phases.held, phases.late⟩

theorem attached_step (before : Attached world) (input : Input) : Attached (world.step input) := by
  cases input with
  | run turn => exact attached_run before turn
  | stop => exact attached_stop before
  | grab sender => exact attached_grab before sender
  | send sender => exact attached_send before sender
  | otherOpens fd =>
      unfold World.step
      dsimp only
      split
      · next unused =>
          apply attached_others before
          intro conn ours
          rw [unused] at ours
          cases ours
      · exact before
  | otherCloses fd =>
      unfold World.step
      dsimp only
      split
      · next theirs =>
          apply attached_others before
          intro conn ours
          rw [theirs] at ours
          cases ours
      · exact before

end Steps

theorem attached_start (fds : Nat → Bool) : Attached (World.start fds) := by
  constructor
  · constructor
    · intro conn impossible
      exact absurd impossible (Nat.not_lt_zero conn)
    · intro access impossible
      cases impossible
    · intro conn
      rfl
  · constructor
    · intro conn impossible
      exact absurd impossible (Nat.not_lt_zero conn)
    · intro conn impossible
      cases impossible
    · intro conn impossible
      cases impossible
    · intro conn impossible
      cases impossible
    · intro conn impossible
      cases impossible
    · intro sender conn impossible
      cases impossible
    · rfl

/-! ### Every interleaving -/

def runFrom (fds : Nat → Bool) (inputs : List Input) : World :=
  run World.step (World.start fds) inputs

theorem attached_runFrom (fds : Nat → Bool) (inputs : List Input) :
    Attached (runFrom fds inputs) := by
  apply run_invariant World.step Attached (fun _ _ => True)
  · intro world input _ before
    exact attached_step before input
  · exact attached_start fds
  · intro before input after _
    trivial

/-- A turn in which the interface exists, `Open` gets the descriptor and a frame
arrives. -/
def lively (fd : Nat) : Turn := ⟨true, some fd, true, true⟩

/-- In every interleaving a socket is closed at most once and then through its own
descriptor.  What is received or sent through a descriptor of another goes through a
socket that was closed before. -/
theorem sockets_use_own_descriptors (fds : Nat → Bool) (inputs : List Input) :
    (∀ access ∈ (runFrom fds inputs).accesses, access.Sound) ∧
      ∀ conn, (runFrom fds inputs).accesses.countP (Access.closes conn) ≤ 1 := by
  have attached := attached_runFrom fds inputs
  refine ⟨attached.descriptors.sound, ?_⟩
  intro conn
  rw [attached.descriptors.once conn]
  exact Bool.toNat_le _

-- A sender that has read the socket before `stop` writes after it, and the frame goes to
-- whoever got the number meanwhile.
example :
    ((runFrom (fun _ => false)
      ([.run (lively 7), .run (lively 7), .run (lively 7), .run (lively 7), .grab 0] ++
        [.stop, .stop, .stop, .otherOpens 7, .send 0])).accesses.head?) =
      some ⟨0, .sendto, true, some .other⟩ := by
  decide

/-- In every interleaving the only socket open is the one that `runLoop` has in hand, so
none is left when it has returned; a sender that looks finds an open one or none; and
after `done` is closed at most one more is opened. -/
theorem sockets_not_leaked (fds : Nat → Bool) (inputs : List Input) :
    (∀ conn, conn < (runFrom fds inputs).opened → (runFrom fds inputs).closed conn = false →
      (runFrom fds inputs).runner.conn = some conn) ∧
    (∀ conn, (runFrom fds inputs).stored = some conn →
      conn < (runFrom fds inputs).opened ∧ (runFrom fds inputs).closed conn = false) ∧
    (runFrom fds inputs).late ≤ 1 := by
  have phases := (attached_runFrom fds inputs).phases
  refine ⟨phases.current, ?_, ?_⟩
  · intro conn stored
    exact ⟨phases.stored_known stored, (phases.stored conn stored).1⟩
  · have late := phases.late
    split at late
    · omega
    · omega

-- The one more: `stop` is finished before `runLoop` stores its socket, and nobody closes that.
example :
    let world := runFrom (fun _ => false)
      ([.run (lively 7), .run (lively 7)] ++ [.stop, .stop, .stop] ++
        [.run (lively 7), .run (lively 7), .run (lively 7)])
    world.stopper = .finished ∧ world.runner = .reading 0 ∧ world.closed 0 = false := by
  decide

end BridgeDhcp.Attachment
