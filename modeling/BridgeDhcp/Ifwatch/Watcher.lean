/-
The stored state of a served link follows the kernel.

`ifwatch.Snapshot` reads a link and its addresses in two netlink calls.  The watcher
turns netlink updates into ticks, at most one for each subscriber and 100 ms, and the
`watchLoop` of an interface takes a snapshot for each tick, stores it, kicks the router
advertisements if it differs and wakes the PD client.  Its `runLoop` stores a snapshot of
its own before every attempt to attach, without a kick; the two loops run side by side,
and when `runLoop` comes round is left open here.
-/

import BridgeDhcp.GoMapRange
import BridgeDhcp.GoTime
import BridgeDhcp.NetipAddress
import BridgeDhcp.TickRefresh

set_option autoImplicit false

namespace BridgeDhcp.Ifwatch

open Netip GoMap GoTime StepRun TickRefresh

/-! ### Snapshots -/

structure LinkAttrs where
  index : Int
  up : Bool
  hardwareAddr : List UInt8
  deriving DecidableEq

/-- An address of a link; `ones` is the size of its mask. -/
structure LinkAddr where
  ip : List UInt8
  ones : Nat
  deriving DecidableEq

structure LinkTable where
  links : Map String LinkAttrs
  /-- The addresses by the index of the link; absent if listing them fails. -/
  addrList : Int → Option (List LinkAddr)

/-- A `netip.Prefix` that may be invalid. -/
structure AnyPrefix where
  addr : Addr
  bits : Option Nat
  deriving DecidableEq, Repr

def anyPrefixFrom (addr : Addr) (ones : Nat) : AnyPrefix where
  addr := addr
  bits := if ones ≤ addr.bitLen then some ones else none

/-- `ifwatch.State`. -/
structure LinkState where
  exists_ : Bool
  up : Bool
  index : Int
  mac : List UInt8
  v4 : List AnyPrefix
  v6 : List AnyPrefix
  linkLocal : Addr
  deriving DecidableEq, Repr

def LinkState.zero : LinkState where
  exists_ := false
  up := false
  index := 0
  mac := []
  v4 := []
  v6 := []
  linkLocal := .invalid

def LinkState.ofAttrs (attrs : LinkAttrs) : LinkState :=
  { LinkState.zero with
    exists_ := true
    up := attrs.up
    index := attrs.index
    mac := attrs.hardwareAddr }

def LinkState.addAddr (state : LinkState) (entry : LinkAddr) : LinkState :=
  match addrFromSlice entry.ip with
  | none => state
  | some mapped =>
      let ip := mapped.unmap
      if ip.is4 then { state with v4 := state.v4 ++ [anyPrefixFrom ip entry.ones] }
      else if ip.isLinkLocalUnicast then { state with linkLocal := ip }
      else if ip.is6 then { state with v6 := state.v6 ++ [anyPrefixFrom ip entry.ones] }
      else state

/-- `Snapshot` from the second call on. -/
def snapshotAddrs (table : LinkTable) (link : Option LinkAttrs) : LinkState :=
  match link with
  | none => LinkState.zero
  | some attrs =>
      match table.addrList attrs.index with
      | none => LinkState.ofAttrs attrs
      | some addrs => addrs.foldl LinkState.addAddr (LinkState.ofAttrs attrs)

def snapshot (name : String) (table : LinkTable) : LinkState :=
  snapshotAddrs table (table.links.lookup name)

/-! ### The loop of an interface -/

/-- The MAC is not compared. -/
def equalState (first second : LinkState) : Bool :=
  if first.exists_ ≠ second.exists_ ∨ first.up ≠ second.up ∨ first.index ≠ second.index ∨
      first.v4.length ≠ second.v4.length ∨ first.v6.length ≠ second.v6.length ∨
      first.linkLocal ≠ second.linkLocal then false
  else
    (first.v4.zip second.v4).all (fun pair => pair.1 == pair.2) &&
      (first.v6.zip second.v6).all (fun pair => pair.1 == pair.2)

theorem zip_all_beq_iff {Item : Type} [DecidableEq Item] {first second : List Item}
    (lengths : first.length = second.length) :
    (first.zip second).all (fun pair => pair.1 == pair.2) = true ↔ first = second := by
  induction first generalizing second with
  | nil =>
      cases second with
      | nil => simp
      | cons head tail => cases lengths
  | cons head tail ih =>
      cases second with
      | nil => cases lengths
      | cons other rest =>
          simp [ih (Nat.succ.inj lengths)]

theorem equalState_iff (first second : LinkState) :
    equalState first second = true ↔ first = { second with mac := first.mac } := by
  obtain ⟨exists₁, up₁, index₁, mac₁, v4₁, v6₁, local₁⟩ := first
  obtain ⟨exists₂, up₂, index₂, mac₂, v4₂, v6₂, local₂⟩ := second
  unfold equalState
  simp only [LinkState.mk.injEq]
  constructor
  · intro equal
    split at equal
    · cases equal
    · next agree =>
        simp only [not_or, not_not] at agree
        obtain ⟨one, two, three, lengths4, lengths6, six⟩ := agree
        obtain ⟨all4, all6⟩ := Bool.and_eq_true_iff.mp equal
        exact ⟨one, two, three, trivial, (zip_all_beq_iff lengths4).mp all4,
          (zip_all_beq_iff lengths6).mp all6, six⟩
  · intro agree
    obtain ⟨one, two, three, _, four, five, six⟩ := agree
    subst one two three four five six
    have all4 := (zip_all_beq_iff (rfl : v4₁.length = v4₁.length)).mpr rfl
    have all6 := (zip_all_beq_iff (rfl : v6₁.length = v6₁.length)).mpr rfl
    simp only [ne_eq, not_true_eq_false, or_self, if_false, all4, all6, Bool.and_self]

/-- What `watchLoop` does after it has stored a snapshot. -/
inductive Nudge where
  | raKick
  | pdWakeup
  deriving DecidableEq, Repr

/-- The loops of all interfaces; `hasPD` says which of them have a PD client. -/
def watchLoop (hasPD : String → Bool) :
    Source String LinkTable (Option LinkAttrs) LinkState Nudge where
  first name table := table.links.lookup name
  rest _ table link := snapshotAddrs table link
  react name old new :=
    (if equalState old new then [] else [.raKick]) ++ (if hasPD name then [.pdWakeup] else [])
  blank := LinkState.zero
  delay := 100000000

theorem watchLoop_short (hasPD : String → Bool) (name : String) (old new : LinkState) :
    ((watchLoop hasPD).react name old new).length ≤ 2 := by
  have first : (if equalState old new then [] else [Nudge.raKick]).length ≤ 1 := by
    split <;> simp
  have second : (if hasPD name then [Nudge.pdWakeup] else []).length ≤ 1 := by
    split <;> simp
  unfold watchLoop
  rw [List.length_append]
  omega

theorem watchLoop_reactive {hasPD : String → Bool} {name : String} (client : hasPD name = true) :
    Reactive (watchLoop hasPD) name .pdWakeup .raKick
      (fun old new => equalState old new = true) where
  always old new := by
    change _ ∈ _ ++ (if hasPD name then [Nudge.pdWakeup] else [])
    rw [if_pos client]
    exact List.mem_append_right _ List.mem_cons_self
  noticed old new different := by
    change _ ∈ (if equalState old new then [] else [Nudge.raKick]) ++ _
    rw [if_neg different]
    exact List.mem_append_left _ List.mem_cons_self
  refl state := (equalState_iff state state).mpr rfl
  trans first second third one two := by
    have oneTwo := (equalState_iff first second).mp one
    have twoThree := (equalState_iff second third).mp two
    apply (equalState_iff first third).mpr
    rw [oneTwo, twoThree]

abbrev Watching := System String LinkTable (Option LinkAttrs) LinkState Nudge
abbrev WatchInput := Input String LinkTable

/-- From every state that is reached without a tick between the first snapshot of an
interface and its subscription and without an old snapshot of `runLoop` stored last, with
the watcher running, all interfaces subscribed and no old snapshot in the hands of a
`runLoop`: once links and addresses stop changing, the stored state of each interface
becomes the snapshot of the present kernel and stays it, on every fair schedule of the
watcher and the loops; or the interface was stopped. -/
theorem watched_states_converge (hasPD : String → Bool) (table : LinkTable) (now : Int)
    (inputs : List WatchInput)
    (kept : Throughout (step (watchLoop hasPD))
      (fun system input =>
        Heard (watchLoop hasPD) system input ∧ Timely (watchLoop hasPD) system input)
      (System.start table now) inputs)
    (running : (run (step (watchLoop hasPD)) (System.start table now) inputs).stopped = false)
    (subscribed : AllSubscribed (run (step (watchLoop hasPD)) (System.start table now) inputs))
    (abreast : AllAbreast (watchLoop hasPD)
      (run (step (watchLoop hasPD)) (System.start table now) inputs))
    (schedule : Nat → WatchInput) (calm : ∀ count, (schedule count).isCalm = true)
    (fair : Fair (watchLoop hasPD)
      (run (step (watchLoop hasPD)) (System.start table now) inputs) schedule) :
    let reached := run (step (watchLoop hasPD)) (System.start table now) inputs
    ∃ start, ∀ count, start ≤ count → ∀ (index : Nat) reader,
      (stateAt (watchLoop hasPD) reached schedule count).readers[index]? = some reader →
      reader.held = snapshot reader.name reached.world ∨ reader.phase = .gone := by
  intro reached
  exact eventually_current (watchLoop_short hasPD) running (run_informed kept) subscribed abreast
    calm fair

def sampleLinks (up : Bool) (host : UInt8) : LinkTable where
  links := AList.insert "br0" { index := 3, up := up, hardwareAddr := [2, 0, 0, 0, 0, 3] } ∅
  addrList index := if index = 3 then some [{ ip := [192, 168, 50, host], ones := 24 }] else none

/-- `runLoop` stores an old snapshot, but the update is still to be received. -/
def sampleWatch : List WatchInput :=
  [.enter "br0", .turn 0, .turn 0, .aside 0, .aside 0, .turn 0, .change (sampleLinks true 1),
    .aside 0]

def sampleWatched : Watching :=
  run (step (watchLoop (fun _ => true))) (System.start (sampleLinks false 1) 0) sampleWatch

def sampleReader (held : LinkState) (told : List Nudge) :
    Reader String (Option LinkAttrs) LinkState Nudge where
  name := "br0"
  phase := .waiting
  slot := false
  held := held
  aside := .idle
  told := told

theorem sampleWatched_readers :
    sampleWatched.readers = [sampleReader (snapshot "br0" (sampleLinks false 1)) []] := by
  decide +kernel

theorem sampleWatched_only {index : Nat} {reader : Reader String (Option LinkAttrs) LinkState Nudge}
    (found : sampleWatched.readers[index]? = some reader) :
    reader = sampleReader (snapshot "br0" (sampleLinks false 1)) [] := by
  rw [sampleWatched_readers] at found
  exact List.mem_singleton.mp (List.mem_of_getElem? found)

/-- The watcher and the loops in turn, and 100 ms between a receive and a tick. -/
def sampleSchedule (count : Nat) : WatchInput :=
  match count % 5 with
  | 0 => .receive
  | 1 => .wait 100000000
  | 2 => .fire
  | 3 => .turn 0
  | _ => .aside 0

theorem sampleSchedule_calm (count : Nat) : (sampleSchedule count).isCalm = true := by
  unfold sampleSchedule
  split <;> rfl

theorem sampleSchedule_now (round : Nat) :
    (stateAt (watchLoop (fun _ => true)) sampleWatched sampleSchedule (5 * round)).now =
      round * 100000000 := by
  induction round with
  | zero => decide +kernel
  | succ round ih =>
      have inputs : sampleSchedule (5 * round) = .receive ∧
          sampleSchedule (5 * round + 1) = .wait 100000000 ∧
          sampleSchedule (5 * round + 2) = .fire ∧ sampleSchedule (5 * round + 3) = .turn 0 ∧
          sampleSchedule (5 * round + 4) = .aside 0 := by
        unfold sampleSchedule
        simp
      obtain ⟨zero, one, two, three, four⟩ := inputs
      change (stateAt _ _ _ (5 * round + 5)).now = _
      simp only [stateAt, now_step, zero, one, two, three, four, Input.span, ih]
      omega

theorem sampleSchedule_fair :
    Fair (watchLoop (fun _ => true)) sampleWatched sampleSchedule where
  receives count := ⟨5 * count, by omega, by simp [sampleSchedule]⟩
  fires count := ⟨5 * count + 2, by omega, by simp [sampleSchedule]⟩
  turns index inside count := by
    rw [sampleWatched_readers] at inside
    have zero : index = 0 := by simpa using inside
    rw [zero]
    exact ⟨5 * count + 3, by omega, by simp [sampleSchedule]⟩
  time instant := by
    refine ⟨5 * instant.toNat, ?_⟩
    rw [sampleSchedule_now]
    omega

def storesAside (system : Watching) (index : Nat) : Bool :=
  system.readers[index]?.any (fun reader =>
    match reader.aside with
    | .read _ => true
    | _ => false)

theorem storesAside_of_read {system : Watching} {index : Nat}
    {reader : Reader String (Option LinkAttrs) LinkState Nudge} {value : LinkState}
    (found : system.readers[index]? = some reader) (reads : reader.aside = .read value) :
    storesAside system index = true := by
  unfold storesAside
  rw [found, Option.any_some, reads]

def silentTest (system : Watching) : WatchInput → Bool
  | .fire => false
  | .aside index => decide (0 < system.queued) || !storesAside system index
  | _ => true

theorem kept_of_silent {hasPD : String → Bool} {system : Watching} {input : WatchInput}
    (silent : silentTest system input = true) :
    Heard (watchLoop hasPD) system input ∧ Timely (watchLoop hasPD) system input := by
  cases input with
  | fire => cases silent
  | aside index =>
      refine ⟨trivial, ?_⟩
      intro reader found value reads
      rcases Bool.or_eq_true_iff.mp silent with queued | nothing
      · exact Or.inr (Or.inl (Or.inl (of_decide_eq_true queued)))
      · rw [storesAside_of_read found reads] at nothing
        cases nothing
  | _ => exact ⟨trivial, trivial⟩

theorem watched_states_converge_link_up :
    ∃ start, ∀ count, start ≤ count → ∀ (index : Nat) reader,
      (stateAt (watchLoop (fun _ => true)) sampleWatched sampleSchedule count).readers[index]? =
        some reader →
      reader.held = snapshot reader.name (sampleLinks true 1) ∨ reader.phase = .gone := by
  apply watched_states_converge (fun _ => true) (sampleLinks false 1) 0 sampleWatch
  · exact throughout_of_check _ (fun _ _ => kept_of_silent) (by decide +kernel)
  · decide +kernel
  · intro index reader found
    rw [sampleWatched_only found]
    rfl
  · intro index reader found
    rw [sampleWatched_only found]
    trivial
  · exact sampleSchedule_calm
  · exact sampleSchedule_fair

/-- A tick between the first snapshot and the subscription is lost: everything has
settled, and the state of the link is the old one. -/
theorem tick_before_subscription_lost :
    let final := run (step (watchLoop (fun _ => true))) (System.start (sampleLinks false 1) 0)
      [.change (sampleLinks false 2), .receive, .enter "br0", .turn 0, .turn 0,
        .aside 0, .aside 0, .aside 0,
        .change (sampleLinks true 2), .receive, .wait 100000000, .fire, .turn 0]
    ∃ reader, final.readers[0]? = some reader ∧ Settled final reader ∧ reader.aside = .idle ∧
      reader.held ≠ snapshot "br0" (sampleLinks true 2) := by
  refine ⟨_, rfl, ⟨rfl, rfl, rfl, rfl⟩, rfl, ?_⟩
  decide +kernel

def sampleTick : List WatchInput :=
  [.receive, .wait 100000000, .fire, .turn 0, .turn 0, .turn 0, .turn 0, .turn 0, .turn 0, .turn 0]

/-- The snapshot that `runLoop` took before the change is stored after the one that
`watchLoop` took for the tick: everything has settled, and the state of the link is the
old one. -/
theorem old_snapshot_stored_last :
    let final := run (step (watchLoop (fun _ => true))) (System.start (sampleLinks false 1) 0)
      ([.enter "br0", .turn 0, .turn 0, .turn 0, .aside 0, .aside 0,
        .change (sampleLinks true 1)] ++ sampleTick ++ [.aside 0])
    ∃ reader, final.readers[0]? = some reader ∧ Settled final reader ∧ reader.aside = .idle ∧
      reader.held ≠ snapshot "br0" (sampleLinks true 1) := by
  refine ⟨_, rfl, ⟨rfl, rfl, rfl, rfl⟩, rfl, ?_⟩
  decide +kernel

/-- After a change of links or addresses, an interface with a PD client that settles has
woken the client.  If its `runLoop` has stored nothing in between, it has kicked the
router advertisements if the stored state is not the old one up to the MAC. -/
theorem watched_change_nudges (hasPD : String → Bool) (system : Watching) (after : LinkTable)
    (index : Nat) (before : Reader String (Option LinkAttrs) LinkState Nudge)
    (present : system.readers[index]? = some before) (subscribed : before.phase.subscribed = true)
    (client : hasPD before.name = true) (inputs : List WatchInput)
    (reader : Reader String (Option LinkAttrs) LinkState Nudge)
    (found : (run (step (watchLoop hasPD)) system (.change after :: inputs)).readers[index]? =
      some reader)
    (settled : Settled (run (step (watchLoop hasPD)) system (.change after :: inputs)) reader) :
    ∃ more, reader.told = more ++ before.told ∧ Nudge.pdWakeup ∈ more ∧
      (Throughout (step (watchLoop hasPD)) (fun state input => ¬ Overwrites index state input)
          (step (watchLoop hasPD) system (.change after)) inputs →
        equalState before.held reader.held = false → Nudge.raKick ∈ more) := by
  have changed : (step (watchLoop hasPD) system (.change after)).readers[index]? = some before :=
    present
  obtain ⟨more, told, woken, kicked⟩ := settled_reacted (watchLoop_reactive client)
    (Nat.succ_pos system.queued) changed subscribed inputs found settled
  refine ⟨more, told, woken, ?_⟩
  intro undisturbed different
  apply kicked undisturbed
  rw [different]
  exact Bool.false_ne_true

def aloneTest (index : Nat) (system : Watching) (_ : WatchInput) : Bool :=
  !storesAside system index

theorem not_overwrites_of_alone {index : Nat} {system : Watching} {input : WatchInput}
    (nothing : aloneTest index system input = true) : ¬ Overwrites index system input := by
  unfold aloneTest at nothing
  rintro ⟨_, reader, value, found, reads⟩
  rw [storesAside_of_read found reads] at nothing
  cases nothing

def sampleWaiting : Watching :=
  run (step (watchLoop (fun _ => true))) (System.start (sampleLinks false 1) 0)
    [.enter "br0", .turn 0, .turn 0, .turn 0]

theorem watched_change_nudges_link_up :
    (run (step (watchLoop (fun _ => true))) sampleWaiting
      (.change (sampleLinks true 1) :: sampleTick)).readers[0]? =
        some (sampleReader (snapshot "br0" (sampleLinks true 1)) [.pdWakeup, .raKick]) ∧
    ∃ more, [Nudge.pdWakeup, .raKick] = more ++ [] ∧ Nudge.pdWakeup ∈ more ∧
      Nudge.raKick ∈ more := by
  refine ⟨by decide +kernel, ?_⟩
  obtain ⟨more, told, woken, kicked⟩ :=
    watched_change_nudges (fun _ => true) sampleWaiting (sampleLinks true 1) 0
      (sampleReader (snapshot "br0" (sampleLinks false 1)) []) (by decide +kernel) rfl rfl sampleTick
      (sampleReader (snapshot "br0" (sampleLinks true 1)) [.pdWakeup, .raKick]) (by decide +kernel)
      ⟨by decide +kernel, by decide +kernel, rfl, rfl⟩
  refine ⟨more, told, woken, kicked ?_ (by decide +kernel)⟩
  exact throughout_of_check _ (fun _ _ => not_overwrites_of_alone) (by decide +kernel)

/-- The link is deleted and `runLoop` is the first to store that: no kick follows, though
the stored state is another one. -/
theorem own_snapshot_hides_change :
    let gone : LinkTable := { links := ∅, addrList := fun _ => none }
    (run (step (watchLoop (fun _ => true))) sampleWaiting
      ([.change gone, .aside 0, .aside 0, .aside 0] ++ sampleTick)).readers[0]? =
        some (sampleReader LinkState.zero [.pdWakeup]) ∧
    equalState (snapshot "br0" (sampleLinks false 1)) LinkState.zero = false := by
  decide +kernel

/-- In every run ticks are at least 100 ms apart, however many updates come. -/
theorem watched_ticks_spaced (hasPD : String → Bool) (table : LinkTable) (now : Int)
    (inputs : List WatchInput) :
    (run (step (watchLoop hasPD)) (System.start table now) inputs).ticks.Pairwise
      (fun later earlier => earlier + 100000000 ≤ later) :=
  ticks_spaced (watchLoop hasPD) table now inputs

end BridgeDhcp.Ifwatch
