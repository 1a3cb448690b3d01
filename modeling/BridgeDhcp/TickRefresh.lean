/-
Readings that are kept up to date by coalesced ticks.

A change of the world queues a notice.  A loop takes notices off the queue; the first
one starts a timer, further ones join it, and when the timer fires the slot of each
subscriber is filled, which holds one tick.  A reader that finds a tick reads the world
again in two parts, stores what it has read and reacts to the difference.  A reader
takes its first reading before it subscribes.  Beside each reader a second writer takes
readings of its own, whenever it likes, and stores them without a reaction.  All take
their steps in any order.
-/

import BridgeDhcp.StepRun
import Mathlib.Algebra.BigOperators.Group.List.Basic
import Mathlib.Algebra.GroupWithZero.Nat
import Mathlib.Order.WellFounded
import Mathlib.Tactic.Common

set_option autoImplicit false

namespace BridgeDhcp.TickRefresh

open StepRun

structure Source (Name World First Value Out : Type) where
  first : Name → World → First
  rest : Name → World → First → Value
  react : Name → Value → Value → List Out
  blank : Value
  delay : Int

inductive Phase (First Value Out : Type) where
  /-- Before the first reading, in it, and between it and the subscription. -/
  | entered
  | entering (part : First)
  | outside
  | waiting
  | taken
  | begun (part : First)
  | read (value : Value)
  | acting (left : List Out)
  | gone
  deriving DecidableEq

/-- How far the second writer is. -/
inductive Aside (First Value : Type) where
  | idle
  | begun (part : First)
  | read (value : Value)
  deriving DecidableEq

structure Reader (Name First Value Out : Type) where
  name : Name
  phase : Phase First Value Out
  slot : Bool
  held : Value
  aside : Aside First Value
  /-- Latest first. -/
  told : List Out
  deriving DecidableEq

structure System (Name World First Value Out : Type) where
  world : World
  now : Int
  queued : Nat
  deadline : Option Int
  stopped : Bool
  readers : List (Reader Name First Value Out)
  /-- When the timer fired, latest first. -/
  ticks : List Int

inductive Input (Name World : Type) where
  | change (after : World)
  | wait (span : Nat)
  | receive
  | fire
  | stop
  | enter (name : Name)
  | turn (index : Nat)
  | aside (index : Nat)
  | leave (index : Nat)

section Steps

variable {Name World First Value Out : Type} (source : Source Name World First Value Out)

def Source.current (name : Name) (world : World) : Value :=
  source.rest name world (source.first name world)

def Phase.subscribed : Phase First Value Out → Bool
  | .entered | .entering _ | .outside => false
  | _ => true

/-- The first reading is stored. -/
def Phase.launched : Phase First Value Out → Bool
  | .entered | .entering _ => false
  | _ => true

def Reader.new (name : Name) : Reader Name First Value Out where
  name := name
  phase := .entered
  slot := false
  held := source.blank
  aside := .idle
  told := []

/-- A full slot stays full. -/
def Reader.tick (reader : Reader Name First Value Out) : Reader Name First Value Out :=
  { reader with slot := reader.slot || reader.phase.subscribed }

def Reader.turn (world : World) (reader : Reader Name First Value Out) :
    Reader Name First Value Out :=
  match reader.phase with
  | .entered => { reader with phase := .entering (source.first reader.name world) }
  | .entering part =>
      { reader with held := source.rest reader.name world part, phase := .outside }
  | .outside => { reader with phase := .waiting }
  | .waiting => if reader.slot then { reader with slot := false, phase := .taken } else reader
  | .taken => { reader with phase := .begun (source.first reader.name world) }
  | .begun part => { reader with phase := .read (source.rest reader.name world part) }
  | .read value =>
      { reader with held := value, phase := .acting (source.react reader.name reader.held value) }
  | .acting [] => { reader with phase := .waiting }
  | .acting (out :: left) => { reader with told := out :: reader.told, phase := .acting left }
  | .gone => reader

/-- A turn of the second writer, which starts after the first reading. -/
def Reader.asideTurn (world : World) (reader : Reader Name First Value Out) :
    Reader Name First Value Out :=
  match reader.aside with
  | .idle =>
      if reader.phase.launched then
        { reader with aside := .begun (source.first reader.name world) }
      else reader
  | .begun part => { reader with aside := .read (source.rest reader.name world part) }
  | .read value => { reader with held := value, aside := .idle }

def Reader.leave (reader : Reader Name First Value Out) : Reader Name First Value Out :=
  match reader.phase with
  | .waiting => { reader with phase := .gone }
  | _ => reader

def System.start (world : World) (now : Int) : System Name World First Value Out where
  world := world
  now := now
  queued := 0
  deadline := none
  stopped := false
  readers := []
  ticks := []

def System.fires (system : System Name World First Value Out) : Bool :=
  match system.deadline with
  | none => false
  | some deadline => !system.stopped && decide (deadline ≤ system.now)

def step (system : System Name World First Value Out) :
    Input Name World → System Name World First Value Out
  | .change after => { system with world := after, queued := system.queued + 1 }
  | .wait span => { system with now := system.now + span }
  | .receive =>
      if system.stopped = true ∨ system.queued = 0 then system
      else
        { system with
          queued := system.queued - 1
          deadline := some (system.deadline.getD (system.now + source.delay)) }
  | .fire =>
      if system.fires then
        { system with
          deadline := none
          readers := system.readers.map Reader.tick
          ticks := system.now :: system.ticks }
      else system
  | .stop => { system with stopped := true }
  | .enter name => { system with readers := system.readers ++ [Reader.new source name] }
  | .turn index =>
      { system with readers := system.readers.modify index (Reader.turn source system.world) }
  | .aside index =>
      { system with readers := system.readers.modify index (Reader.asideTurn source system.world) }
  | .leave index => { system with readers := system.readers.modify index Reader.leave }

def Reader.after (system : System Name World First Value Out) (index : Nat) :
    Input Name World → Reader Name First Value Out → Reader Name First Value Out
  | .fire, reader => if system.fires then reader.tick else reader
  | .turn other, reader => if other = index then reader.turn source system.world else reader
  | .aside other, reader => if other = index then reader.asideTurn source system.world else reader
  | .leave other, reader => if other = index then reader.leave else reader
  | _, reader => reader

end Steps

/-! ### One reader -/

section OneReader

variable {Name World First Value Out : Type} {source : Source Name World First Value Out}
  {system : System Name World First Value Out} {index : Nat}
  {reader : Reader Name First Value Out} {input : Input Name World}

theorem getElem?_modify_of_some {readers : List (Reader Name First Value Out)} (other : Nat)
    (change : Reader Name First Value Out → Reader Name First Value Out)
    (found : readers[index]? = some reader) :
    (readers.modify other change)[index]? =
      some (if other = index then change reader else reader) := by
  rw [List.getElem?_modify, found]
  rfl

theorem reader_step (found : system.readers[index]? = some reader) (input : Input Name World) :
    (step source system input).readers[index]? =
      some (reader.after source system index input) := by
  cases input with
  | change after => exact found
  | wait span => exact found
  | receive =>
      simp only [step]
      split
      · exact found
      · exact found
  | fire =>
      simp only [step, Reader.after]
      split
      · rw [List.getElem?_map, found]
        rfl
      · exact found
  | stop => exact found
  | enter name =>
      have inside : index < system.readers.length := (List.getElem?_eq_some_iff.mp found).1
      exact (List.getElem?_append_left inside).trans found
  | turn other => exact getElem?_modify_of_some other _ found
  | aside other => exact getElem?_modify_of_some other _ found
  | leave other => exact getElem?_modify_of_some other _ found

theorem length_step (stays : ∀ name, input ≠ .enter name) :
    (step source system input).readers.length = system.readers.length := by
  cases input with
  | enter name => exact absurd rfl (stays name)
  | receive =>
      simp only [step]
      split <;> rfl
  | fire =>
      simp only [step]
      split
      · exact List.length_map _
      · rfl
  | turn other => exact List.length_modify _ _ _
  | aside other => exact List.length_modify _ _ _
  | leave other => exact List.length_modify _ _ _
  | _ => rfl

theorem reader_cases (found : (step source system input).readers[index]? = some reader) :
    (∃ before, system.readers[index]? = some before ∧
      reader = before.after source system index input) ∨
    ∃ name, input = .enter name ∧ reader = Reader.new source name := by
  cases present : system.readers[index]? with
  | some before =>
      rw [reader_step present input] at found
      exact Or.inl ⟨before, rfl, (Option.some.inj found).symm⟩
  | none =>
      right
      have beyond : system.readers.length ≤ index := List.getElem?_eq_none_iff.mp present
      have inside := (List.getElem?_eq_some_iff.mp found).1
      by_cases enters : ∃ name, input = .enter name
      · obtain ⟨name, isEnter⟩ := enters
        refine ⟨name, isEnter, ?_⟩
        rw [isEnter] at found
        change (system.readers ++ [Reader.new source name])[index]? = _ at found
        rw [List.getElem?_append_right beyond] at found
        exact List.mem_singleton.mp (List.mem_of_getElem? found)
      · rw [length_step (fun name same => enters ⟨name, same⟩)] at inside
        omega

/-- What each kind of move makes of a reader holds after every step. -/
theorem Reader.after_of (Holds : Reader Name First Value Out → Prop) (unmoved : Holds reader)
    (ticked : Holds reader.tick) (turned : Holds (reader.turn source system.world))
    (asided : Holds (reader.asideTurn source system.world)) (left : Holds reader.leave) :
    Holds (reader.after source system index input) := by
  unfold Reader.after
  split
  · split <;> assumption
  · split <;> assumption
  · split <;> assumption
  · split <;> assumption
  · exact unmoved

end OneReader

/-! ### The second writer -/

section SecondWriter

variable {Name World First Value Out : Type} {source : Source Name World First Value Out}
  {world : World} {reader : Reader Name First Value Out}

/-- The turns of the second writer change nothing but what is held and its own part. -/
theorem Reader.asideTurn_cases (source : Source Name World First Value Out) (world : World)
    (reader : Reader Name First Value Out) :
    (∃ aside, reader.asideTurn source world = { reader with aside := aside }) ∨
      ∃ value, reader.aside = .read value ∧
        reader.asideTurn source world = { reader with held := value, aside := .idle } := by
  unfold Reader.asideTurn
  cases aside : reader.aside with
  | idle =>
      left
      dsimp only
      split
      · exact ⟨_, rfl⟩
      · exact ⟨.idle, by rw [← aside]⟩
  | begun part => exact Or.inl ⟨_, rfl⟩
  | read value => exact Or.inr ⟨value, rfl, rfl⟩

theorem Reader.asideTurn_same (source : Source Name World First Value Out) (world : World)
    (reader : Reader Name First Value Out) :
    (reader.asideTurn source world).name = reader.name ∧
      (reader.asideTurn source world).phase = reader.phase ∧
      (reader.asideTurn source world).slot = reader.slot ∧
      (reader.asideTurn source world).told = reader.told := by
  rcases reader.asideTurn_cases source world with ⟨aside, same⟩ | ⟨value, _, same⟩ <;>
    · rw [same]
      exact ⟨rfl, rfl, rfl, rfl⟩

end SecondWriter

/-! ### Stored readings are current -/

section Current

variable {Name World First Value Out : Type} {source : Source Name World First Value Out}
  {system : System Name World First Value Out} {reader : Reader Name First Value Out}

def Alerted (system : System Name World First Value Out) (reader : Reader Name First Value Out) :
    Prop :=
  0 < system.queued ∨ system.deadline.isSome = true ∨ reader.slot = true

def Reader.UpToDate (source : Source Name World First Value Out) (world : World)
    (reader : Reader Name First Value Out) : Prop :=
  match reader.phase with
  | .entered | .taken | .gone => True
  | .entering part | .begun part => part = source.first reader.name world
  | .read value => value = source.current reader.name world
  | .outside | .waiting | .acting _ => reader.held = source.current reader.name world

def Informed (source : Source Name World First Value Out)
    (system : System Name World First Value Out) (reader : Reader Name First Value Out) : Prop :=
  Alerted system reader ∨ reader.UpToDate source system.world

/-- A tick comes too early for a reader that has not subscribed, so its reading must be
current then. -/
def Heard (source : Source Name World First Value Out)
    (system : System Name World First Value Out) : Input Name World → Prop
  | .fire => system.fires = true → ∀ reader ∈ system.readers, reader.phase.subscribed = false →
      reader.UpToDate source system.world
  | _ => True

/-- The reading that the reader will have stored next is another one than it holds. -/
def Phase.renewing : Phase First Value Out → Bool
  | .outside | .waiting | .acting _ | .gone => false
  | _ => true

/-- An old reading that the second writer stores is not the last one to be stored: the
reader is about to store another, or something will make it. -/
def Timely (source : Source Name World First Value Out)
    (system : System Name World First Value Out) : Input Name World → Prop
  | .aside index => ∀ reader, system.readers[index]? = some reader →
      ∀ value, reader.aside = .read value → value = source.current reader.name system.world ∨
        Alerted system reader ∨ reader.phase.renewing = true
  | _ => True

structure Settled (system : System Name World First Value Out)
    (reader : Reader Name First Value Out) : Prop where
  queue : system.queued = 0
  timer : system.deadline = none
  slot : reader.slot = false
  phase : reader.phase = .waiting

theorem Settled.not_alerted (settled : Settled system reader) : ¬ Alerted system reader := by
  intro alerted
  rcases alerted with queued | pending | full
  · rw [settled.queue] at queued
    exact absurd queued (Nat.lt_irrefl 0)
  · rw [settled.timer] at pending
    cases pending
  · rw [settled.slot] at full
    cases full

theorem Reader.UpToDate.turn (current : reader.UpToDate source system.world) :
    (reader.turn source system.world).UpToDate source system.world := by
  unfold Reader.UpToDate at current
  unfold Reader.turn
  cases phase : reader.phase with
  | entered => exact rfl
  | entering part =>
      rw [phase] at current
      change source.rest reader.name system.world part = _
      rw [show part = _ from current]
      rfl
  | outside =>
      rw [phase] at current
      exact current
  | waiting =>
      rw [phase] at current
      dsimp only
      split
      · trivial
      · unfold Reader.UpToDate
        rw [phase]
        exact current
  | taken => exact rfl
  | begun part =>
      rw [phase] at current
      change source.rest reader.name system.world part = _
      rw [show part = _ from current]
      rfl
  | read value =>
      rw [phase] at current
      exact current
  | acting left =>
      rw [phase] at current
      cases left with
      | nil => exact current
      | cons out left => exact current
  | gone =>
      unfold Reader.UpToDate
      rw [phase]
      trivial

theorem Informed.turn (informed : Informed source system reader) :
    Informed source system (reader.turn source system.world) := by
  rcases informed with alerted | current
  · rcases alerted with queued | pending | full
    · exact Or.inl (Or.inl queued)
    · exact Or.inl (Or.inr (Or.inl pending))
    · cases phase : reader.phase with
      | waiting =>
          right
          unfold Reader.turn
          rw [phase]
          dsimp only
          rw [if_pos full]
          trivial
      | acting left =>
          refine Or.inl (Or.inr (Or.inr ?_))
          unfold Reader.turn
          rw [phase]
          cases left with
          | nil => exact full
          | cons out left => exact full
      | _ =>
          refine Or.inl (Or.inr (Or.inr ?_))
          unfold Reader.turn
          rw [phase]
          exact full
  · exact Or.inr current.turn

theorem Informed.leave (informed : Informed source system reader) :
    Informed source system reader.leave := by
  unfold Reader.leave
  cases phase : reader.phase with
  | waiting => exact Or.inr trivial
  | _ => exact informed

theorem Reader.UpToDate.stores {value : Value} (current : reader.UpToDate source system.world)
    (fresh : value = source.current reader.name system.world ∨ reader.phase.renewing = true) :
    ({ reader with held := value, aside := .idle } : Reader Name First Value Out).UpToDate source
      system.world := by
  unfold Reader.UpToDate at current ⊢
  cases phase : reader.phase with
  | outside => exact fresh.resolve_right (by simp [phase, Phase.renewing])
  | waiting => exact fresh.resolve_right (by simp [phase, Phase.renewing])
  | acting left => exact fresh.resolve_right (by simp [phase, Phase.renewing])
  | _ =>
      rw [phase] at current
      exact current

theorem Informed.asideTurn {index : Nat} (found : system.readers[index]? = some reader)
    (timely : Timely source system (.aside index)) (informed : Informed source system reader) :
    Informed source system (reader.asideTurn source system.world) := by
  rcases reader.asideTurn_cases source system.world with ⟨aside, same⟩ | ⟨value, reads, same⟩
  · rw [same]
    exact informed
  · rw [same]
    rcases informed with alerted | current
    · exact Or.inl alerted
    · rcases timely reader found value reads with present | alerted | renewing
      · exact Or.inr (current.stores (Or.inl present))
      · exact Or.inl alerted
      · exact Or.inr (current.stores (Or.inr renewing))

theorem Informed.step {index : Nat} {input : Input Name World}
    (found : system.readers[index]? = some reader) (heard : Heard source system input)
    (timely : Timely source system input) (informed : Informed source system reader) :
    Informed source (TickRefresh.step source system input)
      (reader.after source system index input) := by
  cases input with
  | change after => exact Or.inl (Or.inl (Nat.succ_pos _))
  | wait span => exact informed
  | receive =>
      simp only [TickRefresh.step, Reader.after]
      split
      · exact informed
      · exact Or.inl (Or.inr (Or.inl rfl))
  | fire =>
      simp only [TickRefresh.step, Reader.after]
      by_cases fires : system.fires = true
      · rw [if_pos fires, if_pos fires]
        cases subscribed : reader.phase.subscribed with
        | true =>
            refine Or.inl (Or.inr (Or.inr ?_))
            simp [Reader.tick, subscribed]
        | false =>
            -- The tick passes by, and the reading is the present one.
            exact Or.inr (heard fires reader (List.mem_of_getElem? found) subscribed)
      · rw [if_neg fires, if_neg fires]
        exact informed
  | stop => exact informed
  | enter name => exact informed
  | turn other =>
      simp only [Reader.after]
      split
      · exact informed.turn
      · exact informed
  | aside other =>
      simp only [Reader.after]
      split
      · next here =>
          rw [here] at timely
          have kept := informed.asideTurn found timely
          exact kept
      · exact informed
  | leave other =>
      simp only [Reader.after]
      split
      · exact informed.leave
      · exact informed

def AllInformed (source : Source Name World First Value Out)
    (system : System Name World First Value Out) : Prop :=
  ∀ (index : Nat) (reader : Reader Name First Value Out),
    system.readers[index]? = some reader → Informed source system reader

theorem AllInformed.step {input : Input Name World} (heard : Heard source system input)
    (timely : Timely source system input) (informed : AllInformed source system) :
    AllInformed source (TickRefresh.step source system input) := by
  intro index reader present
  rcases reader_cases present with ⟨before, was, same⟩ | ⟨name, isEnter, same⟩
  · rw [same]
    exact (informed index before was).step was heard timely
  · rw [same]
    exact Or.inr trivial

/-- In every run in which no tick passes by an unsubscribed reader with an old reading, and
no old reading of a second writer is the last one to be stored, each reader is informed. -/
theorem run_informed {world : World} {now : Int} {inputs : List (Input Name World)}
    (kept : Throughout (step source)
      (fun system input => Heard source system input ∧ Timely source system input)
      (System.start world now) inputs) :
    AllInformed source (run (step source) (System.start world now) inputs) := by
  apply run_invariant (step source) (AllInformed source) _ _ _ _ _ kept
  · intro system input allowed informed
    exact informed.step allowed.1 allowed.2
  · intro index reader present
    cases present

def AllSubscribed (system : System Name World First Value Out) : Prop :=
  ∀ (index : Nat) (reader : Reader Name First Value Out),
    system.readers[index]? = some reader → reader.phase.subscribed = true

theorem AllSubscribed.heard (all : AllSubscribed system) {input : Input Name World} :
    Heard source system input := by
  cases input with
  | fire =>
      intro _ reader member outside
      obtain ⟨index, found⟩ := List.mem_iff_getElem?.mp member
      rw [all index reader found] at outside
      cases outside
  | _ => trivial

theorem Reader.subscribed_turn {world : World} (subscribed : reader.phase.subscribed = true) :
    (reader.turn source world).phase.subscribed = true := by
  unfold Reader.turn
  cases phase : reader.phase with
  | waiting =>
      dsimp only
      split
      · rfl
      · exact subscribed
  | acting left => cases left <;> rfl
  | entered =>
      rw [phase] at subscribed
      cases subscribed
  | entering part =>
      rw [phase] at subscribed
      cases subscribed
  | gone => exact subscribed
  | _ => rfl

theorem Reader.subscribed_leave (subscribed : reader.phase.subscribed = true) :
    reader.leave.phase.subscribed = true := by
  unfold Reader.leave
  cases phase : reader.phase with
  | waiting => rfl
  | _ => exact subscribed

theorem Reader.subscribed_after {index : Nat} {input : Input Name World}
    (subscribed : reader.phase.subscribed = true) :
    (reader.after source system index input).phase.subscribed = true := by
  apply Reader.after_of (fun moved => moved.phase.subscribed = true) subscribed subscribed
  · exact Reader.subscribed_turn subscribed
  · rw [(reader.asideTurn_same source system.world).2.1]
    exact subscribed
  · exact Reader.subscribed_leave subscribed

theorem AllSubscribed.step {input : Input Name World} (all : AllSubscribed system)
    (stays : ∀ name, input ≠ .enter name) :
    AllSubscribed (TickRefresh.step source system input) := by
  intro index reader present
  rcases reader_cases present with ⟨before, was, same⟩ | ⟨name, isEnter, _⟩
  · rw [same]
    exact Reader.subscribed_after (all index before was)
  · exact absurd isEnter (stays name)

/-- What the second writer has in hand is of the present world. -/
def Reader.Abreast (source : Source Name World First Value Out) (world : World)
    (reader : Reader Name First Value Out) : Prop :=
  match reader.aside with
  | .idle => True
  | .begun part => part = source.first reader.name world
  | .read value => value = source.current reader.name world

def AllAbreast (source : Source Name World First Value Out)
    (system : System Name World First Value Out) : Prop :=
  ∀ (index : Nat) (reader : Reader Name First Value Out),
    system.readers[index]? = some reader → reader.Abreast source system.world

theorem AllAbreast.timely (all : AllAbreast source system) {input : Input Name World} :
    Timely source system input := by
  cases input with
  | aside index =>
      intro reader found value reads
      have abreast := all index reader found
      unfold Reader.Abreast at abreast
      rw [reads] at abreast
      exact Or.inl abreast
  | _ => trivial

theorem Reader.Abreast.asideTurn (abreast : reader.Abreast source system.world) :
    (reader.asideTurn source system.world).Abreast source system.world := by
  unfold Reader.Abreast at abreast
  unfold Reader.asideTurn
  cases aside : reader.aside with
  | idle =>
      dsimp only
      split
      · exact rfl
      · unfold Reader.Abreast
        rw [aside]
        trivial
  | begun part =>
      rw [aside] at abreast
      change source.rest reader.name system.world part = _
      rw [show part = _ from abreast]
      rfl
  | read value => trivial

theorem Reader.turn_aside (source : Source Name World First Value Out) (world : World)
    (reader : Reader Name First Value Out) :
    (reader.turn source world).aside = reader.aside ∧
      (reader.turn source world).name = reader.name := by
  unfold Reader.turn
  split
  case h_4 => split <;> exact ⟨rfl, rfl⟩
  all_goals exact ⟨rfl, rfl⟩

theorem Reader.leave_aside (reader : Reader Name First Value Out) :
    reader.leave.aside = reader.aside ∧ reader.leave.name = reader.name := by
  unfold Reader.leave
  split <;> exact ⟨rfl, rfl⟩

theorem Reader.Abreast.of_same {other : Reader Name First Value Out} {world : World}
    (abreast : reader.Abreast source world)
    (same : other.aside = reader.aside ∧ other.name = reader.name) :
    other.Abreast source world := by
  unfold Reader.Abreast
  rw [same.1, same.2]
  exact abreast

theorem Reader.Abreast.after {index : Nat} {input : Input Name World}
    (abreast : reader.Abreast source system.world) :
    (reader.after source system index input).Abreast source system.world := by
  apply Reader.after_of (fun moved => moved.Abreast source system.world) abreast
  · exact abreast.of_same ⟨rfl, rfl⟩
  · exact abreast.of_same (reader.turn_aside source system.world)
  · exact abreast.asideTurn
  · exact abreast.of_same reader.leave_aside

theorem Settled.current (settled : Settled system reader)
    (informed : Informed source system reader) :
    reader.held = source.current reader.name system.world := by
  rcases informed with alerted | current
  · exact absurd alerted settled.not_alerted
  · unfold Reader.UpToDate at current
    rw [settled.phase] at current
    exact current

end Current

/-! ### No change goes without a reaction -/

section Reaction

variable {Name World First Value Out : Type} {source : Source Name World First Value Out}
  {system : System Name World First Value Out} {reader : Reader Name First Value Out}
  {must notice : Out} {same : Value → Value → Prop} {alone : Prop}

/-- One output is part of every reaction of a reader, and another one of each to a
reading that is not the same. -/
structure Reactive (source : Source Name World First Value Out) (name : Name) (must notice : Out)
    (same : Value → Value → Prop) : Prop where
  always : ∀ old new, must ∈ source.react name old new
  noticed : ∀ old new, ¬ same old new → notice ∈ source.react name old new
  refl : ∀ value, same value value
  trans : ∀ first second third, same first second → same second third → same first third

def Reader.Due (out : Out) (reader : Reader Name First Value Out) : Prop :=
  match reader.phase with
  | .taken | .begun _ | .read _ => True
  | .acting left => out ∈ left
  | _ => False

def Reader.Telling (out : Out) (reader : Reader Name First Value Out) : Prop :=
  ∃ left, reader.phase = .acting left ∧ out ∈ left

/-- The second writer beside the reader stores a reading. -/
def Overwrites (index : Nat) (system : System Name World First Value Out)
    (input : Input Name World) : Prop :=
  input = .aside index ∧
    ∃ reader value, system.readers[index]? = some reader ∧ reader.aside = .read value

/-- What is known of a subscribed reader after something was queued: `base` is the
reader then, and `more` what it has told since.  If the second writer has stored
nothing, a change of what is held was noticed. -/
structure Follows (alone : Prop) (must notice : Out) (same : Value → Value → Prop)
    (system : System Name World First Value Out) (base reader : Reader Name First Value Out)
    (more : List Out) : Prop where
  name : reader.name = base.name
  subscribed : reader.phase.subscribed = true
  told : reader.told = more ++ base.told
  answered : Alerted system reader ∨ reader.Due must ∨ reader.phase = .gone ∨ must ∈ more
  noticed : alone → same base.held reader.held ∨ reader.Telling notice ∨ notice ∈ more

theorem Follows.quiet {base : Reader Name First Value Out} {more : List Out}
    (follows : Follows alone must notice same system base reader more)
    (silent : ∀ left, reader.phase ≠ .acting left) (undisturbed : alone) :
    same base.held reader.held ∨ notice ∈ more := by
  rcases follows.noticed undisturbed with still | ⟨left, telling, _⟩ | heard
  · exact Or.inl still
  · exact absurd telling (silent left)
  · exact Or.inr heard

theorem Follows.carried {base : Reader Name First Value Out} {more : List Out} {other : Prop}
    (follows : Follows alone must notice same system base reader more)
    (silent : ∀ left, reader.phase ≠ .acting left) (undisturbed : alone) :
    same base.held reader.held ∨ other ∨ notice ∈ more :=
  (follows.quiet silent undisturbed).imp_right Or.inr

theorem Follows.turn {base : Reader Name First Value Out} {more : List Out}
    (reactive : Reactive source base.name must notice same)
    (follows : Follows alone must notice same system base reader more) :
    ∃ further, Follows alone must notice same system base (reader.turn source system.world)
      further := by
  have ⟨name, subscribed, told, answered, noticed⟩ := follows
  unfold Reader.Due at answered
  unfold Reader.Telling at noticed
  unfold Reader.turn
  cases phase : reader.phase with
  | entered =>
      rw [phase] at subscribed
      cases subscribed
  | entering part =>
      rw [phase] at subscribed
      cases subscribed
  | outside =>
      rw [phase] at subscribed
      cases subscribed
  | waiting =>
      have silent : ∀ left, reader.phase ≠ .acting left := by rw [phase]; nofun
      dsimp only
      split
      · exact ⟨more, name, rfl, told, Or.inr (Or.inl trivial), follows.carried silent⟩
      · exact ⟨more, name, subscribed, told, answered, follows.carried silent⟩
  | taken =>
      have silent : ∀ left, reader.phase ≠ .acting left := by rw [phase]; nofun
      exact ⟨more, name, rfl, told, Or.inr (Or.inl trivial), follows.carried silent⟩
  | begun part =>
      have silent : ∀ left, reader.phase ≠ .acting left := by rw [phase]; nofun
      exact ⟨more, name, rfl, told, Or.inr (Or.inl trivial), follows.carried silent⟩
  | read value =>
      rw [← name] at reactive
      refine ⟨more, name, rfl, told, Or.inr (Or.inl (reactive.always _ _)), ?_⟩
      intro undisturbed
      rcases follows.quiet (by rw [phase]; nofun) undisturbed with still | heard
      · by_cases unchanged : same reader.held value
        · exact Or.inl (reactive.trans _ _ _ still unchanged)
        · exact Or.inr (Or.inl ⟨_, rfl, reactive.noticed _ _ unchanged⟩)
      · exact Or.inr (Or.inr heard)
  | acting left =>
      rw [phase] at answered noticed
      cases left with
      | nil =>
          refine ⟨more, name, rfl, told, ?_, ?_⟩
          · rcases answered with alerted | due | impossible | heard
            · exact Or.inl alerted
            · cases due
            · cases impossible
            · exact Or.inr (Or.inr (Or.inr heard))
          · intro undisturbed
            rcases noticed undisturbed with still | ⟨left, isNil, due⟩ | heard
            · exact Or.inl still
            · cases isNil
              cases due
            · exact Or.inr (Or.inr heard)
      | cons out left =>
          refine ⟨out :: more, name, rfl, congrArg (out :: ·) told, ?_, ?_⟩
          · rcases answered with alerted | due | impossible | heard
            · exact Or.inl alerted
            · rcases List.mem_cons.mp due with now | later
              · exact Or.inr (Or.inr (Or.inr (now ▸ List.mem_cons_self)))
              · exact Or.inr (Or.inl later)
            · cases impossible
            · exact Or.inr (Or.inr (Or.inr (List.mem_cons_of_mem out heard)))
          · intro undisturbed
            rcases noticed undisturbed with still | ⟨all, isCons, due⟩ | heard
            · exact Or.inl still
            · cases isCons
              rcases List.mem_cons.mp due with now | later
              · exact Or.inr (Or.inr (now ▸ List.mem_cons_self))
              · exact Or.inr (Or.inl ⟨left, rfl, later⟩)
            · exact Or.inr (Or.inr (List.mem_cons_of_mem out heard))
  | gone => exact ⟨more, name, subscribed, told, Or.inr (Or.inr (Or.inl phase)), noticed⟩

theorem Follows.step {base : Reader Name First Value Out} {more : List Out}
    (reactive : Reactive source base.name must notice same)
    (follows : Follows alone must notice same system base reader more) {index : Nat}
    (found : system.readers[index]? = some reader) (input : Input Name World)
    (undisturbed : alone → ¬ Overwrites index system input) :
    ∃ further, Follows alone must notice same (TickRefresh.step source system input) base
      (reader.after source system index input) further := by
  cases input with
  | change after =>
      exact ⟨more, { follows with answered := Or.inl (Or.inl (Nat.succ_pos _)) }⟩
  | wait span => exact ⟨more, { follows with }⟩
  | receive =>
      simp only [TickRefresh.step, Reader.after]
      split
      · exact ⟨more, follows⟩
      · exact ⟨more, { follows with answered := Or.inl (Or.inr (Or.inl rfl)) }⟩
  | fire =>
      simp only [TickRefresh.step, Reader.after]
      split
      · refine ⟨more, follows.name, follows.subscribed, follows.told, ?_, follows.noticed⟩
        refine Or.inl (Or.inr (Or.inr ?_))
        simp [Reader.tick, follows.subscribed]
      · exact ⟨more, follows⟩
  | stop => exact ⟨more, { follows with }⟩
  | enter name => exact ⟨more, { follows with }⟩
  | turn other =>
      simp only [Reader.after]
      split
      · obtain ⟨further, next⟩ := follows.turn reactive
        exact ⟨further, { next with }⟩
      · exact ⟨more, { follows with }⟩
  | aside other =>
      simp only [Reader.after]
      split
      · next here =>
          subst here
          rcases reader.asideTurn_cases source system.world with ⟨aside, same⟩ | ⟨value, reads, same⟩
          · rw [same]
            exact ⟨more, { follows with }⟩
          · rw [same]
            refine ⟨more, follows.name, follows.subscribed, follows.told, follows.answered, ?_⟩
            intro isAlone
            exact absurd ⟨rfl, reader, value, found, reads⟩ (undisturbed isAlone)
      · exact ⟨more, { follows with }⟩
  | leave other =>
      simp only [Reader.after]
      split
      · unfold Reader.leave
        cases phase : reader.phase with
        | waiting =>
            exact ⟨more, follows.name, rfl, follows.told, Or.inr (Or.inr (Or.inl rfl)),
              follows.carried (by rw [phase]; nofun)⟩
        | _ => exact ⟨more, { follows with }⟩
      · exact ⟨more, { follows with }⟩

/-- After something was queued, a reader that settles has reacted.  If the second writer
has stored nothing in between, it has given notice if its reading is not the same any
more. -/
theorem settled_reacted {base : Reader Name First Value Out} {index : Nat}
    (reactive : Reactive source base.name must notice same) (queued : 0 < system.queued)
    (present : system.readers[index]? = some base) (subscribed : base.phase.subscribed = true)
    (inputs : List (Input Name World))
    (found : (run (step source) system inputs).readers[index]? = some reader)
    (settled : Settled (run (step source) system inputs) reader) :
    ∃ more, reader.told = more ++ base.told ∧ must ∈ more ∧
      (Throughout (step source) (fun state input => ¬ Overwrites index state input) system inputs →
        ¬ same base.held reader.held → notice ∈ more) := by
  let alone : Prop :=
    Throughout (step source) (fun state input => ¬ Overwrites index state input) system inputs
  have initially : Follows alone must notice same system base base [] :=
    ⟨rfl, subscribed, rfl, Or.inl (Or.inl queued), fun _ => Or.inl (reactive.refl _)⟩
  have atEnd := run_invariant (step source)
    (fun after : System Name World First Value Out => ∃ reader more,
      after.readers[index]? = some reader ∧ Follows alone must notice same after base reader more)
    (fun state input => alone → ¬ Overwrites index state input)
    (fun after input undisturbed kept => by
      obtain ⟨before, more, was, follows⟩ := kept
      obtain ⟨further, next⟩ := follows.step reactive was input undisturbed
      exact ⟨_, further, reader_step was input, next⟩)
    system inputs ⟨base, [], present, initially⟩
    (fun before input after split undisturbed => undisturbed before input after split)
  obtain ⟨last, more, isLast, follows⟩ := atEnd
  rw [found] at isLast
  cases isLast
  refine ⟨more, follows.told, ?_, ?_⟩
  · rcases follows.answered with alerted | due | gone | heard
    · exact absurd alerted settled.not_alerted
    · unfold Reader.Due at due
      rw [settled.phase] at due
      cases due
    · rw [settled.phase] at gone
      cases gone
    · exact heard
  · intro undisturbed different
    rcases follows.quiet (by rw [settled.phase]; nofun) undisturbed with still | heard
    · exact absurd still different
    · exact heard

end Reaction

/-! ### Ticks are apart -/

section Spacing

variable {Name World First Value Out : Type} {source : Source Name World First Value Out}

structure Spaced (delay : Int) (system : System Name World First Value Out) : Prop where
  past : ∀ tick ∈ system.ticks, tick ≤ system.now
  apart : system.ticks.Pairwise (fun later earlier => earlier + delay ≤ later)
  next : ∀ deadline, system.deadline = some deadline →
    ∀ tick ∈ system.ticks, tick + delay ≤ deadline

theorem Spaced.step {system : System Name World First Value Out} {input : Input Name World}
    (spaced : Spaced source.delay system) :
    Spaced source.delay (TickRefresh.step source system input) := by
  cases input with
  | wait span =>
      refine ⟨?_, spaced.apart, spaced.next⟩
      intro tick member
      have before := spaced.past tick member
      change tick ≤ system.now + span
      omega
  | receive =>
      simp only [TickRefresh.step]
      split
      · exact spaced
      · refine ⟨spaced.past, spaced.apart, ?_⟩
        intro deadline isDeadline tick member
        cases running : system.deadline with
        | none =>
            rw [running] at isDeadline
            have armed : system.now + source.delay = deadline := Option.some.inj isDeadline
            have before := spaced.past tick member
            omega
        | some armed =>
            rw [running] at isDeadline
            have same : armed = deadline := Option.some.inj isDeadline
            rw [← same]
            exact spaced.next armed running tick member
  | fire =>
      simp only [TickRefresh.step]
      split
      · next fires =>
          unfold System.fires at fires
          cases running : system.deadline with
          | none =>
              rw [running] at fires
              cases fires
          | some deadline =>
              rw [running] at fires
              have reached : deadline ≤ system.now :=
                of_decide_eq_true (Bool.and_eq_true_iff.mp fires).2
              refine ⟨?_, List.pairwise_cons.mpr ⟨?_, spaced.apart⟩, nofun⟩
              · intro tick member
                rcases List.mem_cons.mp member with isNow | earlier
                · exact Int.le_of_eq isNow
                · exact spaced.past tick earlier
              · intro tick member
                exact Int.le_trans (spaced.next deadline running tick member) reached
      · exact spaced
  | _ => exact { spaced with }

theorem ticks_spaced (source : Source Name World First Value Out) (world : World) (now : Int)
    (inputs : List (Input Name World)) :
    (run (step source) (System.start world now) inputs).ticks.Pairwise
      (fun later earlier => earlier + source.delay ≤ later) := by
  have spaced := run_invariant (step source) (Spaced source.delay) (fun _ _ => True)
    (fun system input _ kept => kept.step) (System.start world now) inputs
    ⟨nofun, List.Pairwise.nil, nofun⟩ (fun _ _ _ _ => trivial)
  exact spaced.apart

end Spacing

/-! ### Without changes everything settles -/

section Settling

variable {Name World First Value Out : Type} {source : Source Name World First Value Out}
  {limit : Nat}

def Source.Short (source : Source Name World First Value Out) (limit : Nat) : Prop :=
  ∀ name old new, (source.react name old new).length ≤ limit

/-- How many turns a reader still has to take at most, if no tick comes. -/
def Phase.rank (limit : Nat) : Phase First Value Out → Nat
  | .entered => 4
  | .entering _ => 3
  | .outside => 2
  | .waiting => 1
  | .taken => limit + 5
  | .begun _ => limit + 4
  | .read _ => limit + 3
  | .acting left => left.length + 2
  | .gone => 0

def Reader.weight (limit : Nat) (reader : Reader Name First Value Out) : Nat :=
  reader.phase.rank limit + if reader.slot then limit + 5 else 0

/-- A tick costs each reader some turns, and a notice may cost a tick. -/
def System.weight (limit : Nat) (system : System Name World First Value Out) : Nat :=
  let tick := system.readers.length * (limit + 5) + 1
  system.queued * (tick + 1) + (if system.deadline.isSome then tick else 0) +
    (system.readers.map (Reader.weight limit)).sum

theorem Reader.turn_cases (short : source.Short limit) (world : World)
    (reader : Reader Name First Value Out) :
    (reader.phase = .waiting ∧ reader.slot = false ∧ reader.turn source world = reader) ∨
    (reader.phase = .gone ∧ reader.turn source world = reader) ∨
    (reader.turn source world).weight limit < reader.weight limit := by
  unfold Reader.turn Reader.weight
  cases phase : reader.phase with
  | waiting =>
      cases slot : reader.slot with
      | false => exact Or.inl ⟨rfl, rfl, rfl⟩
      | true =>
          refine Or.inr (Or.inr ?_)
          simp only [if_true, Phase.rank, Bool.false_eq_true, if_false]
          omega
  | gone => exact Or.inr (Or.inl ⟨rfl, rfl⟩)
  | acting left =>
      refine Or.inr (Or.inr ?_)
      cases left with
      | nil => simp [Phase.rank]
      | cons out left => simp [Phase.rank]
  | read value =>
      refine Or.inr (Or.inr ?_)
      have bounded := short reader.name reader.held value
      simp only [Phase.rank]
      omega
  | _ =>
      refine Or.inr (Or.inr ?_)
      simp only [Phase.rank]
      omega

theorem Reader.leave_cases (reader : Reader Name First Value Out) :
    reader.leave = reader ∨ reader.leave.weight limit < reader.weight limit := by
  unfold Reader.leave Reader.weight
  cases phase : reader.phase with
  | waiting =>
      right
      simp only [Phase.rank]
      omega
  | _ => exact Or.inl rfl

theorem Reader.weight_tick_le (reader : Reader Name First Value Out) :
    reader.tick.weight limit ≤ reader.weight limit + (limit + 5) := by
  unfold Reader.tick Reader.weight
  dsimp only
  split <;> split <;> omega

theorem sum_weight_tick_le (readers : List (Reader Name First Value Out)) :
    ((readers.map Reader.tick).map (Reader.weight limit)).sum ≤
      (readers.map (Reader.weight limit)).sum + readers.length * (limit + 5) := by
  induction readers with
  | nil => simp
  | cons head tail ih =>
      have ticked := @Reader.weight_tick_le _ _ _ _ limit head
      simp only [List.map_cons, List.sum_cons, List.length_cons, Nat.succ_mul]
      omega

theorem sum_map_modify {Item : Type} (weight : Item → Nat) (change : Item → Item) :
    ∀ (items : List Item) (index : Nat) (item : Item), items[index]? = some item →
      ((items.modify index change).map weight).sum + weight item =
        (items.map weight).sum + weight (change item) := by
  intro items
  induction items with
  | nil =>
      intro index item found
      cases found
  | cons head tail ih =>
      intro index item found
      cases index with
      | zero =>
          have same : head = item := Option.some.inj found
          subst same
          simp only [List.modify_zero_cons, List.map_cons, List.sum_cons]
          omega
      | succ index =>
          have later := ih index item found
          simp only [List.modify_succ_cons, List.map_cons, List.sum_cons]
          omega

def Input.isWork : Input Name World → Bool
  | .receive | .fire | .turn _ | .leave _ => true
  | _ => false

def Input.isCalm : Input Name World → Bool
  | .change _ | .stop | .enter _ => false
  | _ => true

def Calm (schedule : Nat → Input Name World) : Prop :=
  ∀ count, (schedule count).isCalm = true

theorem enters_of_calm {input : Input Name World} (calm : input.isCalm = true) (name : Name) :
    input ≠ .enter name := by
  intro enters
  rw [enters] at calm
  cases calm

theorem calm_cases {input : Input Name World} (calm : input.isCalm = true) :
    input.isWork = true ∨ (∃ span, input = .wait span) ∨ ∃ index, input = .aside index := by
  cases input with
  | wait span => exact Or.inr (Or.inl ⟨span, rfl⟩)
  | aside index => exact Or.inr (Or.inr ⟨index, rfl⟩)
  | change after => cases calm
  | stop => cases calm
  | enter name => cases calm
  | _ => exact Or.inl rfl

theorem modify_weight_cases {system : System Name World First Value Out} {index : Nat}
    {change : Reader Name First Value Out → Reader Name First Value Out}
    (lighter : ∀ reader, change reader = reader ∨
      (change reader).weight limit < reader.weight limit) :
    { system with readers := system.readers.modify index change } = system ∨
      System.weight limit { system with readers := system.readers.modify index change } <
        system.weight limit := by
  cases found : system.readers[index]? with
  | none =>
      left
      have beyond : system.readers.length ≤ index := List.getElem?_eq_none_iff.mp found
      rw [List.modify_eq_self beyond]
  | some reader =>
      rcases lighter reader with same | less
      · left
        have unchanged : system.readers.modify index change = system.readers := by
          apply List.ext_getElem?
          intro other
          rw [List.getElem?_modify]
          by_cases here : index = other
          · subst here
            rw [found]
            simp [same]
          · simp [here]
        rw [unchanged]
      · right
        have sums := sum_map_modify (Reader.weight limit) change system.readers index reader found
        unfold System.weight
        simp only [List.length_modify]
        omega

/-- What the second writer keeps of its own reader it keeps of all readers. -/
theorem map_asideTurn {Kept : Type} (keeps : Reader Name First Value Out → Kept)
    (same : ∀ reader : Reader Name First Value Out, ∀ world,
      keeps (reader.asideTurn source world) = keeps reader)
    (world : World) (readers : List (Reader Name First Value Out)) (index : Nat) :
    (readers.modify index (Reader.asideTurn source world)).map keeps = readers.map keeps := by
  apply List.ext_getElem?
  intro other
  rw [List.getElem?_map, List.getElem?_map, List.getElem?_modify]
  cases readers[other]? with
  | none => rfl
  | some reader =>
      change some (keeps (if index = other then _ else reader)) = some (keeps reader)
      split
      · rw [same]
      · rfl

theorem Reader.weight_asideTurn (reader : Reader Name First Value Out) (world : World) :
    (reader.asideTurn source world).weight limit = reader.weight limit := by
  obtain ⟨_, phase, slot, _⟩ := reader.asideTurn_same source world
  unfold Reader.weight
  rw [phase, slot]

theorem work_cases (short : source.Short limit) (system : System Name World First Value Out)
    {input : Input Name World} (work : input.isWork = true) :
    step source system input = system ∨
      (step source system input).weight limit < system.weight limit := by
  cases input with
  | receive =>
      simp only [step]
      split
      · exact Or.inl rfl
      · next goes =>
          right
          obtain ⟨_, queued⟩ := not_or.mp goes
          obtain ⟨rest, isRest⟩ := Nat.exists_eq_succ_of_ne_zero queued
          unfold System.weight
          simp only [isRest, Nat.succ_sub_one, Nat.succ_mul, Option.isSome_some, if_true]
          omega
  | fire =>
      simp only [step]
      split
      · next fires =>
          right
          have pending : system.deadline.isSome = true := by
            unfold System.fires at fires
            cases running : system.deadline with
            | none =>
                rw [running] at fires
                cases fires
            | some deadline => rfl
          have sums := @sum_weight_tick_le _ _ _ _ limit system.readers
          unfold System.weight
          simp only [pending, if_true, List.length_map, Option.isSome_none, Bool.false_eq_true,
            if_false]
          omega
      · exact Or.inl rfl
  | turn index =>
      apply modify_weight_cases
      intro reader
      rcases Reader.turn_cases short system.world reader with
        ⟨_, _, same⟩ | ⟨_, same⟩ | less
      · exact Or.inl same
      · exact Or.inl same
      · exact Or.inr less
  | leave index =>
      apply modify_weight_cases
      exact Reader.leave_cases
  | change after => cases work
  | wait span => cases work
  | stop => cases work
  | enter name => cases work
  | aside index => cases work

theorem calm_weight_le (short : source.Short limit) (system : System Name World First Value Out)
    {input : Input Name World} (calm : input.isCalm = true) :
    (step source system input).weight limit ≤ system.weight limit := by
  rcases calm_cases calm with work | ⟨span, isWait⟩ | ⟨index, isAside⟩
  · rcases work_cases short system work with same | less
    · exact Nat.le_of_eq (congrArg (System.weight limit) same)
    · exact Nat.le_of_lt less
  · rw [isWait]
    exact Nat.le_refl _
  · rw [isAside]
    apply Nat.le_of_eq
    simp only [step, System.weight, List.length_modify,
      map_asideTurn (Reader.weight limit) Reader.weight_asideTurn]

def Input.span : Input Name World → Nat
  | .wait span => span
  | _ => 0

def stateAt (source : Source Name World First Value Out)
    (system : System Name World First Value Out) (schedule : Nat → Input Name World) :
    Nat → System Name World First Value Out
  | 0 => system
  | count + 1 => step source (stateAt source system schedule count) (schedule count)

/-- The loop and each reader get their turns again and again, and time goes on. -/
structure Fair (source : Source Name World First Value Out)
    (system : System Name World First Value Out) (schedule : Nat → Input Name World) : Prop where
  receives : ∀ count, ∃ later, count ≤ later ∧ schedule later = .receive
  fires : ∀ count, ∃ later, count ≤ later ∧ schedule later = .fire
  turns : ∀ index, index < system.readers.length →
    ∀ count, ∃ later, count ≤ later ∧ schedule later = .turn index
  time : ∀ instant, ∃ count, instant ≤ (stateAt source system schedule count).now

section Schedule

variable {system : System Name World First Value Out} {schedule : Nat → Input Name World}

theorem now_step (source : Source Name World First Value Out)
    (system : System Name World First Value Out) (input : Input Name World) :
    (step source system input).now = system.now + input.span := by
  cases input with
  | wait span => rfl
  | receive =>
      simp only [step, Input.span, Int.natCast_zero, Int.add_zero]
      split <;> rfl
  | fire =>
      simp only [step, Input.span, Int.natCast_zero, Int.add_zero]
      split <;> rfl
  | _ => exact (Int.add_zero _).symm

theorem now_le_stateAt {first second : Nat} (order : first ≤ second) :
    (stateAt source system schedule first).now ≤ (stateAt source system schedule second).now := by
  induction order with
  | refl => exact Int.le_refl _
  | @step later _ ih =>
      have next := now_step source (stateAt source system schedule later) (schedule later)
      change _ ≤ (step source (stateAt source system schedule later) (schedule later)).now
      omega

theorem step_running {system : System Name World First Value Out} {input : Input Name World}
    (calm : input.isCalm = true) (running : system.stopped = false) :
    (step source system input).stopped = false := by
  cases input with
  | stop => cases calm
  | receive =>
      simp only [step]
      split <;> exact running
  | fire =>
      simp only [step]
      split <;> exact running
  | _ => exact running

theorem step_world {system : System Name World First Value Out} {input : Input Name World}
    (calm : input.isCalm = true) : (step source system input).world = system.world := by
  cases input with
  | change after => cases calm
  | receive =>
      simp only [step]
      split <;> rfl
  | fire =>
      simp only [step]
      split <;> rfl
  | _ => rfl

/-- From here on the steps of the loop and of the readers change nothing. -/
def IdleFrom (source : Source Name World First Value Out)
    (system : System Name World First Value Out) (schedule : Nat → Input Name World)
    (start : Nat) : Prop :=
  ∀ count, start ≤ count → (schedule count).isWork = true →
    step source (stateAt source system schedule count) (schedule count) =
      stateAt source system schedule count

theorem exists_idle (short : source.Short limit) (calm : Calm schedule) :
    ∃ start, IdleFrom source system schedule start := by
  let remaining := fun count => (stateAt source system schedule count).weight limit
  have falls : ∀ first second, first ≤ second → remaining second ≤ remaining first := by
    intro first second order
    induction order with
    | refl => exact Nat.le_refl _
    | step _ ih => exact Nat.le_trans (calm_weight_le short _ (calm _)) ih
  refine ⟨Function.argmin remaining, ?_⟩
  intro count reached work
  rcases work_cases short (stateAt source system schedule count) work with same | less
  · exact same
  · exfalso
    have least : remaining (Function.argmin remaining) ≤ remaining (count + 1) :=
      Function.argmin_le remaining (count + 1)
    have most := falls _ _ reached
    have next : remaining (count + 1) < remaining count := less
    omega

def Reader.stage (reader : Reader Name First Value Out) : Phase First Value Out × Bool :=
  (reader.phase, reader.slot)

/-- Nothing but the clock, what is held and the second writers differs. -/
structure Alike (first second : System Name World First Value Out) : Prop where
  queued : second.queued = first.queued
  deadline : second.deadline = first.deadline
  stages : second.readers.map Reader.stage = first.readers.map Reader.stage

theorem Reader.stage_asideTurn (reader : Reader Name First Value Out) (world : World) :
    (reader.asideTurn source world).stage = reader.stage := by
  obtain ⟨_, phase, slot, _⟩ := reader.asideTurn_same source world
  unfold Reader.stage
  rw [phase, slot]

theorem IdleFrom.alike {start count : Nat} (idle : IdleFrom source system schedule start)
    (calm : Calm schedule) (reached : start ≤ count) :
    Alike (stateAt source system schedule start) (stateAt source system schedule count) := by
  induction reached with
  | refl => exact ⟨rfl, rfl, rfl⟩
  | @step count reached ih =>
      change Alike _ (step source (stateAt source system schedule count) (schedule count))
      rcases calm_cases (calm count) with work | ⟨span, isWait⟩ | ⟨index, isAside⟩
      · rw [idle count reached work]
        exact ih
      · rw [isWait]
        exact ⟨ih.queued, ih.deadline, ih.stages⟩
      · rw [isAside]
        refine ⟨ih.queued, ih.deadline, ?_⟩
        simp only [step, map_asideTurn Reader.stage Reader.stage_asideTurn]
        exact ih.stages

theorem IdleFrom.at {start count : Nat} {input : Input Name World}
    (idle : IdleFrom source system schedule start) (reached : start ≤ count)
    (happens : schedule count = input) (work : input.isWork = true) :
    step source (stateAt source system schedule count) input =
      stateAt source system schedule count := by
  subst happens
  exact idle count reached work

theorem queued_of_idle (running : system.stopped = false)
    (idle : step source system .receive = system) : system.queued = 0 := by
  by_contra queued
  have goes : ¬ (system.stopped = true ∨ system.queued = 0) := by simp [running, queued]
  simp only [step, if_neg goes] at idle
  have fewer := congrArg System.queued idle
  dsimp only at fewer
  omega

theorem not_fires_of_idle (idle : step source system .fire = system) : system.fires = false := by
  cases fires : system.fires with
  | false => rfl
  | true =>
      simp only [step, fires, if_true] at idle
      have longer := congrArg (fun after => after.ticks.length) idle
      simp at longer

theorem reader_of_idle (short : source.Short limit) {index : Nat}
    {reader : Reader Name First Value Out} (found : system.readers[index]? = some reader)
    (idle : step source system (.turn index) = system) :
    (reader.phase = .waiting ∧ reader.slot = false) ∨ reader.phase = .gone := by
  have after : (step source system (.turn index)).readers[index]? =
      some (reader.after source system index (.turn index)) := reader_step found (.turn index)
  rw [idle, found] at after
  have same : reader = reader.turn source system.world := by
    simpa [Reader.after] using after
  rcases Reader.turn_cases short system.world reader with
    ⟨waits, empty, _⟩ | ⟨gone, _⟩ | less
  · exact Or.inl ⟨waits, empty⟩
  · exact Or.inr gone
  · rw [← same] at less
    exact absurd less (Nat.lt_irrefl _)

theorem stateAt_length (source : Source Name World First Value Out)
    (system : System Name World First Value Out) (calm : Calm schedule) (count : Nat) :
    (stateAt source system schedule count).readers.length = system.readers.length := by
  induction count with
  | zero => rfl
  | succ count ih =>
      exact (length_step (enters_of_calm (calm count))).trans ih

theorem stateAt_running (source : Source Name World First Value Out)
    (running : system.stopped = false) (calm : Calm schedule) (count : Nat) :
    (stateAt source system schedule count).stopped = false := by
  induction count with
  | zero => exact running
  | succ count ih => exact step_running (calm count) ih

section Idle

variable {start : Nat} (idle : IdleFrom source system schedule start) (calm : Calm schedule)
  (fair : Fair source system schedule)

include idle calm fair

theorem IdleFrom.queue_empty (running : system.stopped = false) :
    (stateAt source system schedule start).queued = 0 := by
  obtain ⟨later, order, receives⟩ := fair.receives start
  have empty := queued_of_idle (stateAt_running source running calm later)
    (idle.at order receives rfl)
  exact (idle.alike calm order).queued.symm.trans empty

theorem IdleFrom.timer_stopped (running : system.stopped = false) :
    (stateAt source system schedule start).deadline = none := by
  cases armed : (stateAt source system schedule start).deadline with
  | none => rfl
  | some deadline =>
      exfalso
      obtain ⟨due, passed⟩ := fair.time deadline
      obtain ⟨later, order, fires⟩ := fair.fires (max start due)
      have afterStart : start ≤ later := Nat.le_trans (Nat.le_max_left _ _) order
      have afterDue : due ≤ later := Nat.le_trans (Nat.le_max_right _ _) order
      have silent := not_fires_of_idle (idle.at afterStart fires rfl)
      have late : deadline ≤ (stateAt source system schedule later).now :=
        Int.le_trans passed (now_le_stateAt afterDue)
      have still : (stateAt source system schedule later).deadline = some deadline :=
        (idle.alike calm afterStart).deadline.trans armed
      simp [System.fires, still, stateAt_running source running calm later, late] at silent

theorem IdleFrom.reader_waits {index : Nat} {reader : Reader Name First Value Out}
    (short : source.Short limit)
    (found : (stateAt source system schedule start).readers[index]? = some reader) :
    (reader.phase = .waiting ∧ reader.slot = false) ∨ reader.phase = .gone := by
  have inside : index < system.readers.length := by
    rw [← stateAt_length source system calm start]
    exact (List.getElem?_eq_some_iff.mp found).1
  obtain ⟨later, order, turns⟩ := fair.turns index inside start
  have stages := congrArg (fun stages => stages[index]?) (idle.alike calm order).stages
  simp only [List.getElem?_map, found, Option.map_some] at stages
  obtain ⟨then_, there, same⟩ := Option.map_eq_some_iff.mp stages
  obtain ⟨phase, slot⟩ := Prod.mk.inj same
  rw [← phase, ← slot]
  exact reader_of_idle short there (idle.at order turns rfl)

end Idle

theorem eventually_settled (short : source.Short limit) (running : system.stopped = false)
    (calm : Calm schedule) (fair : Fair source system schedule) :
    ∃ start, ∀ count, start ≤ count → ∀ (index : Nat) (reader : Reader Name First Value Out),
      (stateAt source system schedule count).readers[index]? = some reader →
      Settled (stateAt source system schedule count) reader ∨ reader.phase = .gone := by
  obtain ⟨start, fromStart⟩ := @exists_idle _ _ _ _ _ source limit system schedule short calm
  refine ⟨start, ?_⟩
  intro count reached index reader found
  have idle : IdleFrom source system schedule count :=
    fun later order => fromStart later (Nat.le_trans reached order)
  rcases idle.reader_waits calm fair short found with ⟨waits, empty⟩ | gone
  · left
    exact ⟨idle.queue_empty calm fair running, idle.timer_stopped calm fair running, empty, waits⟩
  · exact Or.inr gone

theorem stateAt_world (source : Source Name World First Value Out)
    (system : System Name World First Value Out) (calm : Calm schedule) (count : Nat) :
    (stateAt source system schedule count).world = system.world := by
  induction count with
  | zero => rfl
  | succ count ih => exact (step_world (calm count)).trans ih

theorem AllAbreast.step {input : Input Name World} (calm : input.isCalm = true)
    (all : AllAbreast source system) : AllAbreast source (TickRefresh.step source system input) := by
  intro index reader present
  rw [step_world calm]
  rcases reader_cases present with ⟨before, was, same⟩ | ⟨name, isEnter, _⟩
  · rw [same]
    exact (all index before was).after
  · exact absurd isEnter (enters_of_calm calm name)

theorem stateAt_informed (informed : AllInformed source system)
    (subscribed : AllSubscribed system) (abreast : AllAbreast source system)
    (calm : Calm schedule) (count : Nat) :
    AllInformed source (stateAt source system schedule count) ∧
      AllSubscribed (stateAt source system schedule count) ∧
      AllAbreast source (stateAt source system schedule count) := by
  induction count with
  | zero => exact ⟨informed, subscribed, abreast⟩
  | succ count ih =>
      obtain ⟨still, all, level⟩ := ih
      exact ⟨still.step all.heard level.timely, all.step (enters_of_calm (calm count)),
        level.step (calm count)⟩

/-- On a fair schedule without changes each subscribed reader holds the present reading
from some point on, or has left, if no second writer has an old reading in hand. -/
theorem eventually_current (short : source.Short limit) (running : system.stopped = false)
    (informed : AllInformed source system) (subscribed : AllSubscribed system)
    (abreast : AllAbreast source system) (calm : Calm schedule) (fair : Fair source system schedule) :
    ∃ start, ∀ count, start ≤ count → ∀ (index : Nat) (reader : Reader Name First Value Out),
      (stateAt source system schedule count).readers[index]? = some reader →
      reader.held = source.current reader.name system.world ∨ reader.phase = .gone := by
  obtain ⟨start, settles⟩ := eventually_settled short running calm fair
  refine ⟨start, ?_⟩
  intro count reached index reader found
  rcases settles count reached index reader found with settled | gone
  · left
    rw [← stateAt_world source system calm count]
    exact settled.current
      ((stateAt_informed informed subscribed abreast calm count).1 index reader found)
  · exact Or.inr gone

end Schedule

end Settling

end BridgeDhcp.TickRefresh
