/-
Runs of a deterministic step function over a finite list of inputs.

The state after a run is a left fold.  What one step preserves is lifted to the
whole run here, once: a plain invariant, an invariant indexed by a clock that
never goes back, and a fact that survives unless some input of the run gives it
up.  Nothing in this file refers to a particular system.
-/

import Mathlib.Data.List.Basic
import Mathlib.Order.Basic

set_option autoImplicit false

namespace BridgeDhcp.StepRun

variable {State Input : Type}

def run (step : State → Input → State) (start : State) (inputs : List Input) : State :=
  inputs.foldl step start

variable (step : State → Input → State)

@[simp] theorem run_nil (start : State) : run step start [] = start := rfl

@[simp] theorem run_cons (start : State) (input : Input) (rest : List Input) :
    run step start (input :: rest) = run step (step start input) rest := rfl

theorem run_append (start : State) (first second : List Input) :
    run step start (first ++ second) = run step (run step start first) second := by
  unfold run
  rw [List.foldl_append]

/-! ### Conditions along a run -/

/-- A condition on the state and the next input holds at every input of the run. -/
def Throughout (Allowed : State → Input → Prop) (start : State) (inputs : List Input) : Prop :=
  ∀ before input after, inputs = before ++ input :: after →
    Allowed (run step start before) input

theorem throughout_cons_iff (Allowed : State → Input → Prop) (start : State) (input : Input)
    (rest : List Input) :
    Throughout step Allowed start (input :: rest) ↔
      Allowed start input ∧ Throughout step Allowed (step start input) rest := by
  constructor
  · intro always
    refine ⟨always [] input rest rfl, ?_⟩
    intro before later after split
    have found := always (input :: before) later after (by rw [split, List.cons_append])
    rw [run_cons] at found
    exact found
  · intro both before later after split
    cases before with
    | nil =>
        cases split
        exact both.1
    | cons head tail =>
        cases split
        rw [run_cons]
        exact both.2 tail later after rfl

instance decidableThroughout (Allowed : State → Input → Prop)
    [∀ state input, Decidable (Allowed state input)] :
    ∀ (start : State) (inputs : List Input), Decidable (Throughout step Allowed start inputs)
  | start, [] => .isTrue (fun before _ _ split => by cases before <;> cases split)
  | start, input :: rest =>
      have _later := decidableThroughout Allowed (step start input) rest
      decidable_of_iff _ (throughout_cons_iff step Allowed start input rest).symm

theorem throughout_of_forall {Allowed : Input → Prop} {start : State} {inputs : List Input}
    (allowed : ∀ input ∈ inputs, Allowed input) :
    Throughout step (fun _ input => Allowed input) start inputs := by
  intro before input after split
  apply allowed input
  rw [split]
  exact List.mem_append_right before List.mem_cons_self

theorem Throughout.left {Allowed : State → Input → Prop} {start : State}
    {first second : List Input} (always : Throughout step Allowed start (first ++ second)) :
    Throughout step Allowed start first := by
  intro before input after split
  apply always before input (after ++ second)
  rw [split, List.append_assoc, List.cons_append]

def check (test : State → Input → Bool) (start : State) : List Input → Bool
  | [] => true
  | input :: rest => test start input && check test (step start input) rest

theorem throughout_of_check {Allowed : State → Input → Prop} {test : State → Input → Bool}
    (sound : ∀ state input, test state input = true → Allowed state input)
    {start : State} {inputs : List Input} (checked : check step test start inputs = true) :
    Throughout step Allowed start inputs := by
  induction inputs generalizing start with
  | nil =>
      intro before input after split
      cases before <;> cases split
  | cons input rest ih =>
      obtain ⟨now, later⟩ := Bool.and_eq_true_iff.mp checked
      exact (throughout_cons_iff step Allowed start input rest).mpr ⟨sound start input now, ih later⟩

/-! ### Invariants -/

theorem run_invariant (Holds : State → Prop) (Allowed : State → Input → Prop)
    (kept : ∀ state input, Allowed state input → Holds state → Holds (step state input))
    (start : State) (inputs : List Input)
    (initially : Holds start) (allowed : Throughout step Allowed start inputs) :
    Holds (run step start inputs) := by
  induction inputs generalizing start with
  | nil => exact initially
  | cons input rest ih =>
      obtain ⟨now, later⟩ := (throughout_cons_iff step Allowed start input rest).mp allowed
      rw [run_cons]
      exact ih (step start input) (kept start input now initially) later

/-! ### Runs against a clock -/

/-- The inputs carry instants of a clock that never goes back. -/
def Chronological {Instant : Type} [LE Instant] (at_ : Input → Instant)
    (inputs : List Input) : Prop :=
  inputs.Pairwise (fun earlier later => at_ earlier ≤ at_ later)

section Clock

variable {Instant : Type} [Preorder Instant] (at_ : Input → Instant)

theorem Chronological.tail {input : Input} {rest : List Input}
    (ordered : Chronological at_ (input :: rest)) : Chronological at_ rest :=
  (List.pairwise_cons.mp ordered).2

theorem Chronological.head_le {input later : Input} {rest : List Input}
    (ordered : Chronological at_ (input :: rest)) (member : later ∈ rest) :
    at_ input ≤ at_ later :=
  (List.pairwise_cons.mp ordered).1 later member

theorem Chronological.left {first second : List Input}
    (ordered : Chronological at_ (first ++ second)) : Chronological at_ first :=
  (List.pairwise_append.mp ordered).1

theorem Chronological.right {first second : List Input}
    (ordered : Chronological at_ (first ++ second)) : Chronological at_ second :=
  (List.pairwise_append.mp ordered).2.1

theorem Chronological.across {first second : List Input} {earlier later : Input}
    (ordered : Chronological at_ (first ++ second))
    (inFirst : earlier ∈ first) (inSecond : later ∈ second) :
    at_ earlier ≤ at_ later :=
  (List.pairwise_append.mp ordered).2.2 earlier inFirst later inSecond

/-- An invariant indexed by the current instant.  Waiting keeps it, and so does
an allowed input at its own instant; then it holds at every instant not before
the last input. -/
theorem run_invariant_at (Holds : Instant → State → Prop) (Allowed : State → Input → Prop)
    (waits : ∀ earlier later state, earlier ≤ later → Holds earlier state → Holds later state)
    (kept : ∀ state input, Allowed state input → Holds (at_ input) state →
      Holds (at_ input) (step state input))
    (start : State) (begun : Instant) (inputs : List Input)
    (initially : Holds begun start) (ordered : Chronological at_ inputs)
    (allowed : Throughout step Allowed start inputs)
    (after : ∀ input ∈ inputs, begun ≤ at_ input)
    (now : Instant) (started : begun ≤ now) (reached : ∀ input ∈ inputs, at_ input ≤ now) :
    Holds now (run step start inputs) := by
  induction inputs generalizing start begun with
  | nil => exact waits begun now start started initially
  | cons input rest ih =>
      obtain ⟨permitted, restPermitted⟩ :=
        (throughout_cons_iff step Allowed start input rest).mp allowed
      rw [run_cons]
      have arrived : Holds (at_ input) start :=
        waits begun (at_ input) start (after input List.mem_cons_self) initially
      apply ih (step start input) (at_ input)
      · exact kept start input permitted arrived
      · exact ordered.tail
      · exact restPermitted
      · intro later member
        exact ordered.head_le at_ member
      · exact reached input List.mem_cons_self
      · intro later member
        exact reached later (List.mem_cons_of_mem input member)

theorem run_invariant_always (Holds : Instant → State → Prop) (Allowed : State → Input → Prop)
    (waits : ∀ earlier later state, earlier ≤ later → Holds earlier state → Holds later state)
    (kept : ∀ state input, Allowed state input → Holds (at_ input) state →
      Holds (at_ input) (step state input))
    (start : State) (inputs : List Input)
    (initially : ∀ instant, Holds instant start) (ordered : Chronological at_ inputs)
    (allowed : Throughout step Allowed start inputs)
    (now : Instant) (reached : ∀ input ∈ inputs, at_ input ≤ now) :
    Holds now (run step start inputs) := by
  cases inputs with
  | nil => exact initially now
  | cons input rest =>
      apply run_invariant_at step at_ Holds Allowed waits kept start (at_ input) (input :: rest)
        (initially (at_ input)) ordered allowed
      · intro later member
        rcases List.mem_cons.mp member with same | after
        · exact le_of_eq (congrArg at_ same.symm)
        · exact ordered.head_le at_ after
      · exact reached input List.mem_cons_self
      · exact reached

end Clock

/-! ### Facts that survive until they are given up -/

/-- The run contains an input at which `GivesUp` holds of the state before it. -/
def Occurs (GivesUp : State → Input → Prop) (start : State) (inputs : List Input) : Prop :=
  ∃ before input after, inputs = before ++ input :: after ∧
    GivesUp (run step start before) input

/-- A fact that each allowed input keeps or gives up either survives the run or
was given up at some point of it. -/
theorem run_keeps_or_occurs (Holds : State → Prop) (GivesUp : State → Input → Prop)
    (Allowed : Input → Prop)
    (kept : ∀ state input, Allowed input → Holds state →
      Holds (step state input) ∨ GivesUp state input)
    (start : State) (inputs : List Input)
    (initially : Holds start) (allowed : ∀ input ∈ inputs, Allowed input) :
    Holds (run step start inputs) ∨ Occurs step GivesUp start inputs := by
  induction inputs generalizing start with
  | nil => exact Or.inl initially
  | cons input rest ih =>
      rcases kept start input (allowed input List.mem_cons_self) initially with next | gone
      · have restAllowed : ∀ later ∈ rest, Allowed later := by
          intro later member
          exact allowed later (List.mem_cons_of_mem input member)
        rcases ih (step start input) next restAllowed with survives | occurs
        · exact Or.inl survives
        · obtain ⟨before, culprit, after, split, gone⟩ := occurs
          refine Or.inr ⟨input :: before, culprit, after, ?_, gone⟩
          rw [split, List.cons_append]
      · exact Or.inr ⟨[], input, rest, rfl, gone⟩

end BridgeDhcp.StepRun
