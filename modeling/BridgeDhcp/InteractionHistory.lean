/-
Runs of a program that remember their steps.

What a program did is often the reason for what it does next.  The recorded world
keeps every step taken so far beside the world itself, so that an invariant can
speak about the past; the program never reads it.
-/

import BridgeDhcp.InteractionProgram

set_option autoImplicit false

namespace BridgeDhcp.Interaction

structure Step (World Input Op : Type) where
  world : World
  input : Input
  op : Op

section Recording

variable {Op : Type} {Answer : Op → Type} {Value World Input : Type}
  (handle : World → Input → (op : Op) → Option (Answer op × World))

def recorded (state : World × List (Step World Input Op)) (input : Input) (op : Op) :
    Option (Answer op × (World × List (Step World Input Op))) :=
  (handle state.1 input op).map
    (fun result => (result.1, result.2, ⟨state.1, input, op⟩ :: state.2))

def history (program : Prog Op Answer Value) (world : World) (inputs : List Input) :
    List (Step World Input Op) :=
  (exec (recorded handle) program (world, []) inputs).2

variable {handle}

theorem recorded_cases {state after : World × List (Step World Input Op)} {input : Input}
    {op : Op} {answer : Answer op}
    (answered : recorded handle state input op = some (answer, after)) :
    handle state.1 input op = some (answer, after.1) ∧
      after.2 = ⟨state.1, input, op⟩ :: state.2 := by
  obtain ⟨result, handled, same⟩ := Option.map_eq_some_iff.mp answered
  cases same
  exact ⟨handled, rfl⟩

theorem Safe.recorded {Holds : World → Prop} {Allowed : World → Op → Input → Prop}
    {post : Value → World → Prop} {program : Prog Op Answer Value} {world : World}
    (safe : Safe handle Holds Allowed program post world) (past : List (Step World Input Op)) :
    Safe (Interaction.recorded handle) (fun state => Holds state.1)
      (fun state => Allowed state.1) program (fun value state => post value state.1)
      (world, past) := by
  induction program generalizing world past with
  | ret value => exact safe
  | cut => trivial
  | act op next ih =>
      intro input allowed answer after answered
      obtain ⟨handled, _⟩ := recorded_cases answered
      obtain ⟨holds, continues⟩ := safe input allowed answer after.1 handled
      exact ⟨holds, ih answer continues after.2⟩

theorem permitted_recorded {Allowed : World → Op → Input → Prop} {program : Prog Op Answer Value}
    {world : World} {inputs : List Input} (past : List (Step World Input Op))
    (permitted : Permitted handle Allowed program world inputs) :
    Permitted (recorded handle) (fun state => Allowed state.1) program (world, past) inputs := by
  induction inputs generalizing program world past with
  | nil => cases program <;> trivial
  | cons input rest ih =>
      cases program with
      | ret value => trivial
      | cut => trivial
      | act op next =>
          obtain ⟨allowed, later⟩ := permitted
          refine ⟨allowed, ?_⟩
          unfold recorded
          cases handled : handle world input op with
          | none => trivial
          | some result =>
              rw [handled] at later
              exact ih (⟨world, input, op⟩ :: past) later

theorem history_of_safe {Holds : List (Step World Input Op) → Prop}
    {Allowed : World → Op → Input → Prop}
    {post : Value → World × List (Step World Input Op) → Prop}
    (program : Prog Op Answer Value) (world : World) (inputs : List Input) (initially : Holds [])
    (safe : Safe (recorded handle) (fun state => Holds state.2) (fun state => Allowed state.1)
      program post (world, []))
    (permitted : Permitted handle Allowed program world inputs) :
    Holds (history handle program world inputs) :=
  exec_of_safe program (world, []) inputs initially safe (permitted_recorded [] permitted)

/-! ### Runs whose every step is good -/

/-- Every allowed step is good after the steps before it, the latest first, and if the
program returns then the postcondition holds. -/
def Traces (handle : World → Input → (op : Op) → Option (Answer op × World))
    (Allowed : World → Op → Input → Prop)
    (Good : List (Step World Input Op) → Step World Input Op → Prop) :
    Prog Op Answer Value → (Value → World → List (Step World Input Op) → Prop) → World →
      List (Step World Input Op) → Prop
  | .ret value, post, world, past => post value world past
  | .cut, _, _, _ => True
  | .act op next, post, world, past =>
      ∀ input, Allowed world op input → ∀ answer after,
        handle world input op = some (answer, after) →
        Good past ⟨world, input, op⟩ ∧
          Traces handle Allowed Good (next answer) post after (⟨world, input, op⟩ :: past)

def EachGood (Good : List (Step World Input Op) → Step World Input Op → Prop) :
    List (Step World Input Op) → Prop
  | [] => True
  | step :: past => Good past step ∧ EachGood Good past

section Traces

variable {Allowed : World → Op → Input → Prop}
  {Good : List (Step World Input Op) → Step World Input Op → Prop}
  {post : Value → World → List (Step World Input Op) → Prop}
  {past : List (Step World Input Op)}

theorem EachGood.split {later earlier : List (Step World Input Op)} {step : Step World Input Op}
    (good : EachGood Good (later ++ step :: earlier)) : Good earlier step := by
  induction later with
  | nil => exact good.1
  | cons latest rest ih => exact ih good.2

theorem Traces.mono {weaker : Value → World → List (Step World Input Op) → Prop}
    {program : Prog Op Answer Value} {world : World}
    (traces : Traces handle Allowed Good program post world past)
    (implies : ∀ value after steps, post value after steps → weaker value after steps) :
    Traces handle Allowed Good program weaker world past := by
  induction program generalizing world past with
  | ret value => exact implies value world past traces
  | cut => trivial
  | act op next ih =>
      intro input allowed answer after handled
      obtain ⟨good, continues⟩ := traces input allowed answer after handled
      exact ⟨good, ih answer continues⟩

theorem Traces.bind {Result : Type} {final : Result → World → List (Step World Input Op) → Prop}
    {program : Prog Op Answer Value} {next : Value → Prog Op Answer Result} {world : World}
    (traces : Traces handle Allowed Good program
      (fun value after steps => Traces handle Allowed Good (next value) final after steps)
      world past) :
    Traces handle Allowed Good (program >>= next) final world past := by
  induction program generalizing world past with
  | ret value => exact traces
  | cut => trivial
  | act op rest ih =>
      intro input allowed answer after handled
      obtain ⟨good, continues⟩ := traces input allowed answer after handled
      exact ⟨good, ih answer continues⟩

theorem Traces.restrict {Fewer : World → Op → Input → Prop} {program : Prog Op Answer Value}
    {world : World} (traces : Traces handle Allowed Good program post world past)
    (allows : ∀ state op input, Fewer state op input → Allowed state op input) :
    Traces handle Fewer Good program post world past := by
  induction program generalizing world past with
  | ret value => exact traces
  | cut => trivial
  | act op next ih =>
      intro input allowed answer after handled
      obtain ⟨good, continues⟩ := traces input (allows world op input allowed) answer after handled
      exact ⟨good, ih answer continues⟩

theorem Traces.weaken {Fair : List (Step World Input Op) → Step World Input Op → Prop}
    {program : Prog Op Answer Value} {world : World}
    (traces : Traces handle Allowed Good program post world past)
    (implies : ∀ steps step, Good steps step → Fair steps step) :
    Traces handle Allowed Fair program post world past := by
  induction program generalizing world past with
  | ret value => exact traces
  | cut => trivial
  | act op next ih =>
      intro input allowed answer after handled
      obtain ⟨good, continues⟩ := traces input allowed answer after handled
      exact ⟨implies _ _ good, ih answer continues⟩

theorem Traces.within {Permits : Op → Prop} {Inside : World → Prop}
    {program : Prog Op Answer Value} {world : World} (uses : Uses Permits program)
    (kept : ∀ state input op answer after, Permits op → Allowed state op input →
      handle state input op = some (answer, after) → Inside state → Inside after)
    (traces : Traces handle Allowed Good program post world past) (inside : Inside world) :
    Traces handle Allowed (fun steps step => Good steps step ∧ Inside step.world) program
      (fun value after steps => post value after steps ∧ Inside after) world past := by
  induction program generalizing world past with
  | ret value => exact ⟨traces, inside⟩
  | cut => trivial
  | act op next ih =>
      intro input allowed answer after handled
      obtain ⟨good, continues⟩ := traces input allowed answer after handled
      refine ⟨⟨good, inside⟩, ?_⟩
      exact ih answer (uses.2 answer) continues
        (kept world input op answer after uses.1 allowed handled inside)

theorem Traces.recorded {program : Prog Op Answer Value} {world : World}
    (traces : Traces handle Allowed Good program post world past) (before : EachGood Good past) :
    Safe (Interaction.recorded handle) (fun state => EachGood Good state.2)
      (fun state => Allowed state.1) program (fun value state => post value state.1 state.2)
      (world, past) := by
  induction program generalizing world past with
  | ret value => exact traces
  | cut => trivial
  | act op next ih =>
      intro input allowed answer after answered
      obtain ⟨handled, remembered⟩ := recorded_cases answered
      obtain ⟨good, continues⟩ := traces input allowed answer after.1 handled
      rw [← remembered] at continues
      have extended : EachGood Good after.2 := by
        rw [remembered]
        exact ⟨good, before⟩
      exact ⟨extended, ih answer continues extended⟩

/-- Wherever a run is cut, the step there is good after the steps before it. -/
theorem good_of_traces {program : Prog Op Answer Value} {world : World} {inputs : List Input}
    (traces : Traces handle Allowed Good program post world [])
    (permitted : Permitted handle Allowed program world inputs)
    {later earlier : List (Step World Input Op)} {step : Step World Input Op}
    (cut : history handle program world inputs = later ++ step :: earlier) : Good earlier step := by
  have nothing : EachGood Good ([] : List (Step World Input Op)) := trivial
  have safe := traces.recorded nothing
  have each : EachGood Good (history handle program world inputs) :=
    exec_of_safe program (world, []) inputs nothing safe (permitted_recorded [] permitted)
  rw [cut] at each
  exact each.split

theorem exec_of_traces {Holds : World → Prop} {program : Prog Op Answer Value} {world : World}
    {inputs : List Input} (traces : Traces handle Allowed Good program post world past)
    (kept : ∀ steps state input op answer after, Good steps ⟨state, input, op⟩ →
      Allowed state op input → handle state input op = some (answer, after) → Holds state →
      Holds after)
    (initially : Holds world) (permitted : Permitted handle Allowed program world inputs) :
    Holds (exec handle program world inputs) := by
  induction inputs generalizing program world past with
  | nil => cases program <;> exact initially
  | cons input rest ih =>
      cases program with
      | ret value => exact initially
      | cut => exact initially
      | act op next =>
          obtain ⟨allowed, later⟩ := permitted
          unfold exec
          cases handled : handle world input op with
          | none => exact initially
          | some result =>
              obtain ⟨answer, after⟩ := result
              rw [handled] at later
              obtain ⟨good, continues⟩ := traces input allowed answer after handled
              exact ih continues
                (kept past world input op answer after good allowed handled initially) later

end Traces

end Recording

end BridgeDhcp.Interaction
