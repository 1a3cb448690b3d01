/-
Programs that interact with a world step by step, and rules to reason about them.

A program is a tree of operations: each operation is answered by the world, which
changes as it answers, and the answer selects how the program goes on.  Inputs
resolve what the world leaves open.  The meaning of a program is what it does to
the world under a list of inputs, one for each operation, so that the lists are
the finite beginnings of its runs.

A loop is written with fuel and cut when the fuel is used up; a statement for all
fuel is then a statement about all beginnings of all runs.
-/

import Mathlib.Tactic.Common

set_option autoImplicit false

namespace BridgeDhcp.Interaction

/-- A program over operations `op`, each answered by an `Answer op`. -/
inductive Prog (Op : Type) (Answer : Op → Type) (Value : Type) : Type where
  | ret (value : Value)
  | cut
  | act (op : Op) (next : Answer op → Prog Op Answer Value)

namespace Prog

variable {Op : Type} {Answer : Op → Type} {First Second : Type}

def bind (program : Prog Op Answer First) (next : First → Prog Op Answer Second) :
    Prog Op Answer Second :=
  match program with
  | .ret value => next value
  | .cut => .cut
  | .act op rest => .act op (fun answer => (rest answer).bind next)

instance : Monad (Prog Op Answer) where
  pure := .ret
  bind := bind

def perform (op : Op) : Prog Op Answer (Answer op) := .act op .ret

theorem bind_assoc {Third : Type} (program : Prog Op Answer First)
    (next : First → Prog Op Answer Second) (last : Second → Prog Op Answer Third) :
    (program >>= next) >>= last = program >>= (fun value => next value >>= last) := by
  induction program with
  | ret value => rfl
  | cut => rfl
  | act op rest ih => exact congrArg (Prog.act op) (funext ih)

end Prog

/-! ### Runs -/

section Runs

variable {Op : Type} {Answer : Op → Type} {Value World Input : Type}
  (handle : World → Input → (op : Op) → Option (Answer op × World))

/-- The world after the inputs.  A run ends early when the program does and when
the world cannot answer the operation in the way the input asks for. -/
def exec : Prog Op Answer Value → World → List Input → World
  | .act op next, world, input :: rest =>
      match handle world input op with
      | some (answer, after) => exec (next answer) after rest
      | none => world
  | _, world, _ => world

def Permitted (Allowed : World → Op → Input → Prop) :
    Prog Op Answer Value → World → List Input → Prop
  | .act op next, world, input :: rest =>
      Allowed world op input ∧
        (handle world input op).elim True
          (fun result => Permitted Allowed (next result.1) result.2 rest)
  | _, _, _ => True

instance decidablePermitted (Allowed : World → Op → Input → Prop)
    [∀ world op input, Decidable (Allowed world op input)] :
    ∀ (program : Prog Op Answer Value) (world : World) (inputs : List Input),
      Decidable (Permitted handle Allowed program world inputs)
  | .act op next, world, input :: rest =>
      have _later : Decidable ((handle world input op).elim True
          (fun result => Permitted handle Allowed (next result.1) result.2 rest)) :=
        match handle world input op with
        | some result => decidablePermitted Allowed (next result.1) result.2 rest
        | none => .isTrue trivial
      inferInstanceAs (Decidable (Allowed world op input ∧
        (handle world input op).elim True
          (fun result => Permitted handle Allowed (next result.1) result.2 rest)))
  | .act _ _, _, [] => .isTrue trivial
  | .ret _, _, _ => .isTrue trivial
  | .cut, _, _ => .isTrue trivial

/-! ### Rules -/

/-- After every allowed step the invariant holds, and if the program returns then
so does the postcondition. -/
def Safe (Holds : World → Prop) (Allowed : World → Op → Input → Prop) :
    Prog Op Answer Value → (Value → World → Prop) → World → Prop
  | .ret value, post, world => post value world
  | .cut, _, _ => True
  | .act op next, post, world =>
      ∀ input, Allowed world op input → ∀ answer after,
        handle world input op = some (answer, after) →
        Holds after ∧ Safe Holds Allowed (next answer) post after

variable {handle} {Holds : World → Prop} {Allowed : World → Op → Input → Prop}
  {post : Value → World → Prop}

theorem exec_of_safe (program : Prog Op Answer Value) (world : World) (inputs : List Input)
    (initially : Holds world) (safe : Safe handle Holds Allowed program post world)
    (permitted : Permitted handle Allowed program world inputs) :
    Holds (exec handle program world inputs) := by
  induction inputs generalizing program world with
  | nil =>
      cases program with
      | ret value => exact initially
      | cut => exact initially
      | act op next => exact initially
  | cons input rest ih =>
      cases program with
      | ret value => exact initially
      | cut => exact initially
      | act op next =>
          obtain ⟨allowed, later⟩ := permitted
          unfold exec
          cases handled : handle world input op with
          | none => exact initially
          | some result =>
              obtain ⟨answer, after⟩ := result
              rw [handled] at later
              obtain ⟨holds, continues⟩ := safe input allowed answer after handled
              exact ih (next answer) after holds continues later

theorem permitted_of_forall (always : ∀ world op input, Allowed world op input)
    (program : Prog Op Answer Value) (world : World) (inputs : List Input) :
    Permitted handle Allowed program world inputs := by
  induction inputs generalizing program world with
  | nil => cases program <;> trivial
  | cons input rest ih =>
      cases program with
      | ret value => trivial
      | cut => trivial
      | act op next =>
          refine ⟨always world op input, ?_⟩
          cases handle world input op with
          | none => trivial
          | some result => exact ih (next result.1) result.2

theorem Permitted.mono {Wider : World → Op → Input → Prop} {program : Prog Op Answer Value}
    {world : World} {inputs : List Input}
    (permitted : Permitted handle Allowed program world inputs)
    (implies : ∀ state op input, Allowed state op input → Wider state op input) :
    Permitted handle Wider program world inputs := by
  induction inputs generalizing program world with
  | nil => cases program <;> trivial
  | cons input rest ih =>
      cases program with
      | ret value => trivial
      | cut => trivial
      | act op next =>
          obtain ⟨allowed, later⟩ := permitted
          refine ⟨implies world op input allowed, ?_⟩
          cases handled : handle world input op with
          | none => trivial
          | some result =>
              rw [handled] at later
              exact ih later

theorem Safe.mono {weaker : Value → World → Prop} {program : Prog Op Answer Value} {world : World}
    (safe : Safe handle Holds Allowed program post world)
    (implies : ∀ value after, post value after → weaker value after) :
    Safe handle Holds Allowed program weaker world := by
  induction program generalizing world with
  | ret value => exact implies value world safe
  | cut => trivial
  | act op next ih =>
      intro input allowed answer after handled
      obtain ⟨holds, continues⟩ := safe input allowed answer after handled
      exact ⟨holds, ih answer continues⟩

theorem safe_of_forall (always : ∀ world, Holds world) (returns : ∀ value world, post value world)
    (program : Prog Op Answer Value) (world : World) :
    Safe handle Holds Allowed program post world := by
  induction program generalizing world with
  | ret value => exact returns value world
  | cut => trivial
  | act op next ih =>
      intro input _ answer after _
      exact ⟨always after, ih answer after⟩

theorem Safe.and {Other Both : World → Prop} {also : Value → World → Prop}
    {program : Prog Op Answer Value} {world : World}
    (combine : ∀ state, Holds state → Other state → Both state)
    (first : Safe handle Holds Allowed program post world)
    (second : Safe handle Other Allowed program also world) :
    Safe handle Both Allowed program (fun value after => post value after ∧ also value after)
      world := by
  induction program generalizing world with
  | ret value => exact ⟨first, second⟩
  | cut => trivial
  | act op next ih =>
      intro input allowed answer after handled
      obtain ⟨holds, continues⟩ := first input allowed answer after handled
      obtain ⟨other, alsoContinues⟩ := second input allowed answer after handled
      exact ⟨combine after holds other, ih answer continues alsoContinues⟩

theorem Safe.bind {Result : Type} {final : Result → World → Prop}
    {program : Prog Op Answer Value} {next : Value → Prog Op Answer Result} {world : World}
    (safe : Safe handle Holds Allowed program
      (fun value after => Safe handle Holds Allowed (next value) final after) world) :
    Safe handle Holds Allowed (program >>= next) final world := by
  induction program generalizing world with
  | ret value => exact safe
  | cut => trivial
  | act op rest ih =>
      intro input allowed answer after handled
      obtain ⟨holds, continues⟩ := safe input allowed answer after handled
      exact ⟨holds, ih answer continues⟩

theorem Safe.perform_bind {op : Op} {next : Answer op → Prog Op Answer Value} {world : World}
    (step : ∀ input, Allowed world op input → ∀ answer after,
      handle world input op = some (answer, after) →
      Holds after ∧ Safe handle Holds Allowed (next answer) post after) :
    Safe handle Holds Allowed (Prog.perform op >>= next) post world := step

/-! ### Programs that keep a predicate -/

variable (handle Holds Allowed) in
/-- From every world with the property the program is safe and returns to one. -/
def Keeps (Property : World → Prop) (program : Prog Op Answer Value) : Prop :=
  ∀ world, Property world → Safe handle Holds Allowed program (fun _ => Property) world

section Keeps

variable {Property : World → Prop} {Result : Type}

theorem Keeps.ret (value : Value) :
    Keeps handle Holds Allowed Property (.ret value : Prog Op Answer Value) := by
  intro world property
  exact property

theorem Keeps.cut : Keeps handle Holds Allowed Property (.cut : Prog Op Answer Value) := by
  intro world property
  trivial

theorem Keeps.act {op : Op} {next : Answer op → Prog Op Answer Value}
    (implies : ∀ world, Property world → Holds world)
    (kept : ∀ world input answer after, Property world → Allowed world op input →
      handle world input op = some (answer, after) → Property after)
    (continues : ∀ answer, Keeps handle Holds Allowed Property (next answer)) :
    Keeps handle Holds Allowed Property (.act op next) := by
  intro world property input allowed answer after handled
  have still := kept world input answer after property allowed handled
  exact ⟨implies after still, continues answer after still⟩

theorem Keeps.bind {program : Prog Op Answer Value} {next : Value → Prog Op Answer Result}
    (first : Keeps handle Holds Allowed Property program)
    (continues : ∀ value, Keeps handle Holds Allowed Property (next value)) :
    Keeps handle Holds Allowed Property (program >>= next) := by
  intro world property
  apply Safe.bind
  apply (first world property).mono
  intro value after still
  exact continues value after still

theorem Keeps.and {Other Both Also : World → Prop} {program : Prog Op Answer Value}
    (combine : ∀ state, Holds state → Other state → Both state)
    (first : Keeps handle Holds Allowed Property program)
    (second : Keeps handle Other Allowed Also program) :
    Keeps handle Both Allowed (fun state => Property state ∧ Also state) program := by
  intro world both
  exact (first world both.1).and combine (second world both.2)

theorem Keeps.ite {condition : Prop} [Decidable condition]
    {left right : Prog Op Answer Value}
    (whenTrue : Keeps handle Holds Allowed Property left)
    (whenFalse : Keeps handle Holds Allowed Property right) :
    Keeps handle Holds Allowed Property (if condition then left else right) := by
  split
  · exact whenTrue
  · exact whenFalse

end Keeps

/-! ### Programs over a part of the operations -/

def Uses (Permits : Op → Prop) : Prog Op Answer Value → Prop
  | .ret _ => True
  | .cut => True
  | .act op next => Permits op ∧ ∀ answer, Uses Permits (next answer)

theorem Uses.perform {Permits : Op → Prop} {op : Op} (permits : Permits op) :
    Uses Permits (Prog.perform op : Prog Op Answer (Answer op)) := by
  refine ⟨permits, ?_⟩
  intro answer
  trivial

theorem Uses.bind {Result : Type} {Permits : Op → Prop} {program : Prog Op Answer Value}
    {next : Value → Prog Op Answer Result} (first : Uses Permits program)
    (continues : ∀ value, Uses Permits (next value)) : Uses Permits (program >>= next) := by
  induction program with
  | ret value => exact continues value
  | cut => trivial
  | act op rest ih =>
      refine ⟨first.1, ?_⟩
      intro answer
      exact ih answer (first.2 answer)

theorem Uses.mono {Permits Others : Op → Prop} {program : Prog Op Answer Value}
    (uses : Uses Permits program) (implies : ∀ op, Permits op → Others op) :
    Uses Others program := by
  induction program with
  | ret value => trivial
  | cut => trivial
  | act op next ih =>
      refine ⟨implies op uses.1, ?_⟩
      intro answer
      exact ih answer (uses.2 answer)

theorem uses_all (program : Prog Op Answer Value) : Uses (fun _ => True) program := by
  induction program with
  | ret value => trivial
  | cut => trivial
  | act op next ih => exact ⟨trivial, ih⟩

theorem Keeps.of_uses {Permits : Op → Prop} {Property : World → Prop}
    {program : Prog Op Answer Value} (uses : Uses Permits program)
    (implies : ∀ world, Property world → Holds world)
    (kept : ∀ op, Permits op → ∀ world input answer after, Property world →
      Allowed world op input → handle world input op = some (answer, after) → Property after) :
    Keeps handle Holds Allowed Property program := by
  induction program with
  | ret value => exact Keeps.ret value
  | cut => exact Keeps.cut
  | act op next ih =>
      apply Keeps.act implies (kept op uses.1)
      intro answer
      exact ih answer (uses.2 answer)

/-! ### What a program can return -/

def Returns (Post : Value → Prop) : Prog Op Answer Value → Prop
  | .ret value => Post value
  | .cut => True
  | .act _ next => ∀ answer, Returns Post (next answer)

theorem returns_all (program : Prog Op Answer Value) : Returns (fun _ => True) program := by
  induction program with
  | ret value => trivial
  | cut => trivial
  | act op next ih => exact ih

theorem Returns.bind {Result : Type} {First : Value → Prop} {Post : Result → Prop}
    {program : Prog Op Answer Value} {next : Value → Prog Op Answer Result}
    (first : Returns First program) (continues : ∀ value, First value → Returns Post (next value)) :
    Returns Post (program >>= next) := by
  induction program with
  | ret value => exact continues value first
  | cut => trivial
  | act op rest ih =>
      intro answer
      exact ih answer (first answer)

theorem Returns.after {Result : Type} {Post : Result → Prop} (program : Prog Op Answer Value)
    {next : Value → Prog Op Answer Result} (continues : ∀ value, Returns Post (next value)) :
    Returns Post (program >>= next) :=
  (returns_all program).bind (fun value _ => continues value)

end Runs

end BridgeDhcp.Interaction
