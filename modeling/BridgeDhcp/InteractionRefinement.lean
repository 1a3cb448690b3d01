/-
Programs that run to their end, and programs in a larger world.

A larger world answers the operations as the smaller one does and does more besides.
What is known of a program in the smaller world then holds in the larger one, and may
be used to show what the program keeps there.
-/

import BridgeDhcp.InteractionProgram

set_option autoImplicit false

namespace BridgeDhcp.Interaction

/-! ### Running to the end -/

section Finish

variable {Op : Type} {Answer : Op → Type} {Value World Input : Type}
  (handle : World → Input → (op : Op) → Option (Answer op × World))

/-- The value and the world at the end, with one input for each operation.  There is
no end if the program is cut or the world cannot answer. -/
def finish : Prog Op Answer Value → World → (Nat → Input) → Option (Value × World)
  | .ret value, world, _ => some (value, world)
  | .cut, _, _ => none
  | .act op next, world, inputs =>
      match handle world (inputs 0) op with
      | none => none
      | some (answer, after) => finish (next answer) after (fun count => inputs (count + 1))

theorem finish_act {op : Op} {next : Answer op → Prog Op Answer Value} {world after : World}
    {inputs : Nat → Input} {answer : Answer op}
    (handled : handle world (inputs 0) op = some (answer, after)) :
    finish handle (.act op next) world inputs =
      finish handle (next answer) after (fun count => inputs (count + 1)) := by
  rw [finish, handled]

theorem finish_bind_steady {Result : Type} (program : Prog Op Answer Value)
    (next : Value → Prog Op Answer Result) (world : World) (input : Input) :
    finish handle (program >>= next) world (fun _ => input) =
      (finish handle program world (fun _ => input)).bind
        (fun result => finish handle (next result.1) result.2 (fun _ => input)) := by
  induction program generalizing world with
  | ret value => rfl
  | cut => rfl
  | act op rest ih =>
      change finish handle (.act op (fun answer => rest answer >>= next)) world _ = _
      cases handled : handle world input op with
      | none => simp only [finish, handled, Option.bind_none]
      | some result =>
          rw [finish_act handle handled, finish_act handle handled]
          exact ih result.1 result.2

def PermittedThrough (Allowed : World → Op → Input → Prop) :
    Prog Op Answer Value → World → (Nat → Input) → Prop
  | .act op next, world, inputs =>
      Allowed world op (inputs 0) ∧
        (handle world (inputs 0) op).elim True
          (fun result =>
            PermittedThrough Allowed (next result.1) result.2 (fun count => inputs (count + 1)))
  | _, _, _ => True

instance decidablePermittedThrough (Allowed : World → Op → Input → Prop)
    [∀ world op input, Decidable (Allowed world op input)] :
    ∀ (program : Prog Op Answer Value) (world : World) (inputs : Nat → Input),
      Decidable (PermittedThrough handle Allowed program world inputs)
  | .act op next, world, inputs =>
      have _later : Decidable ((handle world (inputs 0) op).elim True
          (fun result => PermittedThrough handle Allowed (next result.1) result.2
            (fun count => inputs (count + 1)))) :=
        match handle world (inputs 0) op with
        | some result =>
            decidablePermittedThrough Allowed (next result.1) result.2
              (fun count => inputs (count + 1))
        | none => .isTrue trivial
      inferInstanceAs (Decidable (Allowed world op (inputs 0) ∧
        (handle world (inputs 0) op).elim True
          (fun result => PermittedThrough handle Allowed (next result.1) result.2
            (fun count => inputs (count + 1)))))
  | .ret _, _, _ => .isTrue trivial
  | .cut, _, _ => .isTrue trivial

variable {handle} {Holds : World → Prop} {Allowed : World → Op → Input → Prop}
  {post : Value → World → Prop}

theorem finish_of_safe {program : Prog Op Answer Value} {world : World} {inputs : Nat → Input}
    (safe : Safe handle Holds Allowed program post world)
    (permitted : PermittedThrough handle Allowed program world inputs) {value : Value}
    {last : World} (ended : finish handle program world inputs = some (value, last)) :
    post value last := by
  induction program generalizing world inputs with
  | ret result =>
      cases ended
      exact safe
  | cut => cases ended
  | act op next ih =>
      obtain ⟨allowed, later⟩ := permitted
      unfold finish at ended
      cases handled : handle world (inputs 0) op with
      | none =>
          rw [handled] at ended
          cases ended
      | some result =>
          obtain ⟨answer, after⟩ := result
          rw [handled] at ended later
          exact ih answer (safe (inputs 0) allowed answer after handled).2 later ended

theorem finish_of_returns {Post : Value → Prop} {program : Prog Op Answer Value} {world : World}
    {inputs : Nat → Input} (returns : Returns Post program) {value : Value} {last : World}
    (ended : finish handle program world inputs = some (value, last)) : Post value := by
  induction program generalizing world inputs with
  | ret result =>
      cases ended
      exact returns
  | cut => cases ended
  | act op next ih =>
      unfold finish at ended
      cases handled : handle world (inputs 0) op with
      | none =>
          rw [handled] at ended
          cases ended
      | some result =>
          rw [handled] at ended
          exact ih result.1 (returns result.1) ended

theorem permittedThrough_of_forall (always : ∀ world op input, Allowed world op input)
    (program : Prog Op Answer Value) (world : World) (inputs : Nat → Input) :
    PermittedThrough handle Allowed program world inputs := by
  induction program generalizing world inputs with
  | ret value => trivial
  | cut => trivial
  | act op next ih =>
      refine ⟨always world op (inputs 0), ?_⟩
      cases handle world (inputs 0) op with
      | none => trivial
      | some result => exact ih result.1 result.2 _

/-- A program is safe if the invariant holds along all its runs, and the postcondition at the end
of those that end. -/
theorem safe_of_runs [Nonempty Input] {program : Prog Op Answer Value} {world : World}
    (along : ∀ inputs, Holds (exec handle program world inputs))
    (ends : ∀ inputs value last, finish handle program world inputs = some (value, last) →
      post value last) :
    Safe handle Holds Allowed program post world := by
  induction program generalizing world with
  | ret value =>
      obtain ⟨input⟩ := ‹Nonempty Input›
      exact ends (fun _ => input) value world rfl
  | cut => trivial
  | act op next ih =>
      intro input allowed answer after handled
      have continues : ∀ rest, exec handle (.act op next) world (input :: rest) =
          exec handle (next answer) after rest := by
        intro rest
        rw [exec, handled]
      have here : exec handle (next answer) after [] = after := by
        cases next answer <;> rfl
      refine ⟨?_, ih answer ?_ ?_⟩
      · rw [← here, ← continues]
        exact along [input]
      · intro rest
        rw [← continues]
        exact along (input :: rest)
      · intro inputs value last ended
        apply ends (fun count => count.casesOn input inputs) value last
        refine (finish_act handle ?_).trans ended
        exact handled

def Ends : Prog Op Answer Value → Prop
  | .ret _ => True
  | .cut => False
  | .act _ next => ∀ answer, Ends (next answer)

theorem Ends.bind {Result : Type} {program : Prog Op Answer Value}
    {next : Value → Prog Op Answer Result} (first : Ends program)
    (continues : ∀ value, Ends (next value)) : Ends (program >>= next) := by
  induction program with
  | ret value => exact continues value
  | cut => cases first
  | act op rest ih =>
      intro answer
      exact ih answer (first answer)

variable (handle) in
theorem finish_of_ends (answers : ∀ world input op, (handle world input op).isSome = true)
    {program : Prog Op Answer Value} (ends : Ends program) (world : World)
    (inputs : Nat → Input) : (finish handle program world inputs).isSome = true := by
  induction program generalizing world inputs with
  | ret value => rfl
  | cut => cases ends
  | act op next ih =>
      obtain ⟨⟨answer, after⟩, handled⟩ :=
        Option.isSome_iff_exists.mp (answers world (inputs 0) op)
      unfold finish
      simp only [handled]
      exact ih answer (ends answer) after _

theorem Safe.strengthen {Also : World → Prop}
    (kept : ∀ {world input op answer after}, Also world → Allowed world op input →
      handle world input op = some (answer, after) → Holds after → Also after)
    {program : Prog Op Answer Value} {world : World}
    (safe : Safe handle Holds Allowed program post world) (initially : Also world) :
    Safe handle (fun state => Holds state ∧ Also state) Allowed program
      (fun value state => post value state ∧ Also state) world := by
  induction program generalizing world with
  | ret value => exact ⟨safe, initially⟩
  | cut => trivial
  | act op next ih =>
      intro input allowed answer after handled
      obtain ⟨holds, continues⟩ := safe input allowed answer after handled
      have still := kept initially allowed handled holds
      exact ⟨⟨holds, still⟩, ih answer continues still⟩

end Finish

/-! ### Larger worlds -/

theorem Safe.lift {Op : Type} {Answer : Op → Type} {Value World Input Larger LargerInput : Type}
    {handle : World → Input → (op : Op) → Option (Answer op × World)}
    {largerHandle : Larger → LargerInput → (op : Op) → Option (Answer op × Larger)}
    {shows : Larger → World} {Holds : World → Prop} {Allowed : World → Op → Input → Prop}
    {LargerAllowed : Larger → Op → LargerInput → Prop} {post : Value → World → Prop}
    (simulates : ∀ {state input op answer after}, LargerAllowed state op input →
      largerHandle state input op = some (answer, after) →
      ∃ small, Allowed (shows state) op small ∧
        handle (shows state) small op = some (answer, shows after))
    {program : Prog Op Answer Value} {state : Larger}
    (safe : Safe handle Holds Allowed program post (shows state)) :
    Safe largerHandle (fun state => Holds (shows state)) LargerAllowed program
      (fun value state => post value (shows state)) state := by
  induction program generalizing state with
  | ret value => exact safe
  | cut => trivial
  | act op next ih =>
      intro input allowed answer after handled
      obtain ⟨small, smallAllowed, smallHandled⟩ := simulates allowed handled
      obtain ⟨holds, continues⟩ := safe small smallAllowed answer (shows after) smallHandled
      exact ⟨holds, ih answer continues⟩

end BridgeDhcp.Interaction
