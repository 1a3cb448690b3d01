/-
A value that is computed from a changing source and kept while its stamp is unchanged.

A lookup first reads the stamp of the source and then, if it has to, the source itself,
which may have changed in between; a kept value then goes with the older stamp.
-/

import BridgeDhcp.StepRun
import Mathlib.Order.Basic
import Mathlib.Tactic.Common

set_option autoImplicit false

namespace BridgeDhcp.StampedCache

open StepRun

structure Version (Stamp Content : Type) where
  stamp : Stamp
  content : Content
  deriving DecidableEq, Repr

structure Cache (Stamp Value : Type) where
  stamp : Stamp
  value : Value
  deriving DecidableEq, Repr

structure System (Stamp Content Value : Type) where
  source : Option (Version Stamp Content)
  cache : Cache Stamp Value
  deriving DecidableEq, Repr

inductive Input (Stamp Content : Type) where
  | change (source : Option (Version Stamp Content))
  /-- A lookup, and the changes after it has read the stamp. -/
  | lookup (between : List (Option (Version Stamp Content)))

def Input.changes {Stamp Content : Type} :
    Input Stamp Content → List (Option (Version Stamp Content))
  | .change source => [source]
  | .lookup between => between

/-! ### Lookups -/

section Lookup

variable {Stamp Content Value : Type} [DecidableEq Stamp] (derive : Option Content → Value)
  (kept : Value → Bool)

/-- One lookup, with the source when its stamp is read and when its content is read; a
source that is not found leaves the cache as it is. -/
def lookup (cache : Cache Stamp Value) (looked read : Option (Version Stamp Content)) :
    Value × Cache Stamp Value :=
  match looked with
  | none => (cache.value, cache)
  | some version =>
      if version.stamp = cache.stamp ∧ kept cache.value = true then (cache.value, cache)
      else
        let value := derive (read.map Version.content)
        (value, ⟨version.stamp, value⟩)

def System.lookup (system : System Stamp Content Value)
    (between : List (Option (Version Stamp Content))) : Value × Cache Stamp Value :=
  StampedCache.lookup derive kept system.cache system.source (between.getLastD system.source)

def step (system : System Stamp Content Value) : Input Stamp Content → System Stamp Content Value
  | .change source => { system with source := source }
  | .lookup between =>
      { source := between.getLastD system.source
        cache := (system.lookup derive kept between).2 }

/-- A lookup keeps what it returns.  That was there while it ran, or is what the last
lookup has kept if the source is not found. -/
def Fresh (system : System Stamp Content Value) : Input Stamp Content → Prop
  | .change source => (step derive kept system (.change source)).cache = system.cache
  | .lookup between =>
      (system.lookup derive kept between).1 =
          (step derive kept system (.lookup between)).cache.value ∧
        match system.source with
        | none => (system.lookup derive kept between).1 = system.cache.value
        | some version => ∃ seen ∈ some version :: between,
            (system.lookup derive kept between).1 = derive (seen.map Version.content)

theorem lookup_kept (cache : Cache Stamp Value) (looked read : Option (Version Stamp Content)) :
    (lookup derive kept cache looked read).1 = (lookup derive kept cache looked read).2.value := by
  unfold lookup
  split
  · rfl
  · split <;> rfl

theorem source_mem_run (system : System Stamp Content Value) (inputs : List (Input Stamp Content)) :
    (run (step derive kept) system inputs).source ∈
      system.source :: inputs.flatMap Input.changes := by
  induction inputs generalizing system with
  | nil => exact List.mem_cons_self
  | cons input rest ih =>
      have present : (step derive kept system input).source ∈ system.source :: input.changes := by
        cases input with
        | change source => exact List.mem_cons_of_mem system.source List.mem_cons_self
        | lookup between => exact List.getLastD_mem_cons
      rw [run_cons, List.flatMap_cons, ← List.cons_append]
      rcases List.mem_cons.mp (ih (step derive kept system input)) with same | later
      · rw [same]
        exact List.mem_append_left _ present
      · exact List.mem_append_right _ later

end Lookup

/-! ### Versions in order -/

section Order

variable {Stamp Content Value : Type} [Preorder Stamp]

def Later (earlier later : Option (Version Stamp Content)) : Prop :=
  ∀ first ∈ earlier, ∀ second ∈ later, first.stamp < second.stamp ∨ first = second

instance [DecidableLT Stamp] [DecidableEq Stamp] [DecidableEq Content]
    (earlier later : Option (Version Stamp Content)) : Decidable (Later earlier later) :=
  inferInstanceAs (Decidable (∀ first ∈ earlier, ∀ second ∈ later,
    first.stamp < second.stamp ∨ first = second))

theorem Later.refl (source : Option (Version Stamp Content)) : Later source source := by
  intro first isFirst second isSecond
  exact Or.inr (Option.some.inj (isFirst.symm.trans isSecond))

theorem Later.eq_of_same_stamp {looked read current : Version Stamp Content}
    (first : Later (some looked) (some read)) (second : Later (some looked) (some current))
    (third : Later (some read) (some current)) (same : looked.stamp = current.stamp) :
    read = current := by
  rcases first looked rfl read rfl with older | equal
  · rcases third read rfl current rfl with newer | equal
    · exact absurd (same ▸ lt_trans older newer) (lt_irrefl _)
    · exact equal
  · rcases second looked rfl current rfl with older | also
    · exact absurd (same ▸ older) (lt_irrefl _)
    · exact equal.symm.trans also

variable (derive : Option Content → Value) (kept : Value → Bool)

/-- The value in the cache goes with a stamp that was read before its content. -/
def Backed (cache : Cache Stamp Value) (sources : List (Option (Version Stamp Content))) : Prop :=
  kept cache.value = true → ∃ looked read : Version Stamp Content,
    looked.stamp = cache.stamp ∧ cache.value = derive (some read.content) ∧
      Later (some looked) (some read) ∧
      ∀ source ∈ sources, Later (some looked) source ∧ Later (some read) source

structure Sound (system : System Stamp Content Value)
    (changes : List (Option (Version Stamp Content))) : Prop where
  ordered : (system.source :: changes).Pairwise Later
  backed : Backed derive kept system.cache (system.source :: changes)

variable {derive kept}

theorem Backed.subset {cache : Cache Stamp Value}
    {sources fewer : List (Option (Version Stamp Content))}
    (backed : Backed derive kept cache sources) (subset : fewer ⊆ sources) :
    Backed derive kept cache fewer := by
  intro keeps
  obtain ⟨looked, read, stamp, value, first, orders⟩ := backed keeps
  refine ⟨looked, read, stamp, value, first, ?_⟩
  intro source member
  exact orders source (subset member)

section Between

variable {system : System Stamp Content Value}
  {between changes : List (Option (Version Stamp Content))}

omit [Preorder Stamp] in
theorem read_subset (source : Option (Version Stamp Content)) :
    between.getLastD source :: changes ⊆ source :: (between ++ changes) := by
  intro found member
  rw [← List.cons_append]
  rcases List.mem_cons.mp member with same | later
  · rw [same]
    exact List.mem_append_left changes List.getLastD_mem_cons
  · exact List.mem_append_right _ later

theorem Sound.later_read (sound : Sound derive kept system (between ++ changes)) :
    Later system.source (between.getLastD system.source) := by
  have member : between.getLastD system.source ∈ system.source :: between := List.getLastD_mem_cons
  rcases List.mem_cons.mp member with same | member
  · rw [same]
    exact .refl system.source
  · exact (List.pairwise_cons.mp sound.ordered).1 _ (List.mem_append_left changes member)

theorem Sound.ordered_after (sound : Sound derive kept system (between ++ changes)) :
    (between.getLastD system.source :: changes).Pairwise Later := by
  have all : ((system.source :: between) ++ changes).Pairwise Later := sound.ordered
  obtain ⟨_, rest, across⟩ := List.pairwise_append.mp all
  apply List.pairwise_cons.mpr
  refine ⟨?_, rest⟩
  intro source member
  exact across _ List.getLastD_mem_cons source member

theorem Sound.backed_read (absent : kept (derive none) = false) {version : Version Stamp Content}
    (found : system.source = some version)
    (sound : Sound derive kept system (between ++ changes)) :
    Backed derive kept
      ⟨version.stamp, derive ((between.getLastD (some version)).map Version.content)⟩
      (between.getLastD (some version) :: changes) := by
  have first := sound.later_read
  have orders := sound.ordered_after
  have whole := (List.pairwise_cons.mp sound.ordered).1
  rw [found] at first orders whole
  cases read : between.getLastD (some version) with
  | none =>
      intro keeps
      change kept (derive none) = true at keeps
      rw [absent] at keeps
      cases keeps
  | some current =>
      intro _
      rw [read] at first orders
      refine ⟨version, current, rfl, rfl, first, ?_⟩
      intro source member
      rcases List.mem_cons.mp member with same | later
      · rw [same]
        exact ⟨first, .refl _⟩
      · exact ⟨whole source (List.mem_append_right between later),
          (List.pairwise_cons.mp orders).1 source later⟩

end Between

end Order

/-! ### Fresh values -/

section Run

variable {Stamp Content Value : Type} [DecidableEq Stamp] [Preorder Stamp]
  {derive : Option Content → Value} {kept : Value → Bool} {system : System Stamp Content Value}

theorem Sound.fresh {input : Input Stamp Content}
    {changes : List (Option (Version Stamp Content))}
    (sound : Sound derive kept system (input.changes ++ changes)) :
    Fresh derive kept system input := by
  cases input with
  | change source => rfl
  | lookup between =>
      refine ⟨lookup_kept derive kept system.cache system.source _, ?_⟩
      cases found : system.source with
      | none =>
          unfold System.lookup StampedCache.lookup
          rw [found]
      | some version =>
          unfold System.lookup StampedCache.lookup
          rw [found]
          dsimp only
          split
          · next hit =>
              obtain ⟨looked, read, stamp, value, first, orders⟩ := sound.backed hit.2
              have current := orders system.source List.mem_cons_self
              rw [found] at current
              have same := first.eq_of_same_stamp current.1 current.2 (stamp.trans hit.1.symm)
              refine ⟨some version, List.mem_cons_self, ?_⟩
              rw [value, same]
              rfl
          · exact ⟨_, List.getLastD_mem_cons, rfl⟩

theorem Sound.step (absent : kept (derive none) = false) {input : Input Stamp Content}
    {changes : List (Option (Version Stamp Content))}
    (sound : Sound derive kept system (input.changes ++ changes)) :
    Sound derive kept (StampedCache.step derive kept system input) changes := by
  cases input with
  | change source =>
      exact ⟨(List.pairwise_cons.mp sound.ordered).2,
        sound.backed.subset (List.subset_cons_self system.source _)⟩
  | lookup between =>
      have sound : Sound derive kept system (between ++ changes) := sound
      refine ⟨sound.ordered_after, ?_⟩
      have before := sound.backed.subset (read_subset system.source)
      unfold StampedCache.step System.lookup StampedCache.lookup
      dsimp only
      cases found : system.source with
      | none =>
          rw [found] at before
          exact before
      | some version =>
          rw [found] at before
          dsimp only
          split
          · exact before
          · exact sound.backed_read absent found

theorem lookups_fresh (absent : kept (derive none) = false) {inputs : List (Input Stamp Content)}
    (sound : Sound derive kept system (inputs.flatMap Input.changes)) :
    Throughout (step derive kept) (Fresh derive kept) system inputs := by
  induction inputs generalizing system with
  | nil =>
      intro before input after split
      cases before <;> cases split
  | cons input rest ih =>
      rw [List.flatMap_cons] at sound
      exact (throughout_cons_iff _ _ _ _ _).mpr ⟨sound.fresh, ih (sound.step absent)⟩

end Run

end BridgeDhcp.StampedCache
