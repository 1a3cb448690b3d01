/-
The first best item of a list.

A loop that keeps the best item it has met, and keeps it when a later one is only as
good, computes `List.argmax` over the items it does not pass over.
-/

import Mathlib.Data.List.MinMax
import Mathlib.Data.Prod.Lex

set_option autoImplicit false

namespace BridgeDhcp.FirstBest

variable {Item Rank Reading : Type} [LinearOrder Rank]

/-! ### The loop -/

def keepBest (eligible : Item → Bool) (rank : Item → Rank) (best : Option Item) (item : Item) :
    Option Item :=
  if eligible item then
    match best with
    | none => some item
    | some held => if rank held < rank item then some item else some held
  else best

def firstBest (eligible : Item → Bool) (rank : Item → Rank) (items : List Item) : Option Item :=
  items.foldl (keepBest eligible rank) none

structure IsBest (eligible : Item → Bool) (rank : Item → Rank) (items : List Item)
    (item : Item) : Prop where
  listed : item ∈ items
  counts : eligible item = true
  top : ∀ other ∈ items, eligible other = true → rank other ≤ rank item

section Loop

variable (eligible : Item → Bool) (rank : Item → Rank)

theorem firstBest_eq_argmax (items : List Item) :
    firstBest eligible rank items = (items.filter eligible).argmax rank := by
  unfold firstBest List.argmax
  rw [List.foldl_filter]
  congr 1
  funext best item
  unfold keepBest List.argAux
  cases best <;> rfl

theorem firstBest_eq_none_iff (items : List Item) :
    firstBest eligible rank items = none ↔ ∀ item ∈ items, eligible item = false := by
  rw [firstBest_eq_argmax, List.argmax_eq_none, List.filter_eq_nil_iff]
  simp only [Bool.not_eq_true]

variable {eligible rank}

theorem firstBest_isBest {items : List Item} {item : Item}
    (found : firstBest eligible rank items = some item) : IsBest eligible rank items item := by
  rw [firstBest_eq_argmax] at found
  obtain ⟨listed, counts⟩ := List.mem_filter.mp (List.argmax_mem found)
  refine ⟨listed, counts, ?_⟩
  intro other member eligibleToo
  exact List.le_of_mem_argmax (List.mem_filter.mpr ⟨member, eligibleToo⟩) found

theorem IsBest.perm {items others : List Item} {item : Item}
    (best : IsBest eligible rank items item) (permuted : items.Perm others) :
    IsBest eligible rank others item where
  listed := permuted.mem_iff.mp best.listed
  counts := best.counts
  top := fun other member => best.top other (permuted.mem_iff.mpr member)

/-! ### Where the first best item stands -/

theorem foldl_keepBest_held {held : Item} {items : List Item}
    (notAbove : ∀ item ∈ items, eligible item = true → rank item ≤ rank held) :
    items.foldl (keepBest eligible rank) (some held) = some held := by
  induction items with
  | nil => rfl
  | cons item rest ih =>
      have kept : keepBest eligible rank (some held) item = some held := by
        unfold keepBest
        split
        · next counts =>
            dsimp only
            rw [if_neg (not_lt.mpr (notAbove item List.mem_cons_self counts))]
        · rfl
      rw [List.foldl_cons, kept]
      exact ih (fun later member => notAbove later (List.mem_cons_of_mem item member))

theorem firstBest_append {before after : List Item} {item : Item}
    (counts : eligible item = true)
    (above : ∀ earlier ∈ before, eligible earlier = true → rank earlier < rank item)
    (notBelow : ∀ later ∈ after, eligible later = true → rank later ≤ rank item) :
    firstBest eligible rank (before ++ item :: after) = some item := by
  have taken : keepBest eligible rank (firstBest eligible rank before) item = some item := by
    unfold keepBest
    rw [if_pos counts]
    cases found : firstBest eligible rank before with
    | none => rfl
    | some held =>
        have best := firstBest_isBest found
        exact if_pos (above held best.listed best.counts)
  rw [firstBest, List.foldl_append, List.foldl_cons]
  change after.foldl _ (keepBest eligible rank (firstBest eligible rank before) item) = _
  rw [taken]
  exact foldl_keepBest_held notBelow

theorem firstBest_eq_some_iff (items : List Item) (item : Item) :
    firstBest eligible rank items = some item ↔
      ∃ before after, items = before ++ item :: after ∧ eligible item = true ∧
        (∀ earlier ∈ before, eligible earlier = true → rank earlier < rank item) ∧
        (∀ later ∈ after, eligible later = true → rank later ≤ rank item) := by
  constructor
  · -- the last turn either takes the last item or leaves what was held before it
    induction items using List.reverseRecOn with
    | nil =>
        intro found
        cases found
    | append_singleton items last ih =>
        intro found
        have turn : keepBest eligible rank (firstBest eligible rank items) last = some item := by
          rw [← found]
          unfold firstBest
          rw [List.foldl_append]
          rfl
        have kept (held : firstBest eligible rank items = some item)
            (notAbove : eligible last = true → rank last ≤ rank item) :
            ∃ before after, items ++ [last] = before ++ item :: after ∧ eligible item = true ∧
              (∀ earlier ∈ before, eligible earlier = true → rank earlier < rank item) ∧
              (∀ later ∈ after, eligible later = true → rank later ≤ rank item) := by
          obtain ⟨before, after, split, counts, above, notBelow⟩ := ih held
          refine ⟨before, after ++ [last], ?_, counts, above, ?_⟩
          · rw [split, List.append_assoc, List.cons_append]
          · intro later member
            rcases List.mem_append.mp member with old | new
            · exact notBelow later old
            · rw [List.mem_singleton.mp new]
              exact notAbove
        unfold keepBest at turn
        split at turn
        · next counts =>
            cases before : firstBest eligible rank items with
            | none =>
                rw [before] at turn
                cases turn
                refine ⟨items, [], rfl, counts, ?_, ?_⟩
                · intro earlier member eligibleToo
                  have passed := (firstBest_eq_none_iff eligible rank items).mp before earlier member
                  rw [eligibleToo] at passed
                  cases passed
                · intro later member
                  cases member
            | some held =>
                rw [before] at turn
                dsimp only at turn
                split at turn
                · next better =>
                    cases turn
                    refine ⟨items, [], rfl, counts, ?_, ?_⟩
                    · intro earlier member eligibleToo
                      have best := (firstBest_isBest before).top earlier member eligibleToo
                      exact lt_of_le_of_lt best better
                    · intro later member
                      cases member
                · next notBetter =>
                    cases turn
                    exact kept before (fun _ => not_lt.mp notBetter)
        · next passed =>
            exact kept turn (fun counts => absurd counts passed)
  · rintro ⟨before, after, rfl, counts, above, notBelow⟩
    exact firstBest_append counts above notBelow

/-! ### Independence of the order -/

theorem IsBest.exists_perm {items : List Item} {item : Item}
    (best : IsBest eligible rank items item) :
    ∃ others, others.Perm items ∧ firstBest eligible rank others = some item := by
  obtain ⟨before, after, split⟩ := List.append_of_mem best.listed
  subst split
  refine ⟨item :: (before ++ after), List.perm_middle.symm, ?_⟩
  change firstBest eligible rank ([] ++ item :: (before ++ after)) = some item
  apply firstBest_append best.counts
  · intro earlier member
    cases member
  · intro later member
    exact best.top later (List.perm_middle.mem_iff.mpr (List.mem_cons_of_mem item member))

/-- What is read off the first best item is the same for every order of the list
exactly if all best items give the same reading. -/
theorem firstBest_perm_iff (items : List Item) (read : Item → Reading) :
    (∀ one other : List Item, one.Perm items → other.Perm items →
        (firstBest eligible rank one).map read = (firstBest eligible rank other).map read) ↔
      ∀ first second, IsBest eligible rank items first → IsBest eligible rank items second →
        read first = read second := by
  constructor
  · intro same first second firstBest secondBest
    obtain ⟨one, onePerm, oneFound⟩ := firstBest.exists_perm
    obtain ⟨other, otherPerm, otherFound⟩ := secondBest.exists_perm
    have equal := same one other onePerm otherPerm
    rw [oneFound, otherFound] at equal
    exact Option.some.inj equal
  · intro agree one other onePerm otherPerm
    have none_iff (list : List Item) (permuted : list.Perm items) :
        firstBest eligible rank list = none ↔ ∀ item ∈ items, eligible item = false := by
      rw [firstBest_eq_none_iff]
      simp only [permuted.mem_iff]
    cases oneFound : firstBest eligible rank one with
    | none =>
        have otherNone := (none_iff other otherPerm).mpr ((none_iff one onePerm).mp oneFound)
        rw [otherNone]
    | some first =>
        cases otherFound : firstBest eligible rank other with
        | none =>
            have oneNone := (none_iff one onePerm).mpr ((none_iff other otherPerm).mp otherFound)
            rw [oneNone] at oneFound
            cases oneFound
        | some second =>
            have equal := agree first second ((firstBest_isBest oneFound).perm onePerm)
              ((firstBest_isBest otherFound).perm otherPerm)
            rw [Option.map_some, Option.map_some, equal]

end Loop

/-! ### A loop with a score variable -/

section Scores

variable {Points Key : Type} [LinearOrder Points] [LinearOrder Key]
  (score : Item → Option Points) (key : Item → Key) (missing : Points)

/-- One turn of a loop that carries the score of the best item beside it, passes over
items without a score and breaks ties by a key. -/
def keepScored (best : Option (Item × Points)) (item : Item) : Option (Item × Points) :=
  match score item with
  | none => best
  | some points =>
      match best with
      | none => some (item, points)
      | some (held, heldPoints) =>
          if points > heldPoints ∨ (points = heldPoints ∧ key item > key held) then
            some (item, points)
          else best

/-- The score first, then the key; the value for items without a score is never
looked at. -/
def scoreRank (item : Item) : Points ×ₗ Key := toLex ((score item).getD missing, key item)

def withScore (item : Item) : Item × Points := (item, (score item).getD missing)

variable {score}

theorem scoreRank_le_iff {left right : Item} {leftPoints rightPoints : Points}
    (leftScore : score left = some leftPoints) (rightScore : score right = some rightPoints) :
    scoreRank score key missing left ≤ scoreRank score key missing right ↔
      leftPoints < rightPoints ∨ (leftPoints = rightPoints ∧ key left ≤ key right) := by
  unfold scoreRank
  rw [leftScore, rightScore, Prod.Lex.toLex_le_toLex, Option.getD_some, Option.getD_some]

theorem keepScored_withScore {best : Option Item}
    (counts : ∀ held, best = some held → (score held).isSome = true) (item : Item) :
    keepScored score key (best.map (withScore score missing)) item =
      (keepBest (fun item => (score item).isSome) (scoreRank score key missing) best item).map
        (withScore score missing) := by
  unfold keepScored keepBest
  cases scored : score item with
  | none => rw [if_neg (by simp [scored])]
  | some points =>
      rw [if_pos (by simp [scored])]
      cases best with
      | none => simp [withScore, scored]
      | some held =>
          obtain ⟨heldPoints, heldScore⟩ := Option.isSome_iff_exists.mp (counts held rfl)
          have order : scoreRank score key missing held < scoreRank score key missing item ↔
              points > heldPoints ∨ (points = heldPoints ∧ key item > key held) := by
            unfold scoreRank
            rw [heldScore, scored, Prod.Lex.toLex_lt_toLex, Option.getD_some, Option.getD_some,
              eq_comm]
          simp only [Option.map_some, withScore, heldScore, Option.getD_some, order]
          split
          · simp [withScore, scored]
          · simp [withScore, heldScore]

theorem foldl_keepScored_withScore (items : List Item) {best : Option Item}
    (counts : ∀ held, best = some held → (score held).isSome = true) :
    items.foldl (keepScored score key) (best.map (withScore score missing)) =
      (items.foldl (keepBest (fun item => (score item).isSome) (scoreRank score key missing))
        best).map (withScore score missing) := by
  induction items generalizing best with
  | nil => rfl
  | cons item rest ih =>
      rw [List.foldl_cons, List.foldl_cons, keepScored_withScore key missing counts]
      apply ih
      intro held kept
      unfold keepBest at kept
      split at kept
      · next met =>
          cases best with
          | none =>
              cases kept
              exact met
          | some older =>
              dsimp only at kept
              split at kept
              · cases kept
                exact met
              · exact counts held kept
      · exact counts held kept

theorem foldl_keepScored_eq_firstBest (items : List Item) :
    (items.foldl (keepScored score key) none).map Prod.fst =
      firstBest (fun item => (score item).isSome) (scoreRank score key missing) items := by
  have loop := @foldl_keepScored_withScore Item Points Key _ _ score key missing items none
    (by intro held impossible; cases impossible)
  have first : Prod.fst ∘ withScore score missing = id := rfl
  unfold firstBest
  rw [Option.map_none] at loop
  rw [loop, Option.map_map, first, Option.map_id, id]

end Scores

end BridgeDhcp.FirstBest
