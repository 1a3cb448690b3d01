/-
Go maps and the order in which a range statement visits them.

A map is an association list with distinct keys; the order of the list carries
no meaning.  A range statement visits every entry once, in an order the language
leaves open, so a function that ranges over a map takes that order as an input.
-/

import Mathlib.Data.List.AList

set_option autoImplicit false

namespace BridgeDhcp.GoMap

abbrev Map (Key Value : Type) := AList (fun _ : Key => Value)

section Maps

variable {Key Value : Type} [DecidableEq Key]

def values (map : Map Key Value) : List Value := map.entries.map Sigma.snd

theorem mem_values_iff (map : Map Key Value) (value : Value) :
    value ∈ values map ↔ ∃ key, map.lookup key = some value := by
  constructor
  · intro member
    obtain ⟨entry, present, rfl⟩ := List.mem_map.mp member
    exact ⟨entry.1, AList.mem_lookup_iff.mpr present⟩
  · rintro ⟨key, found⟩
    have present : (⟨key, value⟩ : Sigma fun _ : Key => Value) ∈ map.entries :=
      AList.mem_lookup_iff.mp found
    exact List.mem_map.mpr ⟨_, present, rfl⟩

/-- Keep the entries that pass a test, as a loop that deletes the others does. -/
def filter (keep : Key → Value → Bool) (map : Map Key Value) : Map Key Value where
  entries := map.entries.filter (fun entry => keep entry.1 entry.2)
  nodupKeys := map.nodupKeys.sublist List.filter_sublist

theorem lookup_filter (keep : Key → Value → Bool) (map : Map Key Value) (key : Key) :
    (filter keep map).lookup key = (map.lookup key).filter (keep key) := by
  apply Option.ext
  intro value
  rw [Option.filter_eq_some_iff]
  change value ∈ (filter keep map).lookup key ↔ value ∈ map.lookup key ∧ keep key value = true
  rw [AList.mem_lookup_iff, AList.mem_lookup_iff]
  exact List.mem_filter

theorem lookup_insert_cases (map : Map Key Value) (target key : Key) (value : Value) :
    (map.insert target value).lookup key =
      if key = target then some value else map.lookup key := by
  by_cases same : key = target
  · subst same
    rw [if_pos rfl, AList.lookup_insert]
  · rw [if_neg same, AList.lookup_insert_ne same]

theorem lookup_erase_cases (map : Map Key Value) (target key : Key) :
    (map.erase target).lookup key = if key = target then none else map.lookup key := by
  by_cases same : key = target
  · subst same
    rw [if_pos rfl, AList.lookup_erase]
  · rw [if_neg same, AList.lookup_erase_ne same]

theorem lookup_insert_eq_some {map : Map Key Value} {target key : Key} {value found : Value}
    (present : (map.insert target value).lookup key = some found) :
    key = target ∧ found = value ∨ key ≠ target ∧ map.lookup key = some found := by
  rw [lookup_insert_cases] at present
  split at present
  · next same => exact .inl ⟨same, (Option.some.inj present).symm⟩
  · next distinct => exact .inr ⟨distinct, present⟩

theorem lookup_insert_of_other {map : Map Key Value} {target key : Key} {found : Value}
    (present : map.lookup key = some found) (other : map.lookup target ≠ some found)
    (value : Value) : (map.insert target value).lookup key = some found := by
  have distinct : key ≠ target := by
    intro same
    rw [same] at present
    exact other present
  rw [lookup_insert_cases, if_neg distinct]
  exact present

theorem lookup_erase_eq_some {map : Map Key Value} {target key : Key} {found : Value}
    (present : (map.erase target).lookup key = some found) :
    key ≠ target ∧ map.lookup key = some found := by
  rw [lookup_erase_cases] at present
  split at present
  · cases present
  · next distinct => exact ⟨distinct, present⟩

theorem lookup_erase_of_other {map : Map Key Value} {target key : Key} {found : Value}
    (present : map.lookup key = some found) (other : map.lookup target ≠ some found) :
    (map.erase target).lookup key = some found := by
  have distinct : key ≠ target := by
    intro same
    rw [same] at present
    exact other present
  rw [lookup_erase_cases, if_neg distinct]
  exact present

def mapValues {Result : Type} (change : Key → Value → Result) (map : Map Key Value) :
    Map Key Result where
  entries := map.entries.map (fun entry => ⟨entry.1, change entry.1 entry.2⟩)
  nodupKeys := by
    have same : (map.entries.map (fun entry =>
        (⟨entry.1, change entry.1 entry.2⟩ : Sigma fun _ : Key => Result))).keys =
        map.entries.keys := by
      simp [List.keys, Function.comp_def]
    rw [List.NodupKeys, same]
    exact map.nodupKeys

theorem lookup_mapValues {Result : Type} (change : Key → Value → Result) (map : Map Key Value)
    (key : Key) : (mapValues change map).lookup key = (map.lookup key).map (change key) := by
  ext result
  rw [Option.map_eq_some_iff]
  constructor
  · intro found
    obtain ⟨entry, listed, same⟩ := List.mem_map.mp (AList.mem_lookup_iff.mp found)
    cases same
    exact ⟨entry.2, AList.mem_lookup_iff.mpr listed, rfl⟩
  · rintro ⟨value, found, rfl⟩
    exact AList.mem_lookup_iff.mpr (List.mem_map.mpr ⟨_, AList.mem_lookup_iff.mp found, rfl⟩)

end Maps

/-! ### Iteration order -/

/-- One way a range statement may order the values it visits.  Every value is
visited exactly as often as it occurs. -/
structure RangeOrder (Value : Type) where
  arrange : List Value → List Value
  visits : ∀ items, (arrange items).Perm items

namespace RangeOrder

variable {Value : Type}

def stored : RangeOrder Value where
  arrange items := items
  visits items := List.Perm.refl items

def reversed : RangeOrder Value where
  arrange items := items.reverse
  visits items := items.reverse_perm

def startingWith [DecidableEq Value] (first : Value) : RangeOrder Value where
  arrange items := if first ∈ items then first :: items.erase first else items
  visits items := by
    by_cases member : first ∈ items
    · rw [if_pos member]
      exact (List.perm_cons_erase member).symm
    · rw [if_neg member]

variable (order : RangeOrder Value)

theorem mem_arrange {items : List Value} {value : Value} :
    value ∈ order.arrange items ↔ value ∈ items :=
  (order.visits items).mem_iff

end RangeOrder

section Find

variable {Key Value : Type} [DecidableEq Key]

/-- A loop over a map that returns the first value passing a test returns an
entry of the map that passes it. -/
theorem find_range_some (order : RangeOrder Value) (map : Map Key Value)
    (test : Value → Bool) (value : Value)
    (found : (order.arrange (values map)).find? test = some value) :
    test value = true ∧ ∃ key, map.lookup key = some value := by
  have passes := List.find?_some found
  have member := List.mem_of_find?_eq_some found
  rw [order.mem_arrange, mem_values_iff] at member
  exact ⟨passes, member⟩

theorem find_range_none_iff (order : RangeOrder Value) (map : Map Key Value)
    (test : Value → Bool) :
    (order.arrange (values map)).find? test = none ↔
      ∀ key value, map.lookup key = some value → test value = false := by
  rw [List.find?_eq_none]
  constructor
  · intro fails key value found
    have member : value ∈ order.arrange (values map) := by
      rw [order.mem_arrange, mem_values_iff]
      exact ⟨key, found⟩
    exact Bool.eq_false_iff.mpr (fails value member)
  · intro fails value member
    rw [order.mem_arrange, mem_values_iff] at member
    obtain ⟨key, found⟩ := member
    exact Bool.eq_false_iff.mp (fails key value found)

theorem find_range_startingWith [DecidableEq Value] (map : Map Key Value)
    (test : Value → Bool) (key : Key) (value : Value)
    (found : map.lookup key = some value) (passes : test value = true) :
    ((RangeOrder.startingWith value).arrange (values map)).find? test = some value := by
  have member : value ∈ values map := (mem_values_iff map value).mpr ⟨key, found⟩
  change (if value ∈ values map then value :: (values map).erase value else values map).find?
    test = some value
  rw [if_pos member, List.find?_cons_of_pos passes]

end Find

/-! ### Loops -/

section Loops

variable {Key Value State Item Seen : Type} [DecidableEq Key]

def pairs (map : Map Key Value) : List (Key × Value) :=
  map.entries.map (fun entry => (entry.1, entry.2))

theorem mem_pairs_iff (map : Map Key Value) (key : Key) (value : Value) :
    (key, value) ∈ pairs map ↔ map.lookup key = some value := by
  have entry : (key, value) ∈ pairs map ↔
      (⟨key, value⟩ : Sigma fun _ : Key => Value) ∈ map.entries := by
    constructor
    · intro member
      obtain ⟨found, present, same⟩ := List.mem_map.mp member
      cases same
      exact present
    · intro present
      exact List.mem_map.mpr ⟨_, present, rfl⟩
  rw [entry]
  exact AList.mem_lookup_iff.symm

omit [DecidableEq Key] in
theorem nodup_arrange_pairs (order : RangeOrder (Key × Value)) (map : Map Key Value) :
    ((order.arrange (pairs map)).map Prod.fst).Nodup := by
  have keys : (pairs map).map Prod.fst = map.entries.keys := by
    simp [pairs, List.keys, Function.comp_def]
  rw [((order.visits (pairs map)).map Prod.fst).nodup_iff, keys]
  exact map.nodupKeys

/-- A loop whose body changes only what is seen at the key of the visited item: at
each key the loop leaves what one of its visits left there, or what was there
before. -/
theorem foldl_visits (body : State → Item → State) (keyOf : Item → Key)
    (observe : State → Key → Seen) (left : Item → Seen)
    (touches : ∀ state item key, observe (body state item) key =
      if key = keyOf item then left item else observe state key)
    (items : List Item) (state : State) (key : Key) :
    (∃ item ∈ items, keyOf item = key ∧ observe (items.foldl body state) key = left item) ∨
      ((∀ item ∈ items, keyOf item ≠ key) ∧
        observe (items.foldl body state) key = observe state key) := by
  induction items generalizing state with
  | nil => simp
  | cons first rest ih =>
      rw [List.foldl_cons]
      rcases ih (body state first) with ⟨item, member, same, seen⟩ | ⟨none, seen⟩
      · exact Or.inl ⟨item, List.mem_cons_of_mem first member, same, seen⟩
      · rw [touches] at seen
        by_cases here : key = keyOf first
        · rw [if_pos here] at seen
          exact Or.inl ⟨first, List.mem_cons_self, here.symm, seen⟩
        · rw [if_neg here] at seen
          refine Or.inr ⟨?_, seen⟩
          intro item member
          rcases List.mem_cons.mp member with same | later
          · rw [same]
            exact Ne.symm here
          · exact none item later

end Loops

end BridgeDhcp.GoMap
