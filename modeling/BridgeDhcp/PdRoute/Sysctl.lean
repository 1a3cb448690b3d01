/-
The registry of sysctl values shared by all instances.

The registry counts references per file.  The first reference notes the value it
finds and may write another; the last release writes the noted value back if the
file still holds the registry's own.  Everything the registry does to one file
depends on that file only, so runs are studied one file at a time.
-/

import BridgeDhcp.GoMapRange
import BridgeDhcp.GoText
import BridgeDhcp.StepRun
import Mathlib.Tactic.Common

set_option autoImplicit false

namespace BridgeDhcp.PdRoute

open GoMap GoText StepRun

/-! ### The registry -/

structure SysctlEntry where
  refs : Nat
  /-- The value found on the first acquire. -/
  old : String
  /-- The value that was written; empty when nothing was changed. -/
  set : String
  deriving DecidableEq, Repr

/-- What a caller wants a file to hold, given what it holds.  A value it asks for is
never empty and reads back as itself. -/
structure Want where
  choose : String → String × Bool
  proper : ∀ cur, (choose cur).2 = true →
    (choose cur).1 ≠ "" ∧ trimSpace (choose cur).1 = (choose cur).1

structure Sysctls where
  entries : Map String SysctlEntry
  files : String → String
  written : List (String × String)

def Sysctls.fresh (files : String → String) : Sysctls where
  entries := ∅
  files := files
  written := []

namespace Sysctls

def readSysctl (sys : Sysctls) (path : String) : String := trimSpace (sys.files path)

def writeSysctl (sys : Sysctls) (path value : String) : Sysctls :=
  { sys with
    files := Function.update sys.files path value
    written := sys.written ++ [(path, value)] }

def acquire (sys : Sysctls) (path : String) (want : Want) : Sysctls :=
  match sys.entries.lookup path with
  | some entry =>
      { sys with entries := sys.entries.insert path { entry with refs := entry.refs + 1 } }
  | none =>
      let cur := sys.readSysctl path
      let next := (want.choose cur).1
      if (want.choose cur).2 = true ∧ next ≠ cur then
        { sys.writeSysctl path next with
          entries := sys.entries.insert path { refs := 1, old := cur, set := next } }
      else
        { sys with entries := sys.entries.insert path { refs := 1, old := cur, set := "" } }

def release (sys : Sysctls) (path : String) : Sysctls :=
  match sys.entries.lookup path with
  | none => sys
  | some entry =>
      if entry.refs - 1 > 0 then
        { sys with entries := sys.entries.insert path { entry with refs := entry.refs - 1 } }
      else
        let sys := { sys with entries := sys.entries.erase path }
        if entry.set = "" ∨ entry.set = entry.old then sys
        -- a concurrent change by somebody else wins
        else if sys.readSysctl path ≠ entry.set then sys
        else sys.writeSysctl path entry.old

end Sysctls

inductive SysctlEvent where
  | acquire (path : String) (want : Want)
  | release (path : String)
  | external (path content : String)

def sysctlStep (sys : Sysctls) : SysctlEvent → Sysctls
  | .acquire path want => sys.acquire path want
  | .release path => sys.release path
  | .external path content => { sys with files := Function.update sys.files path content }

def sysctlsAfter (files : String → String) (events : List SysctlEvent) : Sysctls :=
  run sysctlStep (.fresh files) events

/-! ### One file -/

structure FileView where
  entry : Option SysctlEntry
  content : String
  written : List String

inductive FileEvent where
  | acquire (want : Want)
  | release
  | external (content : String)

def Sysctls.view (sys : Sysctls) (path : String) : FileView where
  entry := sys.entries.lookup path
  content := sys.files path
  written := (sys.written.filter (fun write => write.1 = path)).map Prod.snd

def SysctlEvent.on (path : String) : SysctlEvent → Option FileEvent
  | .acquire other want => if other = path then some (.acquire want) else none
  | .release other => if other = path then some .release else none
  | .external other content => if other = path then some (.external content) else none

def Want.changes (want : Want) (cur : String) : Option String :=
  if (want.choose cur).2 = true ∧ (want.choose cur).1 ≠ cur then some (want.choose cur).1 else none

def SysctlEntry.restores (entry : SysctlEntry) (content : String) : Option String :=
  if entry.set = "" ∨ entry.set = entry.old then none
  else if trimSpace content ≠ entry.set then none
  else some entry.old

def FileView.write (view : FileView) (value : Option String) : FileView :=
  { view with
    content := value.getD view.content
    written := view.written ++ value.toList }

def fileStep (view : FileView) : FileEvent → FileView
  | .acquire want =>
      match view.entry with
      | some entry => { view with entry := some { entry with refs := entry.refs + 1 } }
      | none =>
          { view.write (want.changes (trimSpace view.content)) with
            entry := some
              { refs := 1
                old := trimSpace view.content
                set := (want.changes (trimSpace view.content)).getD "" } }
  | .release =>
      match view.entry with
      | none => view
      | some entry =>
          if entry.refs - 1 > 0 then
            { view with entry := some { entry with refs := entry.refs - 1 } }
          else { view.write (entry.restores view.content) with entry := none }
  | .external content => { view with content := content }

theorem view_write_other (sys : Sysctls) {path other : String} (distinct : other ≠ path)
    (value : String) : (sys.writeSysctl other value).view path = sys.view path := by
  simp [Sysctls.writeSysctl, Sysctls.view, Function.update_of_ne distinct.symm, distinct]

theorem view_acquire (sys : Sysctls) (path : String) (want : Want) :
    (sys.acquire path want).view path = fileStep (sys.view path) (.acquire want) := by
  cases found : sys.entries.lookup path with
  | some entry => simp [Sysctls.acquire, fileStep, Sysctls.view, found]
  | none =>
      by_cases changing : (want.choose (trimSpace (sys.files path))).2 = true ∧
          (want.choose (trimSpace (sys.files path))).1 ≠ trimSpace (sys.files path)
      · simp [Sysctls.acquire, fileStep, Sysctls.view, found, Want.changes, FileView.write,
          Sysctls.readSysctl, changing, Sysctls.writeSysctl]
      · simp [Sysctls.acquire, fileStep, Sysctls.view, found, Want.changes, FileView.write,
          Sysctls.readSysctl, changing]

theorem view_release (sys : Sysctls) (path : String) :
    (sys.release path).view path = fileStep (sys.view path) .release := by
  cases found : sys.entries.lookup path with
  | none => simp [Sysctls.release, fileStep, Sysctls.view, found]
  | some entry =>
      by_cases inner : entry.refs - 1 > 0
      · simp [Sysctls.release, fileStep, Sysctls.view, found, inner]
      · by_cases unchanged : entry.set = "" ∨ entry.set = entry.old
        · simp [Sysctls.release, fileStep, Sysctls.view, found, inner, unchanged,
            SysctlEntry.restores, FileView.write]
        · by_cases foreign : trimSpace (sys.files path) = entry.set
          · simp [Sysctls.release, fileStep, Sysctls.view, found, inner, unchanged, foreign,
              SysctlEntry.restores, FileView.write, Sysctls.readSysctl, Sysctls.writeSysctl]
          · simp [Sysctls.release, fileStep, Sysctls.view, found, inner, unchanged, foreign,
              SysctlEntry.restores, FileView.write, Sysctls.readSysctl]

theorem view_acquire_other (sys : Sysctls) {path other : String} (distinct : other ≠ path)
    (want : Want) : (sys.acquire other want).view path = sys.view path := by
  unfold Sysctls.acquire
  split
  · simp [Sysctls.view, AList.lookup_insert_ne distinct.symm]
  · dsimp only
    split
    · simp [Sysctls.view, Sysctls.writeSysctl, AList.lookup_insert_ne distinct.symm,
        Function.update_of_ne distinct.symm, distinct]
    · simp [Sysctls.view, AList.lookup_insert_ne distinct.symm]

theorem view_release_other (sys : Sysctls) {path other : String} (distinct : other ≠ path) :
    (sys.release other).view path = sys.view path := by
  have erased : ({ sys with entries := sys.entries.erase other } : Sysctls).view path =
      sys.view path := by
    simp [Sysctls.view, AList.lookup_erase_ne distinct.symm]
  unfold Sysctls.release
  split
  · rfl
  · split
    · simp [Sysctls.view, AList.lookup_insert_ne distinct.symm]
    · dsimp only
      split
      · exact erased
      · split
        · exact erased
        · rw [view_write_other _ distinct]
          exact erased

theorem view_sysctlStep (sys : Sysctls) (event : SysctlEvent) (path : String) :
    (sysctlStep sys event).view path = run fileStep (sys.view path) (event.on path).toList := by
  cases event with
  | acquire other want =>
      by_cases same : other = path
      · subst same
        simpa [SysctlEvent.on, sysctlStep] using view_acquire sys other want
      · simpa [SysctlEvent.on, sysctlStep, same] using view_acquire_other sys same want
  | release other =>
      by_cases same : other = path
      · subst same
        simpa [SysctlEvent.on, sysctlStep] using view_release sys other
      · simpa [SysctlEvent.on, sysctlStep, same] using view_release_other sys same
  | external other content =>
      by_cases same : other = path
      · subst same
        simp [sysctlStep, SysctlEvent.on, fileStep, Sysctls.view]
      · simp [sysctlStep, SysctlEvent.on, same, Sysctls.view, Function.update_of_ne (Ne.symm same)]

theorem view_run (sys : Sysctls) (events : List SysctlEvent) (path : String) :
    (run sysctlStep sys events).view path =
      run fileStep (sys.view path) (events.filterMap (SysctlEvent.on path)) := by
  induction events generalizing sys with
  | nil => rfl
  | cons event rest ih =>
      rw [run_cons, ih, view_sysctlStep]
      cases concerned : event.on path with
      | none => simp [concerned]
      | some action => simp [concerned]

/-! ### References -/

/-- How many references are held; a release without a reference does nothing. -/
def countStep (held : Nat) : FileEvent → Nat
  | .acquire _ => held + 1
  | .release => held - 1
  | .external _ => held

def referencesFrom (held : Nat) (path : String) (events : List SysctlEvent) : Nat :=
  run countStep held (events.filterMap (SysctlEvent.on path))

def references (path : String) (events : List SysctlEvent) : Nat := referencesFrom 0 path events

def FileView.refs (view : FileView) : Nat :=
  match view.entry with
  | none => 0
  | some entry => entry.refs

def FileView.Counted (view : FileView) : Prop := ∀ entry, view.entry = some entry → 0 < entry.refs

theorem fileStep_counts {view : FileView} (counted : view.Counted) (event : FileEvent) :
    (fileStep view event).Counted ∧ (fileStep view event).refs = countStep view.refs event := by
  cases event with
  | acquire want =>
      cases found : view.entry with
      | none => simp [fileStep, FileView.Counted, FileView.refs, found, countStep]
      | some entry => simp [fileStep, FileView.Counted, FileView.refs, found, countStep]
  | release =>
      cases found : view.entry with
      | none => simp [fileStep, FileView.Counted, FileView.refs, found, countStep]
      | some entry =>
          have positive := counted entry found
          by_cases inner : entry.refs - 1 > 0
          · simp [fileStep, FileView.Counted, FileView.refs, found, countStep, inner]
          · have last : entry.refs - 1 = 0 := by omega
            simp [fileStep, FileView.Counted, FileView.refs, found, countStep, last]
  | external content => exact ⟨counted, rfl⟩

theorem run_fileStep_counts {view : FileView} (counted : view.Counted) (events : List FileEvent) :
    (run fileStep view events).Counted ∧
      (run fileStep view events).refs = run countStep view.refs events := by
  induction events generalizing view with
  | nil => exact ⟨counted, rfl⟩
  | cons event rest ih =>
      rcases fileStep_counts counted event with ⟨next, refs⟩
      rw [run_cons, run_cons, ← refs]
      exact ih next

/-! ### One period -/

def StaysHeld (path : String) (events : List SysctlEvent) : Prop :=
  ∀ before after, events = before ++ after → 0 < referencesFrom 1 path before

theorem run_fileStep_held {view : FileView} {entry : SysctlEntry} (listed : view.entry = some entry)
    (events : List FileEvent)
    (held : ∀ before after, events = before ++ after → 0 < run countStep entry.refs before) :
    (run fileStep view events).entry =
        some { entry with refs := run countStep entry.refs events } ∧
      (run fileStep view events).written = view.written := by
  induction events generalizing view entry with
  | nil => exact ⟨listed, rfl⟩
  | cons event rest ih =>
      have next : (fileStep view event).entry =
          some { entry with refs := countStep entry.refs event } ∧
          (fileStep view event).written = view.written := by
        have positive := held [event] rest rfl
        cases event with
        | acquire want => simp [fileStep, listed, countStep]
        | release =>
            have inner : entry.refs - 1 > 0 := positive
            simp [fileStep, listed, countStep, inner]
        | external content => simp [fileStep, listed, countStep]
      have later : ∀ before after, rest = before ++ after →
          0 < run countStep (countStep entry.refs event) before := by
        intro before after split
        exact held (event :: before) after (by rw [split, List.cons_append])
      rcases ih next.1 later with ⟨kept, unwritten⟩
      exact ⟨kept, unwritten.trans next.2⟩

theorem Want.changes_proper {want : Want} {cur next : String} (changed : want.changes cur = some next) :
    next ≠ "" ∧ next ≠ cur ∧ trimSpace next = next := by
  unfold Want.changes at changed
  split at changed
  · next wanted =>
    cases changed
    rcases want.proper cur wanted.1 with ⟨nonempty, trimmed⟩
    exact ⟨nonempty, wanted.2, trimmed⟩
  · cases changed

theorem restores_after_changes (want : Want) (cur content : String) (refs : Nat) :
    ({ refs, old := cur, set := (want.changes cur).getD "" } : SysctlEntry).restores content =
      if want.changes cur = some (trimSpace content) then some cur else none := by
  cases changed : want.changes cur with
  | none => simp [SysctlEntry.restores]
  | some next =>
      rcases Want.changes_proper changed with ⟨nonempty, differs, _⟩
      by_cases ours : trimSpace content = next
      · simp [SysctlEntry.restores, nonempty, differs, ours]
      · simp [SysctlEntry.restores, nonempty, differs, ours, Ne.symm ours]

theorem fileStep_period {view : FileView} (unheld : view.entry = none) (want : Want)
    (inside : List FileEvent)
    (held : ∀ before after, inside = before ++ after → 0 < run countStep 1 before)
    (last : run countStep 1 inside = 1) {during : FileView}
    (reached : during = run fileStep (fileStep view (.acquire want)) inside) :
    (fileStep view (.acquire want)).written =
        view.written ++ (want.changes (trimSpace view.content)).toList ∧
      during.written = (fileStep view (.acquire want)).written ∧
      fileStep during .release =
        { during.write (if want.changes (trimSpace view.content) = some (trimSpace during.content)
            then some (trimSpace view.content) else none) with entry := none } := by
  have first : (fileStep view (.acquire want)).entry = some
      { refs := 1
        old := trimSpace view.content
        set := (want.changes (trimSpace view.content)).getD "" } := by
    simp [fileStep, unheld]
  rcases run_fileStep_held first inside held with ⟨kept, unwritten⟩
  rw [← reached] at kept unwritten
  refine ⟨by simp [fileStep, unheld, FileView.write], unwritten, ?_⟩
  dsimp only at kept
  rw [last] at kept
  simp only [fileStep, kept, Nat.sub_self, gt_iff_lt, Nat.lt_irrefl, if_false,
    restores_after_changes]

theorem fileStep_writes {view : FileView} (counted : view.Counted) (event : FileEvent) :
    (fileStep view event).written = view.written ∨
      (∃ value, (fileStep view event).written = view.written ++ [value]) ∧
        ((∃ want, event = .acquire want) ∧ view.refs = 0 ∨ event = .release ∧ view.refs = 1) := by
  cases event with
  | acquire want =>
      cases found : view.entry with
      | some entry => exact .inl (by simp [fileStep, found])
      | none =>
          have unheld : view.refs = 0 := by simp [FileView.refs, found]
          cases changed : want.changes (trimSpace view.content) with
          | none => exact .inl (by simp [fileStep, found, FileView.write, changed])
          | some next =>
              refine .inr ⟨⟨next, ?_⟩, .inl ⟨⟨want, rfl⟩, unheld⟩⟩
              simp [fileStep, found, FileView.write, changed]
  | release =>
      cases found : view.entry with
      | none => exact .inl (by simp [fileStep, found])
      | some entry =>
          have positive := counted entry found
          by_cases inner : entry.refs - 1 > 0
          · exact .inl (by simp [fileStep, found, inner])
          · have last : entry.refs = 1 := by omega
            cases restored : entry.restores view.content with
            | none => exact .inl (by simp [fileStep, found, last, FileView.write, restored])
            | some value =>
                refine .inr ⟨⟨value, ?_⟩, .inr ⟨rfl, by simp [FileView.refs, found, last]⟩⟩
                simp [fileStep, found, last, FileView.write, restored]
  | external content => exact .inl rfl

/-! ### A file that nobody else writes -/

/-- The file holds the initial value, or the value the registry put in its place. -/
def Undisturbed (initial : String) (view : FileView) : Prop :=
  match view.entry with
  | none => trimSpace view.content = initial
  | some entry =>
      entry.old = initial ∧
        (entry.set = "" ∧ trimSpace view.content = initial ∨
          entry.set ≠ "" ∧ entry.set ≠ initial ∧ trimSpace view.content = entry.set)

theorem undisturbed_fileStep {initial : String} (trimmed : trimSpace initial = initial)
    {view : FileView} {event : FileEvent} (internal : ∀ content, event ≠ .external content)
    (undisturbed : Undisturbed initial view) : Undisturbed initial (fileStep view event) := by
  unfold Undisturbed at undisturbed
  cases event with
  | external content => exact absurd rfl (internal content)
  | acquire want =>
      cases found : view.entry with
      | some entry =>
          rw [found] at undisturbed
          simpa [Undisturbed, fileStep, found] using undisturbed
      | none =>
          rw [found] at undisturbed
          cases changed : want.changes (trimSpace view.content) with
          | none =>
              simpa [Undisturbed, fileStep, found, FileView.write, changed] using undisturbed
          | some next =>
              rcases Want.changes_proper changed with ⟨nonempty, differs, readsBack⟩
              have moved : next ≠ initial := undisturbed ▸ differs
              simpa [Undisturbed, fileStep, found, FileView.write, changed, nonempty, moved,
                readsBack] using undisturbed
  | release =>
      cases found : view.entry with
      | none =>
          rw [found] at undisturbed
          simpa [Undisturbed, fileStep, found] using undisturbed
      | some entry =>
          rw [found] at undisturbed
          by_cases inner : entry.refs - 1 > 0
          · simpa [Undisturbed, fileStep, found, inner] using undisturbed
          · rcases undisturbed with ⟨rfl, ⟨unset, same⟩ | ⟨set, differs, ours⟩⟩
            · simp [Undisturbed, fileStep, found, inner, FileView.write, SysctlEntry.restores,
                unset, same]
            · simp [Undisturbed, fileStep, found, inner, FileView.write, SysctlEntry.restores,
                set, differs, ours, trimmed]

theorem undisturbed_run (sys : Sysctls) {path : String} {events : List SysctlEvent}
    (internal : ∀ content, SysctlEvent.external path content ∉ events)
    (undisturbed : Undisturbed (sys.readSysctl path) (sys.view path)) :
    Undisturbed (sys.readSysctl path) ((run sysctlStep sys events).view path) := by
  have trimmed : trimSpace (sys.readSysctl path) = sys.readSysctl path :=
    trimSpace_trimSpace (sys.files path)
  rw [view_run]
  apply run_invariant fileStep (Undisturbed (sys.readSysctl path))
    (fun _ event => ∀ content, event ≠ .external content)
  · intro view event allowed kept
    exact undisturbed_fileStep trimmed allowed kept
  · exact undisturbed
  · apply throughout_of_forall
    intro event listed content foreign
    subst foreign
    rcases List.mem_filterMap.mp listed with ⟨source, member, concerned⟩
    cases source with
    | acquire other want => simp [SysctlEvent.on] at concerned
    | release other => simp [SysctlEvent.on] at concerned
    | external other written =>
        have same : other = path ∧ written = content := by
          simpa [SysctlEvent.on] using concerned
        exact internal content (same.1 ▸ same.2 ▸ member)

/-! ### The law of the registry -/

def Sysctls.writesTo (sys : Sysctls) (path : String) : List String := (sys.view path).written

/-- A period from the state before its first acquire to the one after its last release. -/
structure Restores (path : String) (want : Want) (before first last after : Sysctls) : Prop where
  acquired : first.writesTo path =
    before.writesTo path ++ (want.changes (before.readSysctl path)).toList
  inner : last.writesTo path = first.writesTo path
  restored : want.changes (before.readSysctl path) = some (last.readSysctl path) →
    after.files path = before.readSysctl path ∧
      after.writesTo path = last.writesTo path ++ [before.readSysctl path]
  untouched : want.changes (before.readSysctl path) ≠ some (last.readSysctl path) →
    after.files path = last.files path ∧ after.writesTo path = last.writesTo path

theorem counted_fresh (files : String → String) (path : String) :
    ((Sysctls.fresh files).view path).Counted := by
  intro entry listed
  cases listed

theorem refs_view (files : String → String) (events : List SysctlEvent) (path : String) :
    ((sysctlsAfter files events).view path).Counted ∧
      ((sysctlsAfter files events).view path).refs = references path events := by
  rw [sysctlsAfter, view_run]
  exact run_fileStep_counts (counted_fresh files path) _

theorem entry_eq_none_of_refs {view : FileView} (counted : view.Counted) (unheld : view.refs = 0) :
    view.entry = none := by
  cases found : view.entry with
  | none => rfl
  | some entry =>
      have positive := counted entry found
      simp [FileView.refs, found] at unheld
      omega

theorem restores_period (files : String → String) (path : String) (earlier : List SysctlEvent)
    (want : Want) (inside : List SysctlEvent) (unheld : references path earlier = 0)
    (held : StaysHeld path inside) (last : referencesFrom 1 path inside = 1) :
    Restores path want (sysctlsAfter files earlier)
      (sysctlsAfter files (earlier ++ [.acquire path want]))
      (sysctlsAfter files (earlier ++ .acquire path want :: inside))
      (sysctlsAfter files (earlier ++ .acquire path want :: inside ++ [.release path])) := by
  rcases refs_view files earlier path with ⟨counted, refs⟩
  generalize start : sysctlsAfter files earlier = before at counted refs ⊢
  have unlisted : (before.view path).entry = none :=
    entry_eq_none_of_refs counted (refs.trans unheld)
  have first : sysctlsAfter files (earlier ++ [.acquire path want]) = before.acquire path want := by
    rw [sysctlsAfter, run_append, ← start]
    rfl
  have during : sysctlsAfter files (earlier ++ .acquire path want :: inside) =
      run sysctlStep (before.acquire path want) inside := by
    rw [sysctlsAfter, run_append, ← start]
    rfl
  have final : sysctlsAfter files (earlier ++ .acquire path want :: inside ++ [.release path]) =
      (run sysctlStep (before.acquire path want) inside).release path := by
    rw [← during, sysctlsAfter, run_append]
    rfl
  have localHeld : ∀ front back, inside.filterMap (SysctlEvent.on path) = front ++ back →
      0 < run countStep 1 front := by
    intro front back split
    rcases List.filterMap_eq_append_iff.mp split with ⟨frontEvents, backEvents, parts, rfl, _⟩
    exact held frontEvents backEvents parts
  have viewed := view_run (before.acquire path want) inside path
  rw [view_acquire] at viewed
  rcases fileStep_period unlisted want _ localHeld last viewed with ⟨acquired, inner, ending⟩
  rw [← view_release] at ending
  rw [first, during, final]
  have firstView := view_acquire before path want
  refine ⟨?_, ?_, ?_, ?_⟩
  · rw [Sysctls.writesTo, firstView, acquired]
    rfl
  · rw [Sysctls.writesTo, Sysctls.writesTo, inner, firstView]
  · intro ours
    have same : want.changes (trimSpace (before.view path).content) = some (trimSpace
        ((run sysctlStep (before.acquire path want) inside).view path).content) := ours
    rw [if_pos same] at ending
    exact ⟨congrArg FileView.content ending, congrArg FileView.written ending⟩
  · intro foreign
    have other : want.changes (trimSpace (before.view path).content) ≠ some (trimSpace
        ((run sysctlStep (before.acquire path want) inside).view path).content) := foreign
    rw [if_neg other] at ending
    exact ⟨congrArg FileView.content ending,
      (congrArg FileView.written ending).trans (List.append_nil _)⟩

/-- The law of the registry for one file: it writes only at the ends of a period and at most
once there, a period ends as `Restores` says, and without foreign writes a file is back at its
initial value whenever no reference is held. -/
theorem sysctl_restores_exactly (files : String → String) (path : String) :
    (∀ (earlier : List SysctlEvent) (event : SysctlEvent),
      (sysctlsAfter files (earlier ++ [event])).writesTo path =
          (sysctlsAfter files earlier).writesTo path ∨
        (∃ value, (sysctlsAfter files (earlier ++ [event])).writesTo path =
          (sysctlsAfter files earlier).writesTo path ++ [value]) ∧
          ((∃ want, event = .acquire path want) ∧ references path earlier = 0 ∨
            event = .release path ∧ references path earlier = 1)) ∧
    (∀ (earlier : List SysctlEvent) (want : Want) (inside : List SysctlEvent),
      references path earlier = 0 → StaysHeld path inside → referencesFrom 1 path inside = 1 →
      Restores path want (sysctlsAfter files earlier)
        (sysctlsAfter files (earlier ++ [.acquire path want]))
        (sysctlsAfter files (earlier ++ .acquire path want :: inside))
        (sysctlsAfter files (earlier ++ .acquire path want :: inside ++ [.release path]))) ∧
    (∀ events : List SysctlEvent, (∀ content, SysctlEvent.external path content ∉ events) →
      references path events = 0 →
      (sysctlsAfter files events).readSysctl path = trimSpace (files path)) := by
  refine ⟨?_, ?_, ?_⟩
  · intro earlier event
    rcases refs_view files earlier path with ⟨counted, refs⟩
    have stepped : sysctlsAfter files (earlier ++ [event]) =
        sysctlStep (sysctlsAfter files earlier) event := by
      rw [sysctlsAfter, run_append]
      rfl
    rw [stepped, Sysctls.writesTo, Sysctls.writesTo, view_sysctlStep, ← refs]
    cases concerned : event.on path with
    | none => exact .inl rfl
    | some action =>
        rcases fileStep_writes counted action with unwritten | ⟨written, ends⟩
        · exact .inl unwritten
        · refine .inr ⟨written, ?_⟩
          cases event with
          | acquire other want =>
              have same : other = path ∧ FileEvent.acquire want = action := by
                simpa [SysctlEvent.on] using concerned
              rcases same with ⟨rfl, rfl⟩
              rcases ends with ⟨_, unheld⟩ | ⟨impossible, _⟩
              · exact .inl ⟨⟨want, rfl⟩, unheld⟩
              · cases impossible
          | release other =>
              have same : other = path ∧ FileEvent.release = action := by
                simpa [SysctlEvent.on] using concerned
              rcases same with ⟨rfl, rfl⟩
              rcases ends with ⟨⟨_, impossible⟩, _⟩ | ⟨_, last⟩
              · cases impossible
              · exact .inr ⟨rfl, last⟩
          | external other content =>
              have same : other = path ∧ FileEvent.external content = action := by
                simpa [SysctlEvent.on] using concerned
              rcases same with ⟨rfl, rfl⟩
              rcases ends with ⟨⟨_, impossible⟩, _⟩ | ⟨impossible, _⟩
              · cases impossible
              · cases impossible
  · intro earlier want inside unheld held last
    exact restores_period files path earlier want inside unheld held last
  · intro events internal balanced
    rcases refs_view files events path with ⟨counted, refs⟩
    have unlisted := entry_eq_none_of_refs counted (refs.trans balanced)
    have kept := undisturbed_run (Sysctls.fresh files) internal rfl
    change Undisturbed (trimSpace (files path)) ((sysctlsAfter files events).view path) at kept
    unfold Undisturbed at kept
    rw [unlisted] at kept
    exact kept

/-! ### The two values the instances ask for -/

def sysctlBase : String := "/proc/sys"

/-- An interface name is one path element, so `filepath.Join` only puts the separators. -/
def sysctlPath (iface key : String) : String :=
  sysctlBase ++ "/net/ipv6/conf/" ++ iface ++ "/" ++ key

theorem two_proper : "2" ≠ "" ∧ trimSpace "2" = "2" := by decide

theorem one_proper : "1" ≠ "" ∧ trimSpace "1" = "1" := by decide

/-- Relaxes accept_ra from 1 to 2; a value set by the administrator stays. -/
def wantAcceptRA : Want where
  choose := fun cur => ("2", cur == "1")
  proper := fun _ _ => two_proper

def wantForwarding : Want where
  choose := fun cur => ("1", cur == "0")
  proper := fun _ _ => one_proper

/-- Two holders of one file around a foreign write, and two holders undisturbed. -/
theorem sysctl_restores_nested :
    Restores (sysctlPath "eth0" "forwarding") wantForwarding (sysctlsAfter (fun _ => "0\n") [])
      (sysctlsAfter (fun _ => "0\n") ([] ++ [.acquire (sysctlPath "eth0" "forwarding") wantForwarding]))
      (sysctlsAfter (fun _ => "0\n") ([] ++ .acquire (sysctlPath "eth0" "forwarding") wantForwarding ::
        [.external (sysctlPath "eth0" "forwarding") "7"]))
      (sysctlsAfter (fun _ => "0\n") ([] ++ .acquire (sysctlPath "eth0" "forwarding") wantForwarding ::
        [.external (sysctlPath "eth0" "forwarding") "7"] ++
          [.release (sysctlPath "eth0" "forwarding")])) ∧
    (sysctlsAfter (fun _ => "0\n")
      [.acquire (sysctlPath "eth0" "forwarding") wantForwarding,
        .acquire (sysctlPath "eth0" "forwarding") wantForwarding,
        .release (sysctlPath "eth0" "forwarding"),
        .release (sysctlPath "eth0" "forwarding")]).readSysctl (sysctlPath "eth0" "forwarding") =
      trimSpace "0\n" := by
  have law := sysctl_restores_exactly (fun _ => "0\n") (sysctlPath "eth0" "forwarding")
  refine ⟨law.2.1 [] wantForwarding [.external (sysctlPath "eth0" "forwarding") "7"] rfl ?_ ?_,
    law.2.2 _ (by simp) ?_⟩
  · intro before after split
    cases before with
    | nil => exact Nat.one_pos
    | cons event rest =>
        simp only [List.cons_append, List.cons.injEq, List.nil_eq, List.append_eq_nil_iff] at split
        rw [← split.1, split.2.1]
        simp [referencesFrom, SysctlEvent.on, countStep]
  · simp [referencesFrom, SysctlEvent.on, countStep]
  · simp [references, referencesFrom, SysctlEvent.on, countStep]

end BridgeDhcp.PdRoute
