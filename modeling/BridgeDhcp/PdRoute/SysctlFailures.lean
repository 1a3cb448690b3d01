/-
The sysctl registry over files that may be missing or closed.

Reading and writing may fail here, and between the calls of the registry a file may
appear, vanish, change its content or its permissions.  Where every file is open the
registry is the one studied before.
-/

import BridgeDhcp.PdRoute.SysctlOrder

set_option autoImplicit false

namespace BridgeDhcp.PdRoute

open GoMap GoText StepRun

/-! ### Files and the registry -/

structure SysctlFile where
  content : String
  readable : Bool
  writable : Bool
  deriving DecidableEq, Repr

def openFile (content : String) : SysctlFile where
  content := content
  readable := true
  writable := true

structure SysctlReg where
  entries : Map String SysctlEntry
  files : String → Option SysctlFile

def SysctlReg.fresh (files : String → Option SysctlFile) : SysctlReg where
  entries := ∅
  files := files

namespace SysctlReg

/-- None is an error. -/
def readSysctl (reg : SysctlReg) (path : String) : Option String :=
  match reg.files path with
  | none => none
  | some file => if file.readable then some (trimSpace file.content) else none

/-- No file can be created below `/proc/sys`. -/
def writeSysctl (reg : SysctlReg) (path value : String) : Option SysctlReg :=
  match reg.files path with
  | none => none
  | some file =>
      if file.writable then
        some { reg with
          files := Function.update reg.files path (some { file with content := value }) }
      else none

def setEntry (reg : SysctlReg) (path : String) (entry : SysctlEntry) : SysctlReg :=
  { reg with entries := reg.entries.insert path entry }

def acquire (reg : SysctlReg) (path : String) (want : Want) : SysctlReg :=
  match reg.entries.lookup path with
  | some entry => reg.setEntry path { entry with refs := entry.refs + 1 }
  | none =>
      -- the entry is there before anything can fail
      let reg := reg.setEntry path { refs := 1, old := "", set := "" }
      match reg.readSysctl path with
      | none => reg
      | some cur =>
          let reg := reg.setEntry path { refs := 1, old := cur, set := "" }
          let next := (want.choose cur).1
          if (want.choose cur).2 = true ∧ next ≠ cur then
            match reg.writeSysctl path next with
            | none => reg
            | some written => written.setEntry path { refs := 1, old := cur, set := next }
          else reg

def release (reg : SysctlReg) (path : String) : SysctlReg :=
  match reg.entries.lookup path with
  | none => reg
  | some entry =>
      if entry.refs - 1 > 0 then reg.setEntry path { entry with refs := entry.refs - 1 }
      else
        let reg := { reg with entries := reg.entries.erase path }
        if entry.set = "" ∨ entry.set = entry.old then reg
        else if reg.readSysctl path ≠ some entry.set then reg
        else (reg.writeSysctl path entry.old).getD reg

end SysctlReg

inductive Happening where
  | call (call : SysctlCall)
  | changed (path : String) (file : Option SysctlFile)

def SysctlReg.perform (reg : SysctlReg) (call : SysctlCall) : SysctlReg :=
  match call with
  | .acquireAcceptRA iface => reg.acquire (sysctlPath iface "accept_ra") wantAcceptRA
  | .acquireForwarding iface => reg.acquire (sysctlPath iface "forwarding") wantForwarding
  | .releaseForwarding iface => reg.release (sysctlPath iface "forwarding")
  | .releaseAcceptRA iface => reg.release (sysctlPath iface "accept_ra")

def happen (reg : SysctlReg) : Happening → SysctlReg
  | .call call => reg.perform call
  | .changed path file => { reg with files := Function.update reg.files path file }

/-! ### What a call does -/

def firstEffect (want : Want) (file : Option SysctlFile) : Option SysctlFile :=
  file.map (fun found =>
    if found.readable = true ∧ found.writable = true then
      { found with content := (want.changes (trimSpace found.content)).getD found.content }
    else found)

def firstEntry (want : Want) (file : Option SysctlFile) : SysctlEntry :=
  match file with
  | none => { refs := 1, old := "", set := "" }
  | some found =>
      if found.readable then
        { refs := 1
          old := trimSpace found.content
          set := if found.writable then (want.changes (trimSpace found.content)).getD "" else "" }
      else { refs := 1, old := "", set := "" }

section Calls

variable (reg : SysctlReg) (path : String) (want : Want)

theorem acquire_listed {entry : SysctlEntry} (found : reg.entries.lookup path = some entry) :
    reg.acquire path want = reg.setEntry path { entry with refs := entry.refs + 1 } := by
  unfold SysctlReg.acquire
  rw [found]

theorem acquire_first (unlisted : reg.entries.lookup path = none) :
    reg.acquire path want =
      { entries := reg.entries.insert path (firstEntry want (reg.files path))
        files := Function.update reg.files path (firstEffect want (reg.files path)) } := by
  have same : Function.update reg.files path (reg.files path) = reg.files :=
    Function.update_eq_self path reg.files
  unfold SysctlReg.acquire
  rw [unlisted]
  dsimp only [SysctlReg.readSysctl, SysctlReg.writeSysctl, SysctlReg.setEntry]
  cases found : reg.files path with
  | none =>
      rw [found] at same
      simp [firstEntry, firstEffect, same]
  | some file =>
      rw [found] at same
      obtain ⟨content, readable, writable⟩ := file
      cases readable with
      | false => simp [firstEntry, firstEffect, same]
      | true =>
          by_cases changing : (want.choose (trimSpace content)).2 = true ∧
              (want.choose (trimSpace content)).1 ≠ trimSpace content
          · cases writable with
            | false => simp [firstEntry, firstEffect, changing, same]
            | true => simp [firstEntry, firstEffect, Want.changes, changing]
          · simp [firstEntry, firstEffect, Want.changes, changing, same]

end Calls

/-! ### Effect of an acquire -/

def Shows (reg : SysctlReg) (path value : String) : Prop :=
  ∃ file, reg.files path = some file ∧ file.readable = true ∧ file.writable = true ∧
    trimSpace file.content = value

structure Replaces (want : Want) (value : String) : Prop where
  changes : ∃ next, want.changes value = some next ∧ trimSpace next ≠ value
  only : ∀ cur, cur ≠ value → want.changes cur = none

theorem wantForwarding_replaces : Replaces wantForwarding "0" := by
  refine ⟨⟨"1", by decide, by decide⟩, ?_⟩
  intro cur other
  simp [Want.changes, wantForwarding, other]

theorem wantAcceptRA_replaces : Replaces wantAcceptRA "1" := by
  refine ⟨⟨"2", by decide, by decide⟩, ?_⟩
  intro cur other
  simp [Want.changes, wantAcceptRA, other]

/-- After an acquire the unwanted value is there only if it was there before and
the call found a reference. -/
theorem shows_acquire_iff {want : Want} {value : String} (replaces : Replaces want value)
    (reg : SysctlReg) (path : String) :
    Shows (reg.acquire path want) path value ↔
      (reg.entries.lookup path).isSome = true ∧ Shows reg path value := by
  cases held : reg.entries.lookup path with
  | some entry =>
      rw [acquire_listed reg path want held]
      exact (and_iff_right rfl).symm
  | none =>
      rw [acquire_first reg path want held]
      unfold Shows
      dsimp only
      rw [Function.update_self]
      simp only [Option.isSome_none, Bool.false_eq_true, false_and, iff_false]
      rintro ⟨file, effect, readable, writable, unwanted⟩
      obtain ⟨found, _, result⟩ := Option.map_eq_some_iff.mp effect
      split at result
      · subst result
        by_cases wrong : trimSpace found.content = value
        · obtain ⟨next, changed, rid⟩ := replaces.changes
          dsimp only at unwanted
          rw [wrong, changed] at unwanted
          exact rid unwanted
        · dsimp only at unwanted
          rw [replaces.only _ wrong] at unwanted
          exact wrong unwanted
      · next closed =>
          subst result
          exact closed ⟨readable, writable⟩

def regAfter (files : String → Option SysctlFile) (history : List Happening) : SysctlReg :=
  run happen (.fresh files) history

/-- If the file is then open, its value is not the unwanted one. -/
def Effective (reg : SysctlReg) (path value : String) : Prop :=
  ∀ file, reg.files path = some file → file.readable = true → file.writable = true →
    trimSpace file.content ≠ value

theorem effective_iff_not_shows (reg : SysctlReg) (path value : String) :
    Effective reg path value ↔ ¬ Shows reg path value := by
  unfold Effective Shows
  simp only [not_exists, not_and]

/-- After every history of calls and of the files, an acquire is effective exactly
unless a reference is held and the file is open with the unwanted value: then the
call only counts. -/
theorem acquire_effective_iff (files : String → Option SysctlFile) (history : List Happening)
    (iface : String) :
    (Effective (regAfter files (history ++ [.call (.acquireForwarding iface)]))
        (sysctlPath iface "forwarding") "0" ↔
      ¬ (((regAfter files history).entries.lookup (sysctlPath iface "forwarding")).isSome = true ∧
        Shows (regAfter files history) (sysctlPath iface "forwarding") "0")) ∧
    (Effective (regAfter files (history ++ [.call (.acquireAcceptRA iface)]))
        (sysctlPath iface "accept_ra") "1" ↔
      ¬ (((regAfter files history).entries.lookup (sysctlPath iface "accept_ra")).isSome = true ∧
        Shows (regAfter files history) (sysctlPath iface "accept_ra") "1")) := by
  constructor
  · rw [effective_iff_not_shows, regAfter, run_append]
    exact not_congr (shows_acquire_iff wantForwarding_replaces _ _)
  · rw [effective_iff_not_shows, regAfter, run_append]
    exact not_congr (shows_acquire_iff wantAcceptRA_replaces _ _)

/-- The uplink of two bridges is not there when the first of them starts, and comes
up with the defaults of the kernel; the second then changes nothing. -/
theorem late_uplink_not_forwarding :
    ¬ Effective
      (regAfter (fun _ => none)
        [.call (.acquireForwarding "wlan0"),
          .changed (sysctlPath "wlan0" "forwarding") (some (openFile "0\n")),
          .call (.acquireForwarding "wlan0")])
      (sysctlPath "wlan0" "forwarding") "0" ∧
    ¬ Effective
      (regAfter (fun _ => none)
        [.call (.acquireAcceptRA "wlan0"),
          .changed (sysctlPath "wlan0" "accept_ra") (some (openFile "1\n")),
          .call (.acquireAcceptRA "wlan0")])
      (sysctlPath "wlan0" "accept_ra") "1" := by
  constructor
  · intro effective
    exact effective (openFile "0\n") (by decide +kernel) rfl rfl (by decide)
  · intro effective
    exact effective (openFile "1\n") (by decide +kernel) rfl rfl (by decide)

/-! ### Open files -/

/-- The registry with failures and the one without, where nothing fails. -/
structure Agrees (reg : SysctlReg) (sys : Sysctls) : Prop where
  entries : reg.entries = sys.entries
  files : ∀ path, reg.files path = some (openFile (sys.files path))

theorem Agrees.update {reg : SysctlReg} {sys : Sysctls} (agrees : Agrees reg sys)
    (path value other : String) :
    Function.update reg.files path (some (openFile value)) other =
      some (openFile (Function.update sys.files path value other)) := by
  by_cases same : other = path
  · subst same
    rw [Function.update_self, Function.update_self]
  · rw [Function.update_of_ne same, Function.update_of_ne same]
    exact agrees.files other

theorem Agrees.acquire {reg : SysctlReg} {sys : Sysctls} (agrees : Agrees reg sys)
    (path : String) (want : Want) : Agrees (reg.acquire path want) (sys.acquire path want) := by
  unfold Sysctls.acquire
  cases held : sys.entries.lookup path with
  | some entry =>
      rw [acquire_listed reg path want (agrees.entries ▸ held)]
      refine ⟨?_, agrees.files⟩
      rw [SysctlReg.setEntry, agrees.entries]
  | none =>
      rw [acquire_first reg path want (agrees.entries ▸ held), agrees.files path, agrees.entries]
      dsimp only
      split
      · next changing =>
          have next : want.changes (trimSpace (sys.files path)) =
              some (want.choose (trimSpace (sys.files path))).1 := if_pos changing
          refine ⟨?_, fun other => ?_⟩
          · simp [firstEntry, openFile, next, Sysctls.readSysctl]
          · have effect := agrees.update path (want.choose (trimSpace (sys.files path))).1 other
            simpa [firstEffect, openFile, next, Sysctls.writeSysctl, Sysctls.readSysctl] using effect
      · next unchanged =>
          have next : want.changes (trimSpace (sys.files path)) = none := if_neg unchanged
          refine ⟨?_, fun other => ?_⟩
          · simp [firstEntry, openFile, next, Sysctls.readSysctl]
          · have effect := agrees.update path (sys.files path) other
            simpa [firstEffect, openFile, next] using effect

theorem Agrees.release {reg : SysctlReg} {sys : Sysctls} (agrees : Agrees reg sys)
    (path : String) : Agrees (reg.release path) (sys.release path) := by
  unfold SysctlReg.release Sysctls.release
  rw [agrees.entries]
  cases sys.entries.lookup path with
  | none => exact agrees
  | some entry =>
      have read : ({ reg with entries := sys.entries.erase path } : SysctlReg).readSysctl path =
          some (trimSpace (sys.files path)) := by
        simp [SysctlReg.readSysctl, agrees.files path, openFile]
      have write : ({ reg with entries := sys.entries.erase path } : SysctlReg).writeSysctl path
            entry.old =
          some { entries := sys.entries.erase path
                 files := Function.update reg.files path (some (openFile entry.old)) } := by
        simp [SysctlReg.writeSysctl, agrees.files path, openFile]
      dsimp only
      rw [read, write]
      split
      · exact ⟨by rw [SysctlReg.setEntry, agrees.entries], agrees.files⟩
      · split
        · exact ⟨rfl, agrees.files⟩
        · by_cases foreign : trimSpace (sys.files path) = entry.set
          · rw [if_neg (by simp [foreign]), if_neg (by simp [Sysctls.readSysctl, foreign])]
            exact ⟨rfl, agrees.update path entry.old⟩
          · rw [if_pos (by simp [foreign]), if_pos (by simp [Sysctls.readSysctl, foreign])]
            exact ⟨rfl, agrees.files⟩

/-- A call, or a write by somebody else after which the file is open. -/
inductive Ordinary : Happening → SysctlEvent → Prop
  | call (made : SysctlCall) : Ordinary (.call made) made.event
  | external (path content : String) :
      Ordinary (.changed path (some (openFile content))) (.external path content)

theorem Agrees.happen {reg : SysctlReg} {sys : Sysctls} (agrees : Agrees reg sys)
    {happening : Happening} {event : SysctlEvent} (ordinary : Ordinary happening event) :
    Agrees (happen reg happening) (sysctlStep sys event) := by
  cases ordinary with
  | call made =>
      cases made with
      | acquireAcceptRA iface => exact agrees.acquire _ _
      | acquireForwarding iface => exact agrees.acquire _ _
      | releaseForwarding iface => exact agrees.release _
      | releaseAcceptRA iface => exact agrees.release _
  | external path content => exact ⟨agrees.entries, agrees.update path content⟩

theorem agrees_run (files : String → String) {history : List Happening}
    {events : List SysctlEvent} (ordinary : List.Forall₂ Ordinary history events) :
    Agrees (regAfter (fun path => some (openFile (files path))) history)
      (sysctlsAfter files events) := by
  have steps : ∀ (reg : SysctlReg) (sys : Sysctls), Agrees reg sys →
      Agrees (run PdRoute.happen reg history) (run sysctlStep sys events) := by
    induction ordinary with
    | nil =>
        intro reg sys agrees
        exact agrees
    | cons first _ ih =>
        intro reg sys agrees
        exact ih _ _ (agrees.happen first)
  exact steps _ _ ⟨rfl, fun _ => rfl⟩

end BridgeDhcp.PdRoute
