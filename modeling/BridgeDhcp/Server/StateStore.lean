/-
The state file.

A change marks the store dirty; a timer then clears the mark and saves.  A save
collects a snapshot, truncates and writes the temporary file and renames it over
the state file.  Nothing keeps two saves apart, so their steps interleave.  Files
are inodes behind the two names: a save that has opened the temporary file goes on
writing to the inode it opened, whatever its name has become.
-/

import BridgeDhcp.GoMapRange
import BridgeDhcp.StepRun
import Mathlib.Tactic.Common

set_option autoImplicit false

namespace BridgeDhcp.Server

open GoMap StepRun

/-! ### The two files -/

/-- The inodes, and which of them the temporary name and the path refer to. -/
structure StateFiles where
  inodes : List (List UInt8)
  tmp : Option Nat
  path : Option Nat
  deriving DecidableEq, Repr

namespace StateFiles

def content (files : StateFiles) (inode : Nat) : List UInt8 := files.inodes.getD inode []

def saved (files : StateFiles) : Option (List UInt8) := files.path.map files.content

def openTmp (files : StateFiles) : Nat × StateFiles :=
  match files.tmp with
  | some inode => (inode, { files with inodes := files.inodes.set inode [] })
  | none =>
      (files.inodes.length,
        { files with inodes := files.inodes ++ [[]], tmp := some files.inodes.length })

/-- Writing at an offset; a gap before it reads as zeros. -/
def writeAt (old : List UInt8) (offset : Nat) (data : List UInt8) : List UInt8 :=
  old.take offset ++ List.replicate (offset - old.length) 0 ++ data ++
    old.drop (offset + data.length)

def write (files : StateFiles) (inode offset : Nat) (data : List UInt8) : StateFiles :=
  { files with inodes := files.inodes.set inode (writeAt (files.content inode) offset data) }

/-- Renaming fails without effect when the temporary name is gone. -/
def rename (files : StateFiles) : StateFiles :=
  match files.tmp with
  | none => files
  | some inode => { files with tmp := none, path := some inode }

theorem content_set_self {files : StateFiles} {inode : Nat} (known : inode < files.inodes.length)
    (bytes : List UInt8) :
    ({ files with inodes := files.inodes.set inode bytes } : StateFiles).content inode = bytes := by
  simp [content, List.getD_eq_getElem?_getD, known]

theorem content_set_other (files : StateFiles) {inode other : Nat} (distinct : other ≠ inode)
    (bytes : List UInt8) :
    ({ files with inodes := files.inodes.set inode bytes } : StateFiles).content other =
      files.content other := by
  simp [content, List.getD_eq_getElem?_getD, List.getElem?_set_ne (Ne.symm distinct)]

/-- Opening empties the inode behind the temporary name, or makes a new one, and leaves the
state file alone. -/
theorem openTmp_spec {files : StateFiles}
    (tmpKnown : ∀ inode, files.tmp = some inode → inode < files.inodes.length)
    (pathKnown : ∀ inode, files.path = some inode → inode < files.inodes.length)
    (apart : ∀ inode, files.path = some inode → files.tmp ≠ some inode) :
    files.openTmp.2.tmp = some files.openTmp.1 ∧
      files.openTmp.1 < files.openTmp.2.inodes.length ∧
      files.openTmp.2.content files.openTmp.1 = [] ∧
      files.openTmp.2.path = files.path ∧ files.path ≠ some files.openTmp.1 ∧
      (∀ inode, files.path = some inode → inode < files.openTmp.2.inodes.length) ∧
      files.openTmp.2.saved = files.saved := by
  unfold openTmp
  cases named : files.tmp with
  | some inode =>
      have known := tmpKnown inode named
      have notPath : files.path ≠ some inode := fun same => apart inode same named
      refine ⟨rfl, by simpa using known, content_set_self known [], rfl, notPath,
        by simpa using pathKnown, ?_⟩
      unfold saved
      cases target : files.path with
      | none => rfl
      | some other =>
          have distinct : other ≠ inode := fun same => notPath (same ▸ target)
          exact congrArg some (content_set_other files distinct [])
  | none =>
      have notPath : files.path ≠ some files.inodes.length :=
        fun same => Nat.lt_irrefl _ (pathKnown _ same)
      refine ⟨rfl, by simp, by simp [content], rfl, notPath, ?_, ?_⟩
      · intro inode target
        have known := pathKnown inode target
        simp only [List.length_append, List.length_singleton]
        omega
      · unfold saved
        cases target : files.path with
        | none => rfl
        | some other =>
            have known := pathKnown other target
            simp [content, List.getD_eq_getElem?_getD, List.getElem?_append_left known]

theorem writeAt_take {data : List UInt8} {offset : Nat} (within : offset ≤ data.length)
    (count : Nat) :
    writeAt (data.take offset) offset ((data.drop offset).take count) =
      data.take (offset + ((data.drop offset).take count).length) := by
  have length : (data.take offset).length = offset := by simp [within]
  have tail : (data.take offset).drop (offset + ((data.drop offset).take count).length) = [] := by
    apply List.drop_eq_nil_of_le
    omega
  have all : data.take offset ++ (data.drop offset).take count = data.take (offset + count) := by
    rw [List.take_add]
  rw [writeAt, tail, length, Nat.sub_self, List.take_take, Nat.min_self, List.replicate_zero,
    List.append_nil, List.append_nil, all, List.length_take, List.length_drop]
  by_cases more : count ≤ data.length - offset
  · rw [Nat.min_eq_left more]
  · rw [Nat.min_eq_right (by omega), List.take_of_length_le (by omega),
      List.take_of_length_le (by omega)]

end StateFiles

/-! ### Saves -/

/-- How far a call of `saveNow` is.  Snapshots are numbered as they are collected. -/
inductive Saving (Snapshot : Type) where
  | begun
  | collected (number : Nat) (snapshot : Snapshot)
  | writing (number : Nat) (snapshot : Snapshot) (inode offset : Nat)
  deriving DecidableEq, Repr

structure StateStore (Snapshot : Type) where
  /-- What `collect` would return now. -/
  current : Snapshot
  pending : Bool
  saves : Map Nat (Saving Snapshot)
  files : StateFiles
  /-- All snapshots collected so far, oldest first. -/
  collected : List Snapshot
  /-- How many of them were collected before the last `markDirty`, once there was one. -/
  covered : Option Nat
  /-- One more than the number of the snapshot whose save opened the temporary file last. -/
  opened : Nat

inductive StoreEvent (Snapshot : Type) where
  | change (next : Snapshot)
  | markDirty
  /-- The debounce timer fires; its save gets this identifier. -/
  | timer (save : Nat)
  /-- `Stop` saves at once. -/
  | saveNow (save : Nat)
  | collect (save : Nat)
  | openTmp (save : Nat)
  | write (save count : Nat)
  | rename (save : Nat)

section Steps

variable {Snapshot : Type} (encode : Snapshot → List UInt8)

namespace StateStore

def launch (store : StateStore Snapshot) (save : Nat) : StateStore Snapshot :=
  if store.saves.lookup save = none then
    { store with saves := store.saves.insert save .begun }
  else store

/-- The callback of `time.AfterFunc`: the mark is cleared before the save begins. -/
def fire (store : StateStore Snapshot) (save : Nat) : StateStore Snapshot :=
  if store.pending = true ∧ store.saves.lookup save = none then
    { store with pending := false, saves := store.saves.insert save .begun }
  else store

def collect (store : StateStore Snapshot) (save : Nat) : StateStore Snapshot :=
  match store.saves.lookup save with
  | some .begun =>
      { store with
        saves := store.saves.insert save (.collected store.collected.length store.current)
        collected := store.collected ++ [store.current] }
  | _ => store

def openTmp (store : StateStore Snapshot) (save : Nat) : StateStore Snapshot :=
  match store.saves.lookup save with
  | some (.collected number snapshot) =>
      let opened := store.files.openTmp
      { store with
        saves := store.saves.insert save (.writing number snapshot opened.1 0)
        files := opened.2
        opened := number + 1 }
  | _ => store

def write (store : StateStore Snapshot) (save count : Nat) : StateStore Snapshot :=
  match store.saves.lookup save with
  | some (.writing number snapshot inode offset) =>
      let data := ((encode snapshot).drop offset).take count
      { store with
        saves := store.saves.insert save (.writing number snapshot inode (offset + data.length))
        files := store.files.write inode offset data }
  | _ => store

/-- A save renames once all its data is written, and is then done. -/
def rename (store : StateStore Snapshot) (save : Nat) : StateStore Snapshot :=
  match store.saves.lookup save with
  | some (.writing _ snapshot _ offset) =>
      if offset = (encode snapshot).length then
        { store with saves := store.saves.erase save, files := store.files.rename }
      else store
  | _ => store

end StateStore

def storeStep (store : StateStore Snapshot) : StoreEvent Snapshot → StateStore Snapshot
  | .change next => { store with current := next }
  | .markDirty => { store with pending := true, covered := some store.collected.length }
  | .timer save => store.fire save
  | .saveNow save => store.launch save
  | .collect save => store.collect save
  | .openTmp save => store.openTmp save
  | .write save count => store.write encode save count
  | .rename save => store.rename encode save

/-- A store at start-up: perhaps a state file of an earlier run and a left-over temporary file. -/
def newStateStore (current : Snapshot) (earlier : Option Snapshot) (leftover : Option (List UInt8)) :
    StateStore Snapshot where
  current := current
  pending := false
  saves := ∅
  files :=
    { inodes := [(earlier.map encode).getD [], leftover.getD []]
      path := earlier.map fun _ => 0
      tmp := leftover.map fun _ => 1 }
  collected := []
  covered := none
  opened := 0

/-! ### The promise -/

def Quiet (store : StateStore Snapshot) : Prop :=
  store.pending = false ∧ ∀ save, store.saves.lookup save = none

/-- The state file is absent or one complete snapshot, and once nothing is pending or running it
is a snapshot collected after the last mark. -/
structure Sound (earlier : Option Snapshot) (store : StateStore Snapshot) : Prop where
  complete : ∀ bytes, store.files.saved = some bytes →
    ∃ snapshot, (earlier = some snapshot ∨ snapshot ∈ store.collected) ∧ bytes = encode snapshot
  fresh : Quiet store → ∀ covered, store.covered = some covered →
    ∃ number snapshot, covered ≤ number ∧ store.collected[number]? = some snapshot ∧
      store.files.saved = some (encode snapshot)

/-- Saves write one at a time, in the order in which they collected: the temporary file is
opened only when no save is writing it and none that collected later has opened it. -/
def OpensInOrder (store : StateStore Snapshot) (event : StoreEvent Snapshot) : Prop :=
  ∀ save number snapshot, event = .openTmp save →
    store.saves.lookup save = some (.collected number snapshot) →
    store.opened ≤ number ∧
      ∀ other later written inode offset,
        store.saves.lookup other ≠ some (.writing later written inode offset)

/-! ### What holds when saves open in order -/

def NobodyWrites (store : StateStore Snapshot) : Prop :=
  ∀ save number snapshot inode offset,
    store.saves.lookup save ≠ some (.writing number snapshot inode offset)

structure StoreInv (earlier : Option Snapshot) (store : StateStore Snapshot) : Prop where
  pathKnown : ∀ inode, store.files.path = some inode → inode < store.files.inodes.length
  tmpKnown : ∀ inode, store.files.tmp = some inode → inode < store.files.inodes.length
  apart : ∀ inode, store.files.path = some inode → store.files.tmp ≠ some inode
  noted : ∀ save number snapshot, store.saves.lookup save = some (.collected number snapshot) →
    store.collected[number]? = some snapshot
  writing : ∀ save number snapshot inode offset,
    store.saves.lookup save = some (.writing number snapshot inode offset) →
    store.files.tmp = some inode ∧ store.files.content inode = (encode snapshot).take offset ∧
      offset ≤ (encode snapshot).length ∧ store.opened = number + 1 ∧
      store.collected[number]? = some snapshot
  alone : ∀ save other number snapshot inode offset number' snapshot' inode' offset',
    store.saves.lookup save = some (.writing number snapshot inode offset) →
    store.saves.lookup other = some (.writing number' snapshot' inode' offset') → save = other
  complete : ∀ bytes, store.files.saved = some bytes →
    ∃ snapshot, (earlier = some snapshot ∨ snapshot ∈ store.collected) ∧ bytes = encode snapshot
  installed : NobodyWrites store → ∀ number, store.opened = number + 1 →
    ∃ snapshot, store.collected[number]? = some snapshot ∧
      store.files.saved = some (encode snapshot)
  latest : ∀ number, store.collected.length = number + 1 → store.opened = number + 1 ∨
    ∃ save snapshot, store.saves.lookup save = some (.collected number snapshot)
  dirty : ∀ covered, store.covered = some covered → covered ≤ store.collected.length ∧
    (covered = store.collected.length → store.pending = true ∨
      ∃ save, store.saves.lookup save = some .begun)

theorem StoreInv.sound {earlier : Option Snapshot} {store : StateStore Snapshot}
    (inv : StoreInv encode earlier store) : Sound encode earlier store where
  complete := inv.complete
  fresh := by
    rintro ⟨notPending, idle⟩ covered marked
    have quiet : NobodyWrites store := by
      intro save number snapshot inode offset running
      rw [idle save] at running
      cases running
    rcases inv.dirty covered marked with ⟨bound, saving⟩
    have collectedSince : covered < store.collected.length := by
      apply Nat.lt_of_le_of_ne bound
      intro none
      rcases saving none with pending | ⟨save, running⟩
      · rw [notPending] at pending
        cases pending
      · rw [idle save] at running
        cases running
    obtain ⟨number, length⟩ : ∃ number, store.collected.length = number + 1 :=
      ⟨store.collected.length - 1, by omega⟩
    rcases inv.latest number length with opened | ⟨save, snapshot, running⟩
    · rcases inv.installed quiet number opened with ⟨snapshot, stored, saved⟩
      exact ⟨number, snapshot, by omega, stored, saved⟩
    · rw [idle save] at running
      cases running

theorem storeInv_new (current : Snapshot) (earlier : Option Snapshot)
    (leftover : Option (List UInt8)) :
    StoreInv encode earlier (newStateStore encode current earlier leftover) := by
  constructor
  · cases earlier <;> simp [newStateStore]
  · cases leftover <;> simp [newStateStore]
  · cases earlier <;> cases leftover <;> simp [newStateStore]
  · intro save number snapshot running
    cases running
  · intro save number snapshot inode offset running
    cases running
  · intro save other number snapshot inode offset number' snapshot' inode' offset' running
    cases running
  · cases earlier with
    | none => simp [newStateStore, StateFiles.saved]
    | some snapshot => simp [newStateStore, StateFiles.saved, StateFiles.content]
  · intro _ number opened
    cases opened
  · intro number length
    cases length
  · intro covered marked
    cases marked

section Preservation

variable {earlier : Option Snapshot} {store : StateStore Snapshot}

theorem storeInv_change (inv : StoreInv encode earlier store) (next : Snapshot) :
    StoreInv encode earlier { store with current := next } :=
  ⟨inv.pathKnown, inv.tmpKnown, inv.apart, inv.noted, inv.writing, inv.alone, inv.complete,
    inv.installed, inv.latest, inv.dirty⟩

theorem storeInv_markDirty (inv : StoreInv encode earlier store) :
    StoreInv encode earlier
      { store with pending := true, covered := some store.collected.length } := by
  refine ⟨inv.pathKnown, inv.tmpKnown, inv.apart, inv.noted, inv.writing, inv.alone, inv.complete,
    inv.installed, inv.latest, ?_⟩
  intro covered marked
  cases marked
  exact ⟨Nat.le_refl _, fun _ => .inl rfl⟩

theorem storeInv_begun (inv : StoreInv encode earlier store) {save : Nat}
    (unused : store.saves.lookup save = none) (pending : Bool) :
    StoreInv encode earlier
      { store with pending := pending, saves := store.saves.insert save .begun } := by
  have kept : ∀ other stage, stage ≠ .begun →
      (store.saves.insert save .begun).lookup other = some stage →
      store.saves.lookup other = some stage := by
    intro other stage notBegun running
    rcases lookup_insert_eq_some running with ⟨_, same⟩ | ⟨_, before⟩
    · exact absurd same notBegun
    · exact before
  have carried : ∀ other stage, store.saves.lookup other = some stage →
      (store.saves.insert save .begun).lookup other = some stage := by
    intro other stage running
    exact lookup_insert_of_other running (by simp [unused]) _
  refine ⟨inv.pathKnown, inv.tmpKnown, inv.apart, ?_, ?_, ?_, inv.complete, ?_, ?_, ?_⟩
  · intro other number snapshot running
    exact inv.noted other number snapshot (kept other _ (by simp) running)
  · intro other number snapshot inode offset running
    exact inv.writing other number snapshot inode offset (kept other _ (by simp) running)
  · intro first second number snapshot inode offset number' snapshot' inode' offset' one two
    exact inv.alone first second number snapshot inode offset number' snapshot' inode' offset'
      (kept first _ (by simp) one) (kept second _ (by simp) two)
  · intro quiet number opened
    refine inv.installed ?_ number opened
    intro other number snapshot inode offset running
    exact quiet other number snapshot inode offset (carried other _ running)
  · intro number length
    rcases inv.latest number length with opened | ⟨other, snapshot, running⟩
    · exact .inl opened
    · exact .inr ⟨other, snapshot, carried other _ running⟩
  · intro covered marked
    refine ⟨(inv.dirty covered marked).1, fun _ => .inr ⟨save, ?_⟩⟩
    rw [lookup_insert_cases, if_pos rfl]

theorem storeInv_collect (inv : StoreInv encode earlier store) (save : Nat) :
    StoreInv encode earlier (store.collect save) := by
  unfold StateStore.collect
  split
  · next begun =>
    have kept : ∀ (number : Nat) (snapshot : Snapshot), store.collected[number]? = some snapshot →
        (store.collected ++ [store.current])[number]? = some snapshot := by
      intro number snapshot stored
      have known := (List.getElem?_eq_some_iff.mp stored).1
      rw [List.getElem?_append_left known]
      exact stored
    refine ⟨inv.pathKnown, inv.tmpKnown, inv.apart, ?_, ?_, ?_, ?_, ?_, ?_, ?_⟩
    · intro other number snapshot running
      rcases lookup_insert_eq_some running with ⟨_, same⟩ | ⟨_, running⟩
      · cases same
        exact List.getElem?_concat_length
      · exact kept number snapshot (inv.noted other number snapshot running)
    · intro other number snapshot inode offset running
      rcases lookup_insert_eq_some running with ⟨_, same⟩ | ⟨_, running⟩
      · cases same
      · rcases inv.writing other number snapshot inode offset running with
          ⟨named, bytes, within, opened, stored⟩
        exact ⟨named, bytes, within, opened, kept number snapshot stored⟩
    · intro first second number snapshot inode offset number' snapshot' inode' offset' one two
      rcases lookup_insert_eq_some one with ⟨_, same⟩ | ⟨_, one⟩
      · cases same
      · rcases lookup_insert_eq_some two with ⟨_, same⟩ | ⟨_, two⟩
        · cases same
        · exact inv.alone first second _ _ _ _ _ _ _ _ one two
    · intro bytes saved
      rcases inv.complete bytes saved with ⟨snapshot, known, same⟩
      refine ⟨snapshot, ?_, same⟩
      rcases known with before | listed
      · exact .inl before
      · exact .inr (List.mem_append_left _ listed)
    · intro quiet number opened
      have before : NobodyWrites store := by
        intro other number snapshot inode offset running
        exact quiet other number snapshot inode offset (lookup_insert_of_other running (by simp [begun]) _)
      rcases inv.installed before number opened with ⟨snapshot, stored, saved⟩
      exact ⟨snapshot, kept number snapshot stored, saved⟩
    · intro number length
      have last : store.collected.length = number := by
        simpa using length
      refine .inr ⟨save, store.current, ?_⟩
      rw [lookup_insert_cases, if_pos rfl, last]
    · intro covered marked
      have bound := (inv.dirty covered marked).1
      simp only [List.length_append, List.length_singleton]
      exact ⟨by omega, fun same => by omega⟩
  · exact inv

theorem storeInv_openTmp (inv : StoreInv encode earlier store) {save : Nat}
    (ordered : OpensInOrder store (.openTmp save)) :
    StoreInv encode earlier (store.openTmp save) := by
  unfold StateStore.openTmp
  split
  · next number snapshot collected =>
    rcases ordered save number snapshot rfl collected with ⟨inOrder, quiet⟩
    rcases StateFiles.openTmp_spec inv.tmpKnown inv.pathKnown inv.apart with
      ⟨named, known, empty, path, notPath, pathKnown, saved⟩
    have stored := inv.noted save number snapshot collected
    refine ⟨?_, ?_, ?_, ?_, ?_, ?_, ?_, ?_, ?_, ?_⟩
    · intro inode target
      exact pathKnown inode (path ▸ target)
    · intro inode target
      rw [named] at target
      cases target
      exact known
    · intro inode target same
      rw [named] at same
      cases same
      exact notPath (path ▸ target)
    · intro other later written running
      rcases lookup_insert_eq_some running with ⟨_, same⟩ | ⟨_, running⟩
      · cases same
      · exact inv.noted other later written running
    · intro other later written inode offset running
      rcases lookup_insert_eq_some running with ⟨_, same⟩ | ⟨_, running⟩
      · cases same
        exact ⟨named, empty, Nat.zero_le _, rfl, stored⟩
      · exact absurd running (quiet other later written inode offset)
    · intro first second later written inode offset later' written' inode' offset' one two
      rcases lookup_insert_eq_some one with ⟨isFirst, _⟩ | ⟨_, one⟩
      · rcases lookup_insert_eq_some two with ⟨isSecond, _⟩ | ⟨_, two⟩
        · rw [isFirst, isSecond]
        · exact absurd two (quiet second later' written' inode' offset')
      · exact absurd one (quiet first later written inode offset)
    · intro bytes target
      exact inv.complete bytes (saved ▸ target)
    · intro nobody
      refine absurd ?_ (nobody save number snapshot store.files.openTmp.1 0)
      rw [lookup_insert_cases, if_pos rfl]
    · intro last length
      have inside := (List.getElem?_eq_some_iff.mp stored).1
      change store.collected.length = last + 1 at length
      rcases inv.latest last length with opened | ⟨other, written, running⟩
      · omega
      · by_cases same : other = save
        · rw [same, collected] at running
          cases running
          exact .inl rfl
        · refine .inr ⟨other, written, ?_⟩
          rw [lookup_insert_cases, if_neg same]
          exact running
    · intro covered marked
      rcases inv.dirty covered marked with ⟨bound, saving⟩
      refine ⟨bound, fun all => ?_⟩
      rcases saving all with pending | ⟨other, running⟩
      · exact .inl pending
      · exact .inr ⟨other, lookup_insert_of_other running (by simp [collected]) _⟩
  · exact inv

theorem storeInv_write (inv : StoreInv encode earlier store) (save count : Nat) :
    StoreInv encode earlier (store.write encode save count) := by
  unfold StateStore.write
  split
  · next number snapshot inode offset running =>
    rcases inv.writing save number snapshot inode offset running with
      ⟨named, bytes, within, opened, stored⟩
    have known := inv.tmpKnown inode named
    have notPath : store.files.path ≠ some inode := fun same => inv.apart inode same named
    have saved : (store.files.write inode offset
        (((encode snapshot).drop offset).take count)).saved = store.files.saved := by
      unfold StateFiles.saved
      cases target : store.files.path with
      | none => simp [StateFiles.write, target]
      | some other =>
          have distinct : other ≠ inode := fun same => notPath (same ▸ target)
          simp only [StateFiles.write, target, Option.map_some]
          exact congrArg some (StateFiles.content_set_other store.files distinct _)
    refine ⟨?_, ?_, inv.apart, ?_, ?_, ?_, ?_, ?_, ?_, ?_⟩
    · intro target same
      simpa [StateFiles.write] using inv.pathKnown target same
    · intro target same
      simpa [StateFiles.write] using inv.tmpKnown target same
    · intro other later written after
      rcases lookup_insert_eq_some after with ⟨_, same⟩ | ⟨_, before⟩
      · cases same
      · exact inv.noted other later written before
    · intro other later written target place after
      rcases lookup_insert_eq_some after with ⟨_, same⟩ | ⟨distinct, before⟩
      · cases same
        refine ⟨named, ?_, ?_, opened, stored⟩
        · change StateFiles.content (store.files.write inode offset _) inode = _
          rw [StateFiles.write, StateFiles.content_set_self known, bytes,
            StateFiles.writeAt_take within]
        · simp only [List.length_take, List.length_drop]
          omega
      · exact absurd (inv.alone other save _ _ _ _ _ _ _ _ before running) distinct
    · intro first second later written target place later' written' target' place' one two
      rcases lookup_insert_eq_some one with ⟨isFirst, _⟩ | ⟨distinct, one⟩
      · rcases lookup_insert_eq_some two with ⟨isSecond, _⟩ | ⟨distinct, two⟩
        · rw [isFirst, isSecond]
        · exact absurd (inv.alone second save _ _ _ _ _ _ _ _ two running) distinct
      · exact absurd (inv.alone first save _ _ _ _ _ _ _ _ one running) distinct
    · intro content target
      exact inv.complete content (saved ▸ target)
    · intro nobody
      refine absurd ?_ (nobody save number snapshot inode
        (offset + (((encode snapshot).drop offset).take count).length))
      rw [lookup_insert_cases, if_pos rfl]
    · intro last length
      rcases inv.latest last length with same | ⟨other, written, before⟩
      · exact .inl same
      · exact .inr ⟨other, written, lookup_insert_of_other before (by simp [running]) _⟩
    · intro covered marked
      rcases inv.dirty covered marked with ⟨bound, saving⟩
      refine ⟨bound, fun all => ?_⟩
      rcases saving all with pending | ⟨other, before⟩
      · exact .inl pending
      · exact .inr ⟨other, lookup_insert_of_other before (by simp [running]) _⟩
  · exact inv

theorem storeInv_rename (inv : StoreInv encode earlier store) (save : Nat) :
    StoreInv encode earlier (store.rename encode save) := by
  unfold StateStore.rename
  split
  · next number snapshot inode offset running =>
    split
    · next whole =>
      rcases inv.writing save number snapshot inode offset running with
        ⟨named, bytes, _, opened, stored⟩
      rw [whole, List.take_length] at bytes
      have renamed : store.files.rename = { store.files with tmp := none, path := some inode } := by
        unfold StateFiles.rename
        rw [named]
      have nobody : ∀ other later written target place,
          (store.saves.erase save).lookup other ≠ some (.writing later written target place) := by
        intro other later written target place after
        rcases lookup_erase_eq_some after with ⟨distinct, before⟩
        exact distinct (inv.alone other save _ _ _ _ _ _ _ _ before running)
      rw [renamed]
      refine ⟨?_, ?_, ?_, ?_, ?_, ?_, ?_, ?_, ?_, ?_⟩
      · intro target same
        cases same
        exact inv.tmpKnown inode named
      · intro target same
        cases same
      · intro target _ same
        cases same
      · intro other later written after
        exact inv.noted other later written (lookup_erase_eq_some after).2
      · intro other later written target place after
        exact absurd after (nobody other later written target place)
      · intro first second later written target place _ _ _ _ one _
        exact absurd one (nobody first later written target place)
      · intro content target
        have same : content = encode snapshot := (Option.some.inj target).symm.trans bytes
        exact ⟨snapshot, .inr (List.mem_of_getElem? stored), same⟩
      · intro _ last same
        change store.opened = last + 1 at same
        have numbers : number = last := by omega
        subst numbers
        exact ⟨snapshot, stored, congrArg some bytes⟩
      · intro last length
        rcases inv.latest last length with same | ⟨other, written, before⟩
        · exact .inl same
        · exact .inr ⟨other, written, lookup_erase_of_other before (by simp [running])⟩
      · intro covered marked
        rcases inv.dirty covered marked with ⟨bound, saving⟩
        refine ⟨bound, fun all => ?_⟩
        rcases saving all with pending | ⟨other, before⟩
        · exact .inl pending
        · exact .inr ⟨other, lookup_erase_of_other before (by simp [running])⟩
    · exact inv
  · exact inv

theorem storeInv_step (inv : StoreInv encode earlier store) {event : StoreEvent Snapshot}
    (ordered : OpensInOrder store event) :
    StoreInv encode earlier (storeStep encode store event) := by
  cases event with
  | change next => exact storeInv_change encode inv next
  | markDirty => exact storeInv_markDirty encode inv
  | timer save =>
      simp only [storeStep, StateStore.fire]
      split
      · next armed => exact storeInv_begun encode inv armed.2 false
      · exact inv
  | saveNow save =>
      simp only [storeStep, StateStore.launch]
      split
      · next unused => exact storeInv_begun encode inv unused store.pending
      · exact inv
  | collect save => exact storeInv_collect encode inv save
  | openTmp save => exact storeInv_openTmp encode inv ordered
  | write save count => exact storeInv_write encode inv save count
  | rename save => exact storeInv_rename encode inv save

end Preservation

/-- In every run in which saves open the temporary file in order, the promise holds in every
state reached. -/
theorem saves_in_order_sound (current : Snapshot) (earlier : Option Snapshot)
    (leftover : Option (List UInt8)) (events : List (StoreEvent Snapshot))
    (ordered : Throughout (storeStep encode) OpensInOrder
      (newStateStore encode current earlier leftover) events) :
    Sound encode earlier
      (run (storeStep encode) (newStateStore encode current earlier leftover) events) := by
  have inv : StoreInv encode earlier
      (run (storeStep encode) (newStateStore encode current earlier leftover) events) := by
    apply run_invariant (storeStep encode) (StoreInv encode earlier) OpensInOrder
    · intro store event allowed held
      exact storeInv_step encode held allowed
    · exact storeInv_new encode current earlier leftover
    · exact ordered
  exact inv.sound encode

end Steps

/-! ### Runs of a store whose snapshots are single bytes -/

def Saving.isWriting {Snapshot : Type} : Saving Snapshot → Bool
  | .writing _ _ _ _ => true
  | _ => false

def opensInOrder (store : StateStore UInt8) : StoreEvent UInt8 → Bool
  | .openTmp save =>
      match store.saves.lookup save with
      | some (.collected number _) =>
          store.opened ≤ number && (values store.saves).all (fun stage => !stage.isWriting)
      | _ => true
  | _ => true

theorem opensInOrder_sound (store : StateStore UInt8) (event : StoreEvent UInt8)
    (passes : opensInOrder store event = true) : OpensInOrder store event := by
  rintro save number snapshot rfl collected
  simp only [opensInOrder, collected, Bool.and_eq_true, decide_eq_true_eq, List.all_eq_true] at passes
  refine ⟨passes.1, ?_⟩
  intro other later written inode offset running
  have clear := passes.2 _ ((mem_values_iff _ _).mpr ⟨other, running⟩)
  cases clear

def singleByte (byte : UInt8) : List UInt8 := [byte]

def freshStore : StateStore UInt8 := newStateStore singleByte 0 none none

/-- The second save collects while the first one is writing, and opens the file after it. -/
def orderedSaves : List (StoreEvent UInt8) :=
  [.change 1, .markDirty, .timer 0, .collect 0, .openTmp 0, .change 2, .markDirty, .write 0 1,
    .timer 1, .collect 1, .rename 0, .openTmp 1, .write 1 1, .rename 1]

theorem saves_in_order_sound_twice :
    (run (storeStep singleByte) freshStore orderedSaves).files.saved = some [2] ∧
      Sound singleByte none (run (storeStep singleByte) freshStore orderedSaves) :=
  ⟨by decide +kernel,
    saves_in_order_sound singleByte 0 none none orderedSaves
      (throughout_of_check (storeStep singleByte) opensInOrder_sound (by decide +kernel))⟩

/-- A save collects 1 and is slow; the next one collects 2 and overtakes it. -/
def overtakenSave : List (StoreEvent UInt8) :=
  [.change 1, .markDirty, .timer 0, .collect 0, .change 2, .markDirty, .timer 1, .collect 1,
    .openTmp 1, .write 1 1, .rename 1, .openTmp 0, .write 0 1, .rename 0]

/-- A save has written its data; the next one truncates the file before it is renamed. -/
def truncatedSave : List (StoreEvent UInt8) :=
  [.change 1, .markDirty, .timer 0, .collect 0, .openTmp 0, .write 0 1, .change 2, .markDirty,
    .timer 1, .collect 1, .openTmp 1, .rename 0]

theorem idle_of_entries_nil {store : StateStore UInt8} (none : store.saves.entries = []) (save : Nat) :
    store.saves.lookup save = Option.none := by
  cases found : store.saves.lookup save with
  | none => rfl
  | some stage =>
      have listed := AList.mem_lookup_iff.mp found
      rw [none] at listed
      cases listed

/-- Overlapping saves lose the newer snapshot in one run, and leave an empty file in another. -/
theorem overlapping_saves_unsound :
    ¬ Sound singleByte none (run (storeStep singleByte) freshStore overtakenSave) ∧
      ¬ Sound singleByte none (run (storeStep singleByte) freshStore truncatedSave) := by
  constructor
  · intro sound
    have quiet : Quiet (run (storeStep singleByte) freshStore overtakenSave) :=
      ⟨by decide +kernel, idle_of_entries_nil (by decide +kernel)⟩
    have collected : (run (storeStep singleByte) freshStore overtakenSave).collected = [1, 2] := by
      decide +kernel
    have saved : (run (storeStep singleByte) freshStore overtakenSave).files.saved = some [1] := by
      decide +kernel
    have marked : (run (storeStep singleByte) freshStore overtakenSave).covered = some 1 := by
      decide +kernel
    rcases sound.fresh quiet 1 marked with ⟨number, snapshot, since, stored, current⟩
    rw [collected] at stored
    rw [saved] at current
    have only : snapshot = 1 := by
      have bytes := Option.some.inj current
      exact (List.cons.inj bytes).1.symm
    subst only
    match number, since, stored with
    | 1, _, stored => cases stored
    | later + 2, _, stored => cases stored
  · intro sound
    have saved : (run (storeStep singleByte) freshStore truncatedSave).files.saved = some [] := by
      decide +kernel
    rcases sound.complete [] saved with ⟨snapshot, _, same⟩
    cases same

end BridgeDhcp.Server
