/-
Starting the daemon, and checking its configuration.

`runDaemon` reads the file, resolves the key and builds the settings.  With `--check` it
stops there; otherwise it goes on to make the manager, which completes the settings, to
install the static bindings of the file and to restore the saved state.  What comes after
(the control socket, the goroutines) is left out.
-/

import BridgeDhcp.Config.File
import BridgeDhcp.Server.Manager

set_option autoImplicit false

namespace BridgeDhcp.Config

open GoMap GoError GoText GoTime Server

/-! ### The file -/

/-- The functions of other packages that are called before the daemon serves. -/
structure Host where
  parsing : Parsing
  readFile : String → Except String String
  /-- `json.Decoder.Decode` without unknown fields. -/
  decode : String → Except String File

def Host.load (host : Host) (path : String) : Except String File := do
  let data ← host.readFile path
  let file ← within path (host.decode data)
  if file.apiSocket = "" then .error s!"{path}: api_socket is required"
  else if file.interfaces = [] then .error s!"{path}: no interfaces configured"
  else .ok file

def File.resolveAPIKey (host : Host) (file : File) : Except String String :=
  if file.apiKey ≠ "" then .ok file.apiKey
  else if file.apiKeyFile ≠ "" then do
    let data ← host.readFile file.apiKeyFile
    .ok (trimSpace data)
  else .error "api_key or api_key_file is required"

/-! ### Static bindings of the file -/

abbrev Baseline := List StaticBinding × List StaticBinding

def Baseline.of (baseline : Baseline) : Family → List StaticBinding
  | .four => baseline.1
  | .six => baseline.2

def Iface.baseline (ic : Iface) : Baseline := (ic.statics4, ic.statics6)

def Iface.Given (ic : Iface) : Prop := ic.statics4 ≠ [] ∨ ic.statics6 ≠ []

instance decidableGiven (ic : Iface) : Decidable ic.Given :=
  inferInstanceAs (Decidable (ic.statics4 ≠ [] ∨ ic.statics6 ≠ []))

def noteStatics (out : Map String Baseline) (ic : Iface) : Map String Baseline :=
  if ic.Given then out.insert ic.name ic.baseline else out

def File.initialStatics (file : File) : Map String Baseline :=
  file.interfaces.foldl noteStatics ∅

def number : Family → Int
  | .four => 4
  | .six => 6

def installFamily (manager : Manager) (name : String) (family : Family)
    (bindings : List StaticBinding) : Except String Manager :=
  let digit := number family
  if bindings = [] then .ok manager
  else within s!"statics{digit} {name}" (manager.replaceStatics name digit bindings)

def installStatics (manager : Manager) :
    List (String × Baseline) → Except String Manager
  | [] => .ok manager
  | (name, baseline) :: rest => do
      let after4 ← installFamily manager name .four (baseline.of .four)
      let after6 ← installFamily after4 name .six (baseline.of .six)
      installStatics after6 rest

/-! ### The daemon -/

inductive Exit where
  | usage
  | config (reason : String)
  | configOk
  | init (reason : String)
  | statics (reason : String)
  | serving (manager : Manager)

/-- What the start depends on besides the configuration: the netlink subscription, the clock,
what the state file decodes to, none if it is absent or not valid, and iteration orders. -/
structure Boot where
  subscribed : Except String Unit
  now : Instant
  disk : Option (Map String PersistedIface)
  installing : RangeOrder (String × Baseline)
  restoring : RangeOrder (String × Served)

/-- `stateStore.load`; without a path there is no state. -/
def loadState (path : String) (disk : Option (Map String PersistedIface)) :
    Map String PersistedIface :=
  if path = "" then ∅ else disk.getD ∅

/-- The part of `runDaemon` that `--check` leaves out. -/
def startDaemon (boot : Boot) (file : File) (cfgs : List IfaceConfig) : Exit :=
  match boot.subscribed with
  | .error reason => .init s!"netlink subscribe: {reason}"
  | .ok () =>
      match Manager.newManagerFrom boot.now ⟨∅, []⟩ cfgs with
      | .error reason => .init reason
      | .ok manager =>
          match installStatics manager
              (boot.installing.arrange (pairs file.initialStatics)) with
          | .error reason => .statics reason
          | .ok ready =>
              .serving (ready.start (loadState file.stateFile boot.disk) boot.restoring boot.now)

def runDaemon (host : Host) (boot : Boot) (path : String) (check : Bool) : Exit :=
  if path = "" then .usage
  else
    match host.load path with
    | .error reason => .config reason
    | .ok file =>
        match file.resolveAPIKey host with
        | .error reason => .config reason
        | .ok _ =>
            match file.buildIfaceConfigs host.parsing with
            | .error reason => .config reason
            | .ok cfgs => if check then .configOk else startDaemon boot file cfgs

/-! ### Installing static bindings -/

section Installing


theorem familyOf_number (family : Family) : Manager.familyOf (number family) = .ok family := by
  cases family <;> rfl

theorem replaceStatics_eq_ok_iff (manager after : Manager) (name : String) (family : Family)
    (bindings : List StaticBinding) :
    manager.replaceStatics name (number family) bindings = .ok after ↔
      ∃ it set, manager.ifaces.lookup name = some it ∧ buildStaticSet bindings = .ok set ∧
        after = (manager.put name
          (it.withServer family { it.server family with statics := set })).markDirty := by
  unfold Manager.replaceStatics
  rw [Manager.editStatics_eq_ok_iff, familyOf_number]
  constructor
  · rintro ⟨it, which, edited, found, chosen, done, rfl⟩
    cases chosen
    obtain ⟨set, built, rfl⟩ := AddressServer.replaceStatics_eq_ok_iff.mp done
    exact ⟨it, set, found, built, rfl⟩
  · rintro ⟨it, set, found, built, rfl⟩
    exact ⟨it, family, _, found, rfl, AddressServer.replaceStatics_eq_ok_iff.mpr ⟨set, built, rfl⟩,
      rfl⟩

theorem installFamily_eq_ok_iff (manager after : Manager) (name : String) (family : Family)
    (bindings : List StaticBinding) :
    installFamily manager name family bindings = .ok after ↔
      (bindings = [] ∧ after = manager) ∨
        (bindings ≠ [] ∧ ∃ it set, manager.ifaces.lookup name = some it ∧
          buildStaticSet bindings = .ok set ∧
          after = (manager.put name
            (it.withServer family { it.server family with statics := set })).markDirty) := by
  unfold installFamily
  dsimp only
  by_cases empty : bindings = []
  · simp [empty, eq_comm]
  · rw [if_neg empty]
    simp only [empty, false_and, ne_eq, not_false_eq_true, true_and, false_or]
    rw [← replaceStatics_eq_ok_iff]
    cases manager.replaceStatics name (number family) bindings with
    | error reason => simp [within]
    | ok result => rfl

structure InstalledAt (given : Family → List StaticBinding) (it after : Served) : Prop where
  pdc : after.pdc = it.pdc
  leases : ∀ family, (after.server family).leases = (it.server family).leases
  kept : ∀ family, given family = [] → (after.server family).statics = (it.server family).statics
  set : ∀ family, given family ≠ [] →
    buildStaticSet (given family) = .ok (after.server family).statics

def only (family : Family) (bindings : List StaticBinding) (other : Family) : List StaticBinding :=
  if other = family then bindings else []

theorem installFamily_spec {manager after : Manager} {name : String} {family : Family}
    {bindings : List StaticBinding}
    (installed : installFamily manager name family bindings = .ok after) :
    (∀ other, other ≠ name → after.ifaces.lookup other = manager.ifaces.lookup other) ∧
      ∀ it, manager.ifaces.lookup name = some it →
        ∃ later, after.ifaces.lookup name = some later ∧ InstalledAt (only family bindings) it later := by
  rcases (installFamily_eq_ok_iff _ _ _ _ _).mp installed with
    ⟨empty, rfl⟩ | ⟨given, old, set, found, built, rfl⟩
  · refine ⟨fun _ _ => rfl, fun it present => ⟨it, present, rfl, fun _ => rfl, fun _ _ => rfl, ?_⟩⟩
    intro other some
    unfold only at some
    rw [empty, ite_self] at some
    exact absurd rfl some
  · change (∀ other, other ≠ name → (manager.put name _).ifaces.lookup other = _) ∧
      ∀ it, _ → ∃ later, (manager.put name _).ifaces.lookup name = some later ∧ _
    constructor
    · intro other apart
      rw [Manager.lookup_put, if_neg apart]
    · intro it present
      cases found.symm.trans present
      rw [Manager.lookup_put, if_pos rfl]
      refine ⟨_, rfl, Served.pdc_withServer _ _ _, ?_, ?_, ?_⟩
      · intro other
        rw [Served.server_withServer]
        split
        · next same => rw [same]
        · rfl
      · intro other none
        rw [Served.server_withServer]
        split
        · next same =>
            unfold only at none
            rw [if_pos same] at none
            exact absurd none given
        · rfl
      · intro other some
        unfold only at some ⊢
        by_cases same : other = family
        · rw [if_pos same, Served.server_withServer, if_pos same]
          exact built
        · rw [if_neg same] at some
          exact absurd rfl some

theorem InstalledAt.trans {first second : Family → List StaticBinding} {it middle after : Served}
    (earlier : InstalledAt first it middle) (later : InstalledAt second middle after)
    (apart : ∀ family, first family = [] ∨ second family = []) :
    InstalledAt (fun family => first family ++ second family) it after where
  pdc := later.pdc.trans earlier.pdc
  leases family := (later.leases family).trans (earlier.leases family)
  kept family none := by
    obtain ⟨none1, none2⟩ := List.append_eq_nil_iff.mp none
    exact (later.kept family none2).trans (earlier.kept family none1)
  set family some := by
    rcases apart family with none | none
    · rw [none, List.nil_append] at some ⊢
      exact later.set family some
    · rw [none, List.append_nil] at some ⊢
      rw [later.kept family none]
      exact earlier.set family some

theorem only_append_only (baseline : Baseline) :
    (fun family => only .four (baseline.of .four) family ++ only .six (baseline.of .six) family) =
      baseline.of := by
  funext family
  cases family with
  | four => exact List.append_nil _
  | six => rfl

theorem installStatics_spec {items : List (String × Baseline)} {manager after : Manager}
    (distinct : (items.map Prod.fst).Nodup)
    (installed : installStatics manager items = .ok after) :
    (∀ other, (∀ item ∈ items, item.1 ≠ other) →
        after.ifaces.lookup other = manager.ifaces.lookup other) ∧
      ∀ item ∈ items, ∀ it, manager.ifaces.lookup item.1 = some it →
        ∃ later, after.ifaces.lookup item.1 = some later ∧ InstalledAt item.2.of it later := by
  induction items generalizing manager with
  | nil =>
      cases installed
      exact ⟨fun _ _ => rfl, fun _ absent => by cases absent⟩
  | cons first rest ih =>
      obtain ⟨name, baseline⟩ := first
      rw [List.map_cons, List.nodup_cons] at distinct
      obtain ⟨after4, done4, afterFour⟩ := bind_eq_ok installed
      obtain ⟨after6, done6, continued⟩ := bind_eq_ok afterFour
      obtain ⟨others4, here4⟩ := installFamily_spec done4
      obtain ⟨others6, here6⟩ := installFamily_spec done6
      obtain ⟨othersLater, hereLater⟩ := ih distinct.2 continued
      have untouched : ∀ item ∈ rest, item.1 ≠ name := by
        intro item member same
        exact distinct.1 (List.mem_map.mpr ⟨item, member, same⟩)
      constructor
      · intro other apart
        have notHere : other ≠ name := (apart _ List.mem_cons_self).symm
        rw [othersLater other (fun item member => apart item (List.mem_cons_of_mem _ member)),
          others6 other notHere, others4 other notHere]
      · intro item member it present
        rcases List.mem_cons.mp member with rfl | inside
        · obtain ⟨middle, found4, installed4⟩ := here4 it present
          obtain ⟨later, found6, installed6⟩ := here6 middle found4
          refine ⟨later, ?_, ?_⟩
          · rw [othersLater name untouched]
            exact found6
          · rw [← only_append_only]
            apply installed4.trans installed6
            intro family
            cases family with
            | four => exact Or.inr rfl
            | six => exact Or.inl rfl
        · have apart := untouched item inside
          apply hereLater item inside it
          rw [others6 item.1 apart, others4 item.1 apart]
          exact present

theorem installFamily_isOk_iff {manager : Manager} {name : String} {it : Served}
    (found : manager.ifaces.lookup name = some it) (family : Family)
    (bindings : List StaticBinding) :
    (∃ after, installFamily manager name family bindings = .ok after) ↔
      AcceptableSet bindings := by
  rw [← buildStaticSet_isOk_iff]
  constructor
  · rintro ⟨after, installed⟩
    rcases (installFamily_eq_ok_iff _ _ _ _ _).mp installed with
      ⟨rfl, _⟩ | ⟨_, _, set, _, built, _⟩
    · exact ⟨.empty, rfl⟩
    · exact ⟨set, built⟩
  · rintro ⟨set, built⟩
    by_cases empty : bindings = []
    · exact ⟨manager, (installFamily_eq_ok_iff _ _ _ _ _).mpr (Or.inl ⟨empty, rfl⟩)⟩
    · exact ⟨_, (installFamily_eq_ok_iff _ _ _ _ _).mpr
        (Or.inr ⟨empty, it, set, found, built, rfl⟩)⟩

theorem installStatics_isOk_iff (items : List (String × Baseline)) (manager : Manager)
    (known : ∀ item ∈ items, ∃ it, manager.ifaces.lookup item.1 = some it) :
    (∃ after, installStatics manager items = .ok after) ↔
      ∀ item ∈ items, ∀ family, AcceptableSet (item.2.of family) := by
  induction items generalizing manager with
  | nil => simp [installStatics]
  | cons first rest ih =>
      obtain ⟨name, baseline⟩ := first
      obtain ⟨it, found⟩ := known _ List.mem_cons_self
      -- an interface that is there stays there
      have stays : ∀ {current after : Manager} {family : Family} {bindings : List StaticBinding},
          installFamily current name family bindings = .ok after →
          ∀ other, (∃ it, current.ifaces.lookup other = some it) →
            ∃ it, after.ifaces.lookup other = some it := by
        rintro current after family bindings installed other ⟨old, present⟩
        obtain ⟨elsewhere, here⟩ := installFamily_spec installed
        by_cases same : other = name
        · rw [same] at present ⊢
          obtain ⟨later, foundLater, _⟩ := here old present
          exact ⟨later, foundLater⟩
        · exact ⟨old, (elsewhere other same).trans present⟩
      rw [List.forall_mem_cons]
      constructor
      · rintro ⟨after, installed⟩
        obtain ⟨after4, done4, afterFour⟩ := bind_eq_ok installed
        obtain ⟨after6, done6, continued⟩ := bind_eq_ok afterFour
        obtain ⟨middle, foundMiddle⟩ := stays done4 name ⟨it, found⟩
        have later := (ih after6 (fun item member =>
          stays done6 _ (stays done4 _ (known item (List.mem_cons_of_mem _ member))))).mp
          ⟨after, continued⟩
        refine ⟨?_, later⟩
        intro family
        cases family with
        | four => exact (installFamily_isOk_iff found .four _).mp ⟨after4, done4⟩
        | six => exact (installFamily_isOk_iff foundMiddle .six _).mp ⟨after6, done6⟩
      · rintro ⟨here, later⟩
        obtain ⟨after4, done4⟩ := (installFamily_isOk_iff found .four _).mpr (here .four)
        obtain ⟨middle, foundMiddle⟩ := stays done4 name ⟨it, found⟩
        obtain ⟨after6, done6⟩ := (installFamily_isOk_iff foundMiddle .six _).mpr (here .six)
        obtain ⟨after, continued⟩ := (ih after6 (fun item member =>
          stays done6 _ (stays done4 _ (known item (List.mem_cons_of_mem _ member))))).mpr later
        refine ⟨after, ?_⟩
        unfold installStatics
        rw [done4]
        change (installFamily after4 name .six (baseline.of .six) >>= _) = _
        rw [done6]
        exact continued

end Installing

/-! ### The bindings that are installed -/

theorem lookup_foldl_noteStatics {ifaces : List Iface} (distinct : (ifaces.map Iface.name).Nodup)
    (out : Map String Baseline) (name : String) (baseline : Baseline) :
    (ifaces.foldl noteStatics out).lookup name = some baseline ↔
      (∃ ic ∈ ifaces, ic.name = name ∧ ic.Given ∧ ic.baseline = baseline) ∨
        ((∀ ic ∈ ifaces, ic.name = name → ¬ ic.Given) ∧ out.lookup name = some baseline) := by
  induction ifaces generalizing out with
  | nil => simp
  | cons first rest ih =>
      rw [List.map_cons, List.nodup_cons] at distinct
      rw [List.foldl_cons, ih distinct.2]
      have noted : (noteStatics out first).lookup name = some baseline ↔
          (first.name = name ∧ first.Given ∧ first.baseline = baseline) ∨
            (¬ (first.name = name ∧ first.Given) ∧ out.lookup name = some baseline) := by
        unfold noteStatics
        by_cases given : first.Given
        · rw [if_pos given, lookup_insert_cases]
          by_cases same : name = first.name
          · simp [same, given]
          · simp [same, Ne.symm same]
        · rw [if_neg given]
          simp [given]
      have apart : ∀ ic ∈ rest, ic.name ≠ first.name := by
        intro ic member same
        exact distinct.1 (List.mem_map.mpr ⟨ic, member, same⟩)
      rw [noted]
      constructor
      · rintro (⟨ic, member, found⟩ | ⟨none, here | ⟨notHere, before⟩⟩)
        · exact Or.inl ⟨ic, List.mem_cons_of_mem first member, found⟩
        · exact Or.inl ⟨first, List.mem_cons_self, here⟩
        · refine Or.inr ⟨?_, before⟩
          intro ic member same given
          rcases List.mem_cons.mp member with rfl | inside
          · exact notHere ⟨same, given⟩
          · exact none ic inside same given
      · rintro (⟨ic, member, same, found⟩ | ⟨none, before⟩)
        · rcases List.mem_cons.mp member with rfl | inside
          · refine Or.inr ⟨?_, Or.inl ⟨same, found⟩⟩
            intro other member equal
            exact absurd (equal.trans same.symm) (apart other member)
          · exact Or.inl ⟨ic, inside, same, found⟩
        · refine Or.inr ⟨fun ic member => none ic (List.mem_cons_of_mem first member), Or.inr ⟨?_, before⟩⟩
          rintro ⟨same, given⟩
          exact none first List.mem_cons_self same given

theorem mem_initialStatics_iff {file : File} (distinct : (file.interfaces.map Iface.name).Nodup)
    (name : String) (baseline : Baseline) :
    (name, baseline) ∈ pairs file.initialStatics ↔
      ∃ ic ∈ file.interfaces, ic.name = name ∧ ic.Given ∧ ic.baseline = baseline := by
  rw [mem_pairs_iff]
  unfold File.initialStatics
  rw [lookup_foldl_noteStatics distinct, AList.lookup_empty]
  simp

/-! ### Checking and starting -/

/-- What a file that `--check` accepts still has to satisfy. -/
structure File.Startable (file : File) : Prop where
  completable : ∀ ic ∈ file.interfaces, ic.Completable
  distinct : (file.interfaces.map Iface.name).Nodup
  statics : ∀ ic ∈ file.interfaces, ∀ family, AcceptableSet (ic.baseline.of family)

theorem acceptable_iff {file : File} (distinct : (file.interfaces.map Iface.name).Nodup)
    (order : RangeOrder (String × Baseline)) :
    (∀ item ∈ order.arrange (pairs file.initialStatics), ∀ family,
        AcceptableSet (item.2.of family)) ↔
      ∀ ic ∈ file.interfaces, ∀ family, AcceptableSet (ic.baseline.of family) := by
  constructor
  · intro installed ic member family
    by_cases given : ic.Given
    · apply installed (ic.name, ic.baseline)
      exact order.mem_arrange.mpr
        ((mem_initialStatics_iff distinct _ _).mpr ⟨ic, member, rfl, given, rfl⟩)
    · obtain ⟨none4, none6⟩ := not_or.mp given
      have none : ic.baseline.of family = [] := by
        cases family with
        | four => exact not_not.mp none4
        | six => exact not_not.mp none6
      rw [none]
      exact ⟨by simp, List.nodup_nil⟩
  · rintro accepted ⟨name, baseline⟩ listed family
    obtain ⟨ic, member, _, _, rfl⟩ :=
      (mem_initialStatics_iff distinct _ _).mp (order.mem_arrange.mp listed)
    exact accepted ic member family

theorem startDaemon_eq_serving_iff (boot : Boot) (file : File)
    (cfgs : List IfaceConfig) (manager : Manager) :
    startDaemon boot file cfgs = .serving manager ↔
      boot.subscribed = .ok () ∧ ∃ created ready,
        Manager.newManagerFrom boot.now ⟨∅, []⟩ cfgs = .ok created ∧
        installStatics created
          (boot.installing.arrange (pairs file.initialStatics)) = .ok ready ∧
        manager = ready.start (loadState file.stateFile boot.disk) boot.restoring boot.now := by
  unfold startDaemon
  cases boot.subscribed with
  | error reason => simp
  | ok _ =>
      dsimp only
      cases Manager.newManagerFrom boot.now ⟨∅, []⟩ cfgs with
      | error reason => simp
      | ok created =>
          dsimp only
          cases installed : installStatics created
              (boot.installing.arrange (pairs file.initialStatics)) with
          | error reason => simp [installed]
          | ok ready => simp [installed, eq_comm]

theorem known_of_newManagerFrom {host : Host} {boot : Boot} {file : File} {cfgs : List IfaceConfig}
    (built : file.buildIfaceConfigs host.parsing = .ok cfgs) {manager : Manager}
    (distinct : (file.interfaces.map Iface.name).Nodup)
    (made : Manager.newManagerFrom boot.now ⟨∅, []⟩ cfgs = .ok manager) :
    ∀ item ∈ boot.installing.arrange (pairs file.initialStatics),
      ∃ it, manager.ifaces.lookup item.1 = some it := by
  rintro ⟨name, baseline⟩ listed
  obtain ⟨ic, member, same, _⟩ :=
    (mem_initialStatics_iff distinct _ _).mp (boot.installing.mem_arrange.mp listed)
  apply Manager.exists_lookup_newManagerFrom made
  rw [(buildAll_completable_iff built).1]
  exact List.mem_map.mpr ⟨ic, member, same⟩

theorem startDaemon_serving_iff (host : Host) (boot : Boot) (subscribed : boot.subscribed = .ok ())
    {file : File} {cfgs : List IfaceConfig}
    (built : file.buildIfaceConfigs host.parsing = .ok cfgs) :
    (∃ manager, startDaemon boot file cfgs = .serving manager) ↔
      file.Startable := by
  obtain ⟨names, completable⟩ := buildAll_completable_iff built
  simp only [startDaemon_eq_serving_iff]
  constructor
  · rintro ⟨manager, _, created, ready, made, installed, _⟩
    obtain ⟨each, distinct⟩ := (Manager.newManagerFrom_isOk_iff cfgs _).mp ⟨created, made⟩
    rw [names] at distinct
    have accepted := (installStatics_isOk_iff _ created
      (known_of_newManagerFrom built distinct made)).mp ⟨ready, installed⟩
    exact ⟨completable.mp (fun cfg member => (each cfg member).1), distinct,
      (acceptable_iff distinct boot.installing).mp accepted⟩
  · intro startable
    have distinct := startable.distinct
    have each := completable.mpr startable.completable
    obtain ⟨created, made⟩ :=
      (@Manager.newManagerFrom_isOk_iff boot.now cfgs ⟨∅, []⟩).mpr
        ⟨fun cfg member => ⟨each cfg member, AList.lookup_empty _⟩, by rw [names]; exact distinct⟩
    obtain ⟨ready, installed⟩ :=
      (installStatics_isOk_iff _ created (known_of_newManagerFrom built distinct made)).mpr
        ((acceptable_iff distinct boot.installing).mpr startable.statics)
    exact ⟨_, subscribed, created, ready, made, installed, rfl⟩

theorem runDaemon_cases (host : Host) (path : String) :
    (∀ boot check, runDaemon host boot path check = .usage ∨
        ∃ reason, runDaemon host boot path check = .config reason) ∨
      ∃ file cfgs, host.load path = .ok file ∧ file.buildIfaceConfigs host.parsing = .ok cfgs ∧
        ∀ boot check, runDaemon host boot path check =
          if check then .configOk else startDaemon boot file cfgs := by
  unfold runDaemon
  by_cases given : path = ""
  · exact Or.inl (fun _ _ => Or.inl (if_pos given))
  simp only [if_neg given]
  cases host.load path with
  | error reason => exact Or.inl (fun _ _ => Or.inr ⟨reason, rfl⟩)
  | ok file =>
      dsimp only
      cases file.resolveAPIKey host with
      | error reason => exact Or.inl (fun _ _ => Or.inr ⟨reason, rfl⟩)
      | ok key =>
          dsimp only
          cases built : file.buildIfaceConfigs host.parsing with
          | error reason => exact Or.inl (fun _ _ => Or.inr ⟨reason, rfl⟩)
          | ok cfgs => exact Or.inr ⟨file, cfgs, rfl, built, fun _ _ => rfl⟩

/-- A file that `--check` accepts passes the validation at start-up exactly if it is startable. -/
theorem checked_file_starts_iff (host : Host) (boot : Boot) (path : String) (file : File)
    (checked : runDaemon host boot path true = .configOk) (loaded : host.load path = .ok file) :
    (∃ manager, runDaemon host { boot with subscribed := .ok () } path false = .serving manager) ↔
      file.Startable := by
  rcases runDaemon_cases host path with refused | ⟨same, cfgs, sameLoaded, built, continues⟩
  · rcases refused boot true with usage | ⟨reason, config⟩
    · cases usage.symm.trans checked
    · cases config.symm.trans checked
  · cases loaded.symm.trans sameLoaded
    simp only [continues]
    exact startDaemon_serving_iff host { boot with subscribed := .ok () } rfl built

/-! ### Sample files -/

def hostWith (file : File) : Host where
  parsing := sampleParsing
  readFile := fun _ => .ok ""
  decode := fun _ => .ok file

def freshBoot : Boot where
  subscribed := .ok ()
  now := 0
  disk := none
  installing := .stored
  restoring := .stored

def fileWith (interfaces : List Iface) : File where
  apiSocket := "/run/bridgedhcp.sock"
  apiKey := "key"
  stateFile := "/var/lib/bridgedhcp.json"
  interfaces := interfaces

def printer : StaticBinding where
  id := "printer"
  order := 0
  mac := some "02:00:00:00:00:05"
  clientID := none
  offset := 5

def bridge (name : String) : Iface :=
  { sampleFileIface name 64 0 with pd := none, statics4 := [printer] }

def Exit.isConfigOk : Exit → Bool
  | .configOk => true
  | _ => false

def Exit.isServing : Exit → Bool
  | .serving _ => true
  | _ => false

theorem Exit.eq_configOk {exit : Exit} (passes : exit.isConfigOk = true) : exit = .configOk := by
  cases exit with
  | configOk => rfl
  | _ => cases passes

theorem startable_bridge : (fileWith [bridge "br0"]).Startable where
  completable := by
    intro ic member
    rw [List.mem_singleton.mp member]
    refine ⟨by decide, ?_, ?_, ?_⟩ <;> intro given absent <;> cases absent
  distinct := by decide
  statics := by
    intro ic member family
    rw [List.mem_singleton.mp member]
    cases family with
    | four =>
        refine ⟨?_, by decide⟩
        intro binding listed
        rw [List.mem_singleton.mp listed]
        exact ⟨by decide, by decide, by decide⟩
    | six => exact ⟨by simp [bridge, Iface.baseline, Baseline.of, sampleFileIface], by decide⟩

theorem checked_file_starts_bridge :
    ∃ manager, runDaemon (hostWith (fileWith [bridge "br0"])) freshBoot "config.json" false =
      .serving manager :=
  (checked_file_starts_iff (hostWith (fileWith [bridge "br0"])) freshBoot "config.json"
    (fileWith [bridge "br0"]) (Exit.eq_configOk (by decide +kernel)) (by decide +kernel)).mpr
    startable_bridge

/-- Two interfaces of one name, an interface without a name, a pool that begins at offset zero, a
delegation without an uplink and a static binding without a condition. -/
def unstartableFiles : List File :=
  [fileWith [bridge "br0", bridge "br0"],
    fileWith [bridge ""],
    fileWith [{ bridge "br0" with
      dhcp4 := some { poolOffsetStart := 0, poolOffsetEnd := 9, leaseTime := 0, dns := [] } }],
    fileWith [{ bridge "br0" with pd := some { sampleFilePD 64 0 with uplink := "" } }],
    fileWith [{ bridge "br0" with statics4 := [{ printer with mac := none }] }]]

/-- `--check` accepts files with which the daemon then does not start. -/
theorem check_accepts_unstartable :
    unstartableFiles.length = 5 ∧ ∀ file ∈ unstartableFiles,
      runDaemon (hostWith file) freshBoot "config.json" true = .configOk ∧
        ¬ ∃ manager, runDaemon (hostWith file) freshBoot "config.json" false = .serving manager := by
  have runs : ∀ file ∈ unstartableFiles,
      (runDaemon (hostWith file) freshBoot "config.json" true).isConfigOk = true ∧
        (runDaemon (hostWith file) freshBoot "config.json" false).isServing = false := by
    decide +kernel
  refine ⟨rfl, fun file listed => ?_⟩
  obtain ⟨checked, stopped⟩ := runs file listed
  refine ⟨Exit.eq_configOk checked, ?_⟩
  rintro ⟨manager, serving⟩
  rw [serving] at stopped
  cases stopped

end BridgeDhcp.Config
