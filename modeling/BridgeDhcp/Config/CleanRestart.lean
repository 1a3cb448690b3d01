/-
A clean restart: `Stop` saves, and the daemon is started again with the same file.

The second start makes the interfaces anew, installs the bindings of the file and then
restores what was saved.
-/

import BridgeDhcp.Config.Startup
import BridgeDhcp.Server.ClientNoninterference
import BridgeDhcp.Server.StateRoundTrip

set_option autoImplicit false

namespace BridgeDhcp.Config

open GoMap GoError GoTime Server StepRun

/-! ### Interfaces before the state is restored -/

/-- An interface that has just been made and given the bindings of the file. -/
structure ReadyAt (cfgs : List IfaceConfig) (ic : Iface) (it : Served) : Prop where
  client : ∃ cfg ∈ cfgs, cfg.name = ic.name ∧ it.pdc.isSome = cfg.pd.isSome
  unbound : it.binding = none
  leases : ∀ family, (it.server family).leases = .newLeaseTable
  statics : ∀ family id binding, (it.server family).statics.bindings.lookup id = some binding ↔
    binding ∈ ic.baseline.of family ∧ binding.id = id

structure ReadyManager (cfgs : List IfaceConfig) (file : File) (ready : Manager) : Prop where
  each : ∀ ic ∈ file.interfaces, ∃ it, ready.ifaces.lookup ic.name = some it ∧ ReadyAt cfgs ic it
  others : ∀ name, (∀ ic ∈ file.interfaces, ic.name ≠ name) → ready.ifaces.lookup name = none

theorem isSome_normalizePD {cfg ready : IfaceConfig} (normalized : cfg.normalize = .ok ready) :
    ready.pd.isSome = cfg.pd.isSome := by
  have built := (IfaceConfig.completedFrom normalized).pd
  unfold IfaceConfig.normalizePD at built
  cases given : cfg.pd with
  | none =>
      rw [given] at built
      rw [← Except.ok.inj built]
  | some pd =>
      rw [given] at built
      obtain ⟨completed, _, last⟩ := bind_eq_ok built
      rw [← Except.ok.inj last]
      rfl

section Ready

variable {cfg completed : IfaceConfig} (normalized : cfg.normalize = .ok completed) (clock : Instant)

theorem isSome_newServed : (Manager.newServed normalized clock).pdc.isSome = cfg.pd.isSome := by
  rw [← isSome_normalizePD normalized]
  exact Option.isSome_map

theorem binding_newServed : (Manager.newServed normalized clock).binding = none := by
  unfold Manager.newServed Served.binding
  cases completed.pd <;> rfl

theorem leases_newServed (family : Family) :
    ((Manager.newServed normalized clock).server family).leases = .newLeaseTable := by
  cases family <;> rfl

theorem statics_newServed (family : Family) :
    ((Manager.newServed normalized clock).server family).statics = .empty := by
  cases family <;> rfl

theorem readyAt_of_installed {cfgs : List IfaceConfig} (listed : cfg ∈ cfgs) {ic : Iface}
    (named : cfg.name = ic.name) {it : Served}
    (installed : InstalledAt ic.baseline.of (Manager.newServed normalized clock) it) :
    ReadyAt cfgs ic it where
  client := by
    refine ⟨cfg, listed, named, ?_⟩
    rw [installed.pdc]
    exact isSome_newServed normalized clock
  unbound := by
    unfold Served.binding
    rw [installed.pdc]
    exact binding_newServed normalized clock
  leases family := (installed.leases family).trans (leases_newServed normalized clock family)
  statics family id binding := by
    by_cases none : ic.baseline.of family = []
    · rw [installed.kept family none, statics_newServed, none]
      simp [StaticSet.empty]
    · exact lookup_buildStaticSet (installed.set family none) id binding

end Ready

theorem installedAt_refl {ic : Iface} (none : ¬ ic.Given) (it : Served) :
    InstalledAt ic.baseline.of it it := by
  obtain ⟨none4, none6⟩ := not_or.mp none
  have empty : ∀ family, ic.baseline.of family = [] := by
    intro family
    cases family with
    | four => exact not_not.mp none4
    | six => exact not_not.mp none6
  exact ⟨rfl, fun _ => rfl, fun _ _ => rfl, fun family given => absurd (empty family) given⟩

theorem readyManager_of_installed {host : Host} {boot : Boot} {file : File}
    {cfgs : List IfaceConfig} (built : file.buildIfaceConfigs host.parsing = .ok cfgs)
    {created ready : Manager}
    (made : Manager.newManagerFrom boot.now ⟨∅, []⟩ cfgs = .ok created)
    (installed : installStatics created
      (boot.installing.arrange (pairs file.initialStatics)) = .ok ready) :
    ReadyManager cfgs file ready := by
  have names := (buildAll_completable_iff built).1
  have distinct := ((Manager.newManagerFrom_isOk_iff cfgs _).mp ⟨created, made⟩).2
  rw [names] at distinct
  obtain ⟨untouched, touched⟩ := installStatics_spec
    (nodup_arrange_pairs boot.installing file.initialStatics) installed
  have listed : ∀ {name baseline},
      (name, baseline) ∈ boot.installing.arrange (pairs file.initialStatics) ↔
        ∃ ic ∈ file.interfaces, ic.name = name ∧ ic.Given ∧ ic.baseline = baseline :=
    boot.installing.mem_arrange.trans (mem_initialStatics_iff distinct _ _)
  constructor
  · intro ic member
    have configured : ic.name ∈ cfgs.map IfaceConfig.name := by
      rw [names]
      exact List.mem_map.mpr ⟨ic, member, rfl⟩
    obtain ⟨it, found⟩ := Manager.exists_lookup_newManagerFrom made configured
    have origin := (Manager.lookup_newManagerFrom made ic.name it).mp found
    rw [AList.lookup_empty, or_iff_left (by simp)] at origin
    obtain ⟨cfg, cfgListed, completed, normalized, named, rfl⟩ := origin
    by_cases given : ic.Given
    · obtain ⟨later, present, there⟩ :=
        touched (ic.name, ic.baseline) (listed.mpr ⟨ic, member, rfl, given, rfl⟩) _ found
      exact ⟨later, present, readyAt_of_installed normalized boot.now cfgListed named there⟩
    · refine ⟨_, (untouched ic.name ?_).trans found,
        readyAt_of_installed normalized boot.now cfgListed named (installedAt_refl given _)⟩
      rintro ⟨name, baseline⟩ visited same
      obtain ⟨other, otherMember, otherName, otherGiven, _⟩ := listed.mp visited
      have equal := List.inj_on_of_nodup_map distinct otherMember member (otherName.trans same)
      exact given (equal ▸ otherGiven)
  · intro name absent
    rw [untouched name]
    · rw [Option.eq_none_iff_forall_ne_some]
      intro it found
      have origin := (Manager.lookup_newManagerFrom made name it).mp found
      rw [AList.lookup_empty, or_iff_left (by simp)] at origin
      obtain ⟨cfg, cfgListed, _, _, named, _⟩ := origin
      have configured : name ∈ file.interfaces.map Iface.name := by
        rw [← names]
        exact List.mem_map.mpr ⟨cfg, cfgListed, named⟩
      obtain ⟨ic, member, same⟩ := List.mem_map.mp configured
      exact absent ic member same
    · rintro ⟨other, baseline⟩ visited same
      obtain ⟨ic, member, icName, _⟩ := listed.mp visited
      exact absent ic member (icName.trans same)

theorem readyManager_of_serving {host : Host} {boot : Boot} {file : File} {cfgs : List IfaceConfig}
    (built : file.buildIfaceConfigs host.parsing = .ok cfgs) {manager : Manager}
    (serving : startDaemon boot file cfgs = .serving manager) :
    ∃ ready, ReadyManager cfgs file ready ∧
      manager = ready.start (loadState file.stateFile boot.disk) boot.restoring boot.now := by
  obtain ⟨_, created, ready, made, installed, same⟩ :=
    (startDaemon_eq_serving_iff boot file cfgs manager).mp serving
  exact ⟨ready, readyManager_of_installed built made installed, same⟩

/-! ### Stopping and starting again -/

structure Shutdown where
  now : Instant
  orders : String → Family → RangeOrders

def saveNow (path : String) (disk : Option (Map String PersistedIface))
    (collected : Map String PersistedIface) : Option (Map String PersistedIface) :=
  if path = "" then disk else some collected

def stoppedAfter (lib4 : Library4) (lib6 : Library6) (started : Manager)
    (operations : List Operation) : Manager :=
  (run (Manager.step lib4 lib6) started operations).stop

def Boot.following (boot : Boot) (file : File) (shutdown : Shutdown) (atStop : Manager) : Boot :=
  { boot with
    disk := saveNow file.stateFile boot.disk (atStop.collectState shutdown.orders shutdown.now) }

def Preserved (now : Instant) (atStop restarted : Manager) : Prop :=
  ∀ name, Option.Rel (KeptAcross now) (atStop.ifaces.lookup name) (restarted.ifaces.lookup name)

/-- The interface holds the bindings of the file, and no lease or delegation that is valid. -/
structure AsConfigured (ic : Iface) (now : Instant) (it : Served) : Prop where
  statics : ∀ family id binding, (it.server family).statics.bindings.lookup id = some binding ↔
    binding ∈ ic.baseline.of family ∧ binding.id = id
  leases : ∀ family ip lease, (it.server family).leases.entry ip = some lease →
    lease.expired now = true
  unbound : ∀ held, it.binding = some held → held.expiresAt < now

/-- A family of the interface has a static binding, or the file gives it none. -/
def NotEmptied (ic : Iface) (it : Served) : Prop :=
  ∀ family, ic.baseline.of family = [] ∨
    ∃ id binding, (it.server family).statics.bindings.lookup id = some binding

/-- What an interface has to satisfy at `Stop`; without a state file nothing is saved. -/
def Restorable (file : File) (ic : Iface) (now : Instant) (it : Served) : Prop :=
  if file.stateFile = "" then AsConfigured ic now it else NotEmptied ic it

theorem lookup_loadState_saveNow (path : String) (disk : Option (Map String PersistedIface))
    (manager : Manager) (shutdown : Shutdown) (name : String) :
    (loadState path (saveNow path disk
        (manager.collectState shutdown.orders shutdown.now))).lookup name =
      if path = "" then none
      else (manager.ifaces.lookup name).map
        (fun it => it.persisted (shutdown.orders name) shutdown.now) := by
  unfold loadState saveNow
  by_cases empty : path = ""
  · rw [if_pos empty, if_pos empty, AList.lookup_empty]
  · rw [if_neg empty, if_neg empty, if_neg empty]
    exact lookup_mapValues (fun name it => it.persisted (shutdown.orders name) shutdown.now)
      manager.ifaces name

section Interface

variable {cfgs : List IfaceConfig} {ic : Iface} {base it : Served} {now : Instant}

theorem keptAcross_readyAt_iff (ready : ReadyAt cfgs ic base) :
    KeptAcross now it base ↔ AsConfigured ic now it := by
  constructor
  · intro kept
    refine ⟨?_, ?_, ?_⟩
    · intro family id binding
      rw [← kept.statics family id]
      exact ready.statics family id binding
    · intro family ip lease found
      by_contra active
      have there := (kept.leases family ip lease (eq_false_of_ne_true active)).mp found
      rw [ready.leases] at there
      cases there
    · intro held bound
      by_contra current
      have there := kept.binding held bound (Int.not_lt.mp current)
      rw [ready.unbound] at there
      cases there
  · intro configured
    refine ⟨?_, ?_, ?_⟩
    · intro family id
      apply Option.ext
      intro binding
      exact (ready.statics family id binding).trans (configured.statics family id binding).symm
    · intro family ip lease active
      rw [ready.leases]
      constructor
      · intro found
        rw [configured.leases family ip lease found] at active
        cases active
      · intro absent
        cases absent
    · intro held bound current
      exact absurd (configured.unbound held bound) (Int.not_lt.mpr current)

theorem lookup_none_iff (ready : ReadyAt cfgs ic base) (family : Family) :
    (∀ id, (base.server family).statics.bindings.lookup id = none) ↔
      ic.baseline.of family = [] := by
  constructor
  · intro none
    apply List.eq_nil_iff_forall_not_mem.mpr
    intro binding given
    have found := (ready.statics family binding.id binding).mpr ⟨given, rfl⟩
    rw [none] at found
    cases found
  · intro empty id
    rw [Option.eq_none_iff_forall_ne_some]
    intro binding found
    have given := ((ready.statics family id binding).mp found).1
    rw [empty] at given
    cases given

theorem notEmptied_iff (ready : ReadyAt cfgs ic base) :
    NotEmptied ic it ↔
      ∀ family, (∀ id, (it.server family).statics.bindings.lookup id = none) →
        ∀ id, (base.server family).statics.bindings.lookup id = none := by
  constructor
  · intro some family none
    rcases some family with empty | ⟨id, binding, found⟩
    · exact (lookup_none_iff ready family).mpr empty
    · rw [none] at found
      cases found
  · intro gives family
    by_cases none : ∀ id, (it.server family).statics.bindings.lookup id = none
    · exact Or.inl ((lookup_none_iff ready family).mp (gives family none))
    · obtain ⟨id, found⟩ := not_forall.mp none
      obtain ⟨binding, found⟩ := Option.ne_none_iff_exists'.mp found
      exact Or.inr ⟨id, binding, found⟩

theorem keptAcross_restoredAs_iff (ready : ReadyAt cfgs ic base)
    (client : base.pdc.isSome = it.pdc.isSome)
    (valid : ∀ family, (it.server family).leases.ValidKeys) {file : File} {shutdown : Shutdown}
    (later : shutdown.now ≤ now) {atStop : Manager}
    (found : atStop.ifaces.lookup ic.name = some it)
    (disk : Option (Map String PersistedIface)) :
    KeptAcross now it (Manager.restoredAs (loadState file.stateFile (saveNow file.stateFile disk
        (atStop.collectState shutdown.orders shutdown.now))) now ic.name base) ↔
      Restorable file ic now it := by
  unfold Manager.restoredAs Restorable
  rw [lookup_loadState_saveNow, found]
  by_cases empty : file.stateFile = ""
  · rw [if_pos empty, if_pos empty]
    exact keptAcross_readyAt_iff ready
  · rw [if_neg empty, if_neg empty, notEmptied_iff ready]
    exact keptAcross_restore_iff client valid _ later

end Interface

theorem ReadyAt.isSome_eq {cfgs : List IfaceConfig} (distinct : (cfgs.map IfaceConfig.name).Nodup)
    {ic : Iface} {first second : Served} (ready : ReadyAt cfgs ic first)
    (again : ReadyAt cfgs ic second) : second.pdc.isSome = first.pdc.isSome := by
  obtain ⟨cfg, listed, named, client⟩ := ready.client
  obtain ⟨other, otherListed, otherNamed, otherClient⟩ := again.client
  have same := List.inj_on_of_nodup_map distinct otherListed listed (otherNamed.trans named.symm)
  rw [otherClient, client, same]

/-- The interfaces of a file at `Stop`, beside those of the next start. -/
structure Successors (cfgs : List IfaceConfig) (file : File) (secondReady atStop : Manager) : Prop where
  each : ∀ ic ∈ file.interfaces, ∃ base it, secondReady.ifaces.lookup ic.name = some base ∧
    atStop.ifaces.lookup ic.name = some it ∧ ReadyAt cfgs ic base ∧
    base.pdc.isSome = it.pdc.isSome ∧ ∀ family, (it.server family).leases.ValidKeys
  others : ∀ name, (∀ ic ∈ file.interfaces, ic.name ≠ name) →
    secondReady.ifaces.lookup name = none ∧ atStop.ifaces.lookup name = none

theorem successors_of_evolve {cfgs : List IfaceConfig} {file : File}
    {firstReady secondReady atStop : Manager} (distinct : (cfgs.map IfaceConfig.name).Nodup)
    (ready : ReadyManager cfgs file firstReady) (again : ReadyManager cfgs file secondReady)
    (evolved : Manager.Evolve firstReady atStop) : Successors cfgs file secondReady atStop where
  each ic member := by
    obtain ⟨old, oldFound, oldReady⟩ := ready.each ic member
    obtain ⟨base, baseFound, baseReady⟩ := again.each ic member
    have related := evolved ic.name
    rw [oldFound] at related
    generalize atStop.ifaces.lookup ic.name = held at related
    cases related with
    | some evolves =>
        refine ⟨base, _, baseFound, rfl, baseReady, ?_, ?_⟩
        · rw [evolves.client]
          exact oldReady.isSome_eq distinct baseReady
        · intro family
          apply evolves.valid family
          rw [oldReady.leases]
          exact LeaseTable.validKeys_newLeaseTable
  others name absent := by
    refine ⟨again.others name absent, ?_⟩
    have related := evolved name
    rw [ready.others name absent] at related
    generalize atStop.ifaces.lookup name = held at related
    cases related
    rfl

theorem preserved_start_iff {cfgs : List IfaceConfig} {file : File} {secondReady atStop : Manager}
    (successors : Successors cfgs file secondReady atStop) {shutdown : Shutdown} {now : Instant}
    (later : shutdown.now ≤ now) (disk : Option (Map String PersistedIface))
    (order : RangeOrder (String × Served)) :
    Preserved now atStop (secondReady.start (loadState file.stateFile (saveNow file.stateFile disk
        (atStop.collectState shutdown.orders shutdown.now))) order now) ↔
      ∀ ic ∈ file.interfaces, ∀ it, atStop.ifaces.lookup ic.name = some it →
        Restorable file ic now it := by
  unfold Preserved
  simp only [Manager.lookup_start]
  constructor
  · intro preserved ic member it found
    obtain ⟨base, _, baseFound, itFound, ready, client, valid⟩ := successors.each ic member
    cases itFound.symm.trans found
    have kept := preserved ic.name
    rw [found, baseFound] at kept
    cases kept with
    | some kept => exact (keptAcross_restoredAs_iff ready client valid later found disk).mp kept
  · intro restorable name
    by_cases configured : ∃ ic ∈ file.interfaces, ic.name = name
    · obtain ⟨ic, member, rfl⟩ := configured
      obtain ⟨base, it, baseFound, found, ready, client, valid⟩ := successors.each ic member
      have kept := (keptAcross_restoredAs_iff ready client valid later found disk).mpr
        (restorable ic member it found)
      rw [found, baseFound]
      exact .some kept
    · obtain ⟨baseAbsent, absent⟩ := successors.others name
        (fun ic member same => configured ⟨ic, member, same⟩)
      rw [absent, baseAbsent]
      exact .none

/-- A restart with the same file preserves what the interfaces held at `Stop` exactly if each of
them is restorable. -/
theorem clean_restart_preserves_iff (lib4 : Library4) (lib6 : Library6) (host : Host)
    (first second : Boot) (path : String) (file : File) (started : Manager)
    (operations : List Operation) (shutdown : Shutdown) (loaded : host.load path = .ok file)
    (serving : runDaemon host first path false = .serving started)
    (subscribed : second.subscribed = .ok ()) (later : shutdown.now ≤ second.now) :
    ∃ restarted,
      runDaemon host (second.following file shutdown
          (stoppedAfter lib4 lib6 started operations)) path false =
        .serving restarted ∧
      (Preserved second.now (stoppedAfter lib4 lib6 started operations)
          restarted ↔
        ∀ ic ∈ file.interfaces, ∀ it,
          (stoppedAfter lib4 lib6 started operations).ifaces.lookup ic.name =
            some it →
          Restorable file ic second.now it) := by
  rcases runDaemon_cases host path with refused | ⟨same, cfgs, sameLoaded, built, continues⟩
  · rcases refused first false with usage | ⟨reason, config⟩
    · cases usage.symm.trans serving
    · cases config.symm.trans serving
  cases loaded.symm.trans sameLoaded
  rw [continues] at serving ⊢
  have startable := (startDaemon_serving_iff host first
    ((startDaemon_eq_serving_iff _ _ _ _).mp serving).1 built).mp ⟨started, serving⟩
  obtain ⟨restarted, again⟩ := (startDaemon_serving_iff host
    (second.following file shutdown (stoppedAfter lib4 lib6 started operations))
    subscribed built).mpr startable
  refine ⟨restarted, again, ?_⟩
  obtain ⟨firstReady, ready1, rfl⟩ := readyManager_of_serving built serving
  obtain ⟨secondReady, ready2, rfl⟩ := readyManager_of_serving built again
  have distinct : (cfgs.map IfaceConfig.name).Nodup := by
    rw [(buildAll_completable_iff built).1]
    exact startable.distinct
  have evolved := ((Manager.Evolve.start firstReady (loadState file.stateFile first.disk)
    first.restoring first.now).trans
      (Manager.Evolve.run lib4 lib6 _ operations)).trans (Manager.Evolve.stop _)
  exact preserved_start_iff (successors_of_evolve distinct ready1 ready2 evolved) later _ _

/-! ### A binding that was deleted -/

def Exit.manager : Exit → Manager
  | .serving manager => manager
  | _ => ⟨∅, []⟩

theorem Exit.eq_serving {exit : Exit} (serves : exit.isServing = true) :
    exit = .serving exit.manager := by
  cases exit with
  | serving manager => rfl
  | _ => cases serves

def staticAt (manager : Manager) (name : String) (family : Family) (id : String) :
    Option StaticBinding :=
  (manager.ifaces.lookup name).bind (fun it => (it.server family).statics.bindings.lookup id)

theorem staticAt_of_preserved {now : Instant} {atStop restarted : Manager}
    (preserved : Preserved now atStop restarted) (name : String) (family : Family) (id : String) :
    staticAt restarted name family id = staticAt atStop name family id := by
  have related := preserved name
  unfold staticAt
  generalize atStop.ifaces.lookup name = held at related ⊢
  generalize restarted.ifaces.lookup name = found at related ⊢
  cases related with
  | none => rfl
  | some kept => exact kept.statics family id

def printerFile : File := fileWith [bridge "br0"]

def printerHost : Host := hostWith printerFile

def firstRun : Manager := (runDaemon printerHost freshBoot "config.json" false).manager

def stopAfter (operations : List Operation) : Manager :=
  stoppedAfter sampleLibrary4 sampleLibrary6 firstRun operations

def sampleShutdown : Shutdown where
  now := second
  orders := fun _ _ => storedOrders

def nextBoot : Boot := { freshBoot with now := 2 * second }

def nextRun (operations : List Operation) : Exit :=
  runDaemon printerHost (nextBoot.following printerFile sampleShutdown (stopAfter operations))
    "config.json" false

theorem serving_firstRun :
    runDaemon printerHost freshBoot "config.json" false = .serving firstRun :=
  Exit.eq_serving (by decide +kernel)

def scanner : StaticBinding := { printer with id := "scanner", offset := 6 }

/-- A binding is added beside that of the file; after the restart both are there. -/
theorem clean_restart_preserves_scanner :
    staticAt (stopAfter [.putStatic "br0" 4 scanner]) "br0" .four "scanner" = some scanner ∧
      ∃ restarted, nextRun [.putStatic "br0" 4 scanner] = .serving restarted ∧
        Preserved nextBoot.now (stopAfter [.putStatic "br0" 4 scanner]) restarted := by
  have added : staticAt (stopAfter [.putStatic "br0" 4 scanner]) "br0" .four "scanner" =
      some scanner := by
    decide +kernel
  obtain ⟨restarted, serving, preserved⟩ := clean_restart_preserves_iff sampleLibrary4
    sampleLibrary6 printerHost freshBoot nextBoot "config.json" printerFile firstRun
    [.putStatic "br0" 4 scanner] sampleShutdown (by decide +kernel) serving_firstRun rfl (by decide)
  refine ⟨added, restarted, serving, preserved.mpr ?_⟩
  intro ic member it found
  cases List.mem_singleton.mp member
  unfold Restorable
  rw [if_neg (by decide)]
  intro family
  cases family with
  | six => exact Or.inl rfl
  | four =>
      obtain ⟨_, present, binding⟩ := Option.bind_eq_some_iff.mp added
      cases present.symm.trans found
      exact Or.inr ⟨"scanner", scanner, binding⟩

/-- The only binding of the file is deleted through the API; after the restart it is back. -/
theorem deleted_static_returns :
    ∃ restarted, nextRun [.deleteStatic "br0" 4 "printer"] = .serving restarted ∧
      staticAt (stopAfter [.deleteStatic "br0" 4 "printer"]) "br0" .four "printer" = none ∧
      staticAt restarted "br0" .four "printer" = some printer ∧
      ¬ Preserved nextBoot.now (stopAfter [.deleteStatic "br0" 4 "printer"]) restarted := by
  have deleted : staticAt (stopAfter [.deleteStatic "br0" 4 "printer"]) "br0" .four "printer" =
      none := by
    decide +kernel
  have back : staticAt (nextRun [.deleteStatic "br0" 4 "printer"]).manager "br0" .four "printer" =
      some printer := by
    decide +kernel
  refine ⟨_, Exit.eq_serving (by decide +kernel), deleted, back, ?_⟩
  intro preserved
  have same := staticAt_of_preserved preserved "br0" .four "printer"
  rw [back, deleted] at same
  cases same

end BridgeDhcp.Config
