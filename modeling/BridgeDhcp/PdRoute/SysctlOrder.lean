/-
Several instances, one uplink.

Every instance acquires three references when it starts and gives them up in the reverse
order when it stops.  The steps of different instances interleave freely.
-/

import BridgeDhcp.PdRoute.Routes
import BridgeDhcp.PdRoute.Sysctl
import Mathlib.Algebra.BigOperators.Group.Finset.Basic
import Mathlib.Algebra.Order.BigOperators.Group.Finset
import Mathlib.Tactic.IntervalCases

set_option autoImplicit false

namespace BridgeDhcp.PdRoute

open GoText StepRun

/-! ### The calls of one instance -/

def SysctlCall.event : SysctlCall → SysctlEvent
  | .acquireAcceptRA iface => .acquire (sysctlPath iface "accept_ra") wantAcceptRA
  | .acquireForwarding iface => .acquire (sysctlPath iface "forwarding") wantForwarding
  | .releaseForwarding iface => .release (sysctlPath iface "forwarding")
  | .releaseAcceptRA iface => .release (sysctlPath iface "accept_ra")

def lifetime (cfg : Config) : List SysctlCall :=
  [.acquireAcceptRA cfg.uplink, .acquireForwarding cfg.uplink, .acquireForwarding cfg.iface,
    .releaseForwarding cfg.iface, .releaseForwarding cfg.uplink, .releaseAcceptRA cfg.uplink]

def performOn (cfg : Config) (routes : Routes) (input : Netlink.Kernel × Call) : Routes :=
  (perform cfg input.2 { kernel := input.1, routes }).routes

/-- How far an instance can be: not started, started, or stopped after it was started. -/
def Lived (cfg : Config) (routes : Routes) : Prop :=
  routes.started = false ∧ routes.sysctls = [] ∨
    routes.started = true ∧ routes.stopped = false ∧ routes.sysctls = (lifetime cfg).take 3 ∨
    routes.started = true ∧ routes.stopped = true ∧ routes.sysctls = lifetime cfg

theorem lived_ensureStarted {cfg : Config} {host : Host} (lived : Lived cfg host.routes) :
    Lived cfg (ensureStartedLocked cfg host).routes := by
  unfold ensureStartedLocked
  split
  · exact lived
  · next fresh =>
    rcases lived with ⟨_, nothing⟩ | ⟨started, _⟩ | ⟨started, _⟩
    · have running : host.routes.stopped = false := by
        cases stopped : host.routes.stopped with
        | false => rfl
        | true => exact absurd (.inr stopped) fresh
      exact .inr (.inl ⟨rfl, running, by rw [nothing]; rfl⟩)
    · exact absurd (.inl started) fresh
    · exact absurd (.inl started) fresh

theorem lived_perform {cfg : Config} {host : Host} (lived : Lived cfg host.routes) (call : Call) :
    Lived cfg (perform cfg call host).routes := by
  cases call with
  | start => exact lived_ensureStarted lived
  | install net =>
      simp only [perform, install]
      split
      · exact lived
      · exact lived_ensureStarted lived
  | clear =>
      simp only [perform, clear, clearLocked]
      split <;> exact lived
  | stop =>
      simp only [perform, stop]
      split
      · exact lived
      · next running =>
        have kept : ∀ other : Host, (clearLocked cfg other).routes.started = other.routes.started ∧
            (clearLocked cfg other).routes.stopped = other.routes.stopped ∧
            (clearLocked cfg other).routes.sysctls = other.routes.sysctls := by
          intro other
          unfold clearLocked
          split <;> exact ⟨rfl, rfl, rfl⟩
        rcases kept { host with routes := { host.routes with stopped := true } } with
          ⟨started, stopped, sysctls⟩
        split
        · next begun =>
          rcases lived with ⟨unstarted, _⟩ | ⟨_, _, acquired⟩ | ⟨_, ended, _⟩
          · rw [started] at begun
            exact absurd (unstarted.symm.trans begun) Bool.false_ne_true
          · refine .inr (.inr ⟨begun, stopped, ?_⟩)
            change (clearLocked cfg _).routes.sysctls ++ _ = _
            rw [sysctls]
            change host.routes.sysctls ++ _ = _
            rw [acquired]
            rfl
          · exact absurd ended running
        · next unstarted =>
          rcases lived with ⟨never, nothing⟩ | ⟨begun, _⟩ | ⟨begun, _⟩
          · exact .inl ⟨started.trans never, sysctls.trans nothing⟩
          · exact absurd (started.trans begun) unstarted
          · exact absurd (started.trans begun) unstarted
  | resync =>
      simp only [perform, resync]
      split <;> exact lived

theorem sysctls_initial (cfg : Config) (inputs : List (Netlink.Kernel × Call)) :
    (run (performOn cfg) new inputs).sysctls <+: lifetime cfg := by
  have lived : Lived cfg (run (performOn cfg) new inputs) := by
    apply run_invariant (performOn cfg) (Lived cfg) (fun _ _ => True)
    · intro routes input _ held
      exact @lived_perform cfg { kernel := input.1, routes } held input.2
    · exact .inl ⟨rfl, rfl⟩
    · intro _ _ _ _
      trivial
  rcases lived with ⟨_, calls⟩ | ⟨_, _, calls⟩ | ⟨_, _, calls⟩
  · rw [calls]
    exact List.nil_prefix
  · rw [calls]
    exact List.take_prefix 3 (lifetime cfg)
  · rw [calls]

/-! ### Files of different interfaces -/

theorem sysctlPath_inj {iface other key : String}
    (same : sysctlPath iface key = sysctlPath other key) : iface = other := by
  unfold sysctlPath at same
  rw [String.append_left_inj, String.append_left_inj, String.append_right_inj] at same
  exact same

theorem sysctlPath_keys (iface other : String) :
    sysctlPath iface "forwarding" ≠ sysctlPath other "accept_ra" := by
  intro same
  have ends := congrArg (fun path => path.toList.reverse.head?) same
  simp [sysctlPath] at ends

/-! ### Counting references -/

def holdsAcceptRA (uplink : String) (cfg : Config) (made : Nat) : Nat :=
  if cfg.uplink = uplink ∧ 1 ≤ made ∧ made ≤ 5 then 1 else 0

def holdsForwarding (uplink : String) (cfg : Config) (made : Nat) : Nat :=
  if cfg.uplink = uplink ∧ 2 ≤ made ∧ made ≤ 4 then 1 else 0

theorem holdsForwarding_le (uplink : String) (cfg : Config) (made : Nat) :
    holdsForwarding uplink cfg made ≤ holdsAcceptRA uplink cfg made := by
  unfold holdsForwarding holdsAcceptRA
  split
  · next forwarding =>
    rw [if_pos ⟨forwarding.1, by omega, by omega⟩]
  · exact Nat.zero_le _

theorem references_call {uplink : String} {cfg : Config} (notServed : cfg.iface ≠ uplink)
    {made : Nat} {call : SysctlCall} (next : (lifetime cfg)[made]? = some call) (others : Nat) :
    referencesFrom (others + holdsAcceptRA uplink cfg made) (sysctlPath uplink "accept_ra")
        [call.event] = others + holdsAcceptRA uplink cfg (made + 1) ∧
      referencesFrom (others + holdsForwarding uplink cfg made) (sysctlPath uplink "forwarding")
        [call.event] = others + holdsForwarding uplink cfg (made + 1) := by
  have bound : made < 6 := by
    have inside := (List.getElem?_eq_some_iff.mp next).1
    simpa [lifetime] using inside
  have served : sysctlPath cfg.iface "forwarding" ≠ sysctlPath uplink "forwarding" :=
    fun same => notServed (sysctlPath_inj same)
  have keys := sysctlPath_keys
  have keys' : ∀ iface other, sysctlPath iface "accept_ra" ≠ sysctlPath other "forwarding" :=
    fun iface other => (sysctlPath_keys other iface).symm
  by_cases mine : cfg.uplink = uplink
  · interval_cases made <;> cases next <;>
      simp [referencesFrom, SysctlCall.event, SysctlEvent.on, countStep, holdsAcceptRA,
        holdsForwarding, mine, served, keys, keys']
  · have otherAccept : sysctlPath cfg.uplink "accept_ra" ≠ sysctlPath uplink "accept_ra" :=
      fun same => mine (sysctlPath_inj same)
    have otherForwarding : sysctlPath cfg.uplink "forwarding" ≠ sysctlPath uplink "forwarding" :=
      fun same => mine (sysctlPath_inj same)
    interval_cases made <;> cases next <;>
      simp [referencesFrom, SysctlCall.event, SysctlEvent.on, holdsAcceptRA, holdsForwarding, mine,
        served, keys, keys', otherAccept, otherForwarding]

/-! ### Interleavings -/

section Family

variable {Instance : Type} [DecidableEq Instance]

def callsOf (member : Instance) (calls : List (Instance × SysctlCall)) : List SysctlCall :=
  (calls.filter (fun call => call.1 = member)).map Prod.snd

/-- The calls of each instance are the first ones of its lifetime. -/
def Interleaved (cfg : Instance → Config) (calls : List (Instance × SysctlCall)) : Prop :=
  ∀ member, callsOf member calls <+: lifetime (cfg member)

def eventsOf (calls : List (Instance × SysctlCall)) : List SysctlEvent :=
  calls.map (fun call => call.2.event)

theorem callsOf_snoc (member : Instance) (calls : List (Instance × SysctlCall))
    (last : Instance × SysctlCall) :
    callsOf member (calls ++ [last]) =
      callsOf member calls ++ (if last.1 = member then [last.2] else []) := by
  by_cases same : last.1 = member
  · simp [callsOf, same]
  · simp [callsOf, same]

theorem Interleaved.init {cfg : Instance → Config} {calls : List (Instance × SysctlCall)}
    {last : Instance × SysctlCall} (interleaved : Interleaved cfg (calls ++ [last])) :
    Interleaved cfg calls := by
  intro member
  have whole := interleaved member
  rw [callsOf_snoc] at whole
  exact (List.prefix_append _ _).trans whole

theorem Interleaved.next {cfg : Instance → Config} {calls : List (Instance × SysctlCall)}
    {last : Instance × SysctlCall} (interleaved : Interleaved cfg (calls ++ [last])) :
    (lifetime (cfg last.1))[(callsOf last.1 calls).length]? = some last.2 := by
  have whole := interleaved last.1
  rw [callsOf_snoc, if_pos rfl] at whole
  rcases whole with ⟨rest, parts⟩
  rw [← parts]
  simp

variable [Fintype Instance]

def heldBy (holds : Config → Nat → Nat) (cfg : Instance → Config)
    (calls : List (Instance × SysctlCall)) : Nat :=
  ∑ member, holds (cfg member) (callsOf member calls).length

theorem heldBy_snoc (holds : Config → Nat → Nat) (cfg : Instance → Config)
    (calls : List (Instance × SysctlCall)) (last : Instance × SysctlCall) :
    ∃ others, heldBy holds cfg calls =
        others + holds (cfg last.1) (callsOf last.1 calls).length ∧
      heldBy holds cfg (calls ++ [last]) =
        others + holds (cfg last.1) ((callsOf last.1 calls).length + 1) := by
  refine ⟨∑ member ∈ Finset.univ.erase last.1, holds (cfg member) (callsOf member calls).length,
    (Finset.sum_erase_add _ _ (Finset.mem_univ last.1)).symm, ?_⟩
  unfold heldBy
  rw [← Finset.sum_erase_add _ _ (Finset.mem_univ last.1)]
  congr 1
  · apply Finset.sum_congr rfl
    intro member listed
    have other : last.1 ≠ member := (Finset.ne_of_mem_erase listed).symm
    rw [callsOf_snoc, if_neg other, List.append_nil]
  · rw [callsOf_snoc, if_pos rfl, List.length_append, List.length_singleton]

theorem references_eq_heldBy {cfg : Instance → Config} {uplink : String}
    (notServed : ∀ member, (cfg member).iface ≠ uplink) (calls : List (Instance × SysctlCall))
    (interleaved : Interleaved cfg calls) :
    references (sysctlPath uplink "accept_ra") (eventsOf calls) =
        heldBy (holdsAcceptRA uplink) cfg calls ∧
      references (sysctlPath uplink "forwarding") (eventsOf calls) =
        heldBy (holdsForwarding uplink) cfg calls := by
  induction calls using List.reverseRecOn with
  | nil => simp [references, referencesFrom, eventsOf, heldBy, callsOf, holdsAcceptRA, holdsForwarding]
  | append_singleton calls last ih =>
      rcases ih interleaved.init with ⟨accepting, forwarding⟩
      have split : ∀ path, references path (eventsOf (calls ++ [last])) =
          referencesFrom (references path (eventsOf calls)) path [last.2.event] := by
        intro path
        simp only [references, referencesFrom, eventsOf, List.map_append, List.filterMap_append,
          run_append]
        rfl
      rw [split, split, accepting, forwarding]
      constructor
      · rcases heldBy_snoc (holdsAcceptRA uplink) cfg calls last with ⟨others, before, after⟩
        rw [before, after]
        exact (references_call (notServed last.1) interleaved.next others).1
      · rcases heldBy_snoc (holdsForwarding uplink) cfg calls last with ⟨others, before, after⟩
        rw [before, after]
        exact (references_call (notServed last.1) interleaved.next others).2

theorem references_forwarding_le {cfg : Instance → Config} {uplink : String}
    (notServed : ∀ member, (cfg member).iface ≠ uplink) {calls : List (Instance × SysctlCall)}
    (interleaved : Interleaved cfg calls) :
    references (sysctlPath uplink "forwarding") (eventsOf calls) ≤
      references (sysctlPath uplink "accept_ra") (eventsOf calls) := by
  rcases references_eq_heldBy notServed calls interleaved with ⟨accepting, forwarding⟩
  rw [accepting, forwarding]
  exact Finset.sum_le_sum fun member _ => holdsForwarding_le uplink (cfg member) _

end Family

/-! ### What a held accept_ra file holds -/

def AcceptSafe (view : FileView) : Prop :=
  ∀ entry, view.entry = some entry → trimSpace view.content ≠ "1"

theorem acceptSafe_fileStep {view : FileView} {event : FileEvent}
    (ours : event = .acquire wantAcceptRA ∨ event = .release) (safe : AcceptSafe view) :
    AcceptSafe (fileStep view event) := by
  rcases ours with rfl | rfl
  · cases found : view.entry with
    | some entry =>
        intro _ _
        simpa [fileStep, found] using safe entry found
    | none =>
        intro _ _
        have readsBack : trimSpace "2" ≠ "1" := by decide
        by_cases relaxed : trimSpace view.content = "1"
        · simp [fileStep, found, FileView.write, Want.changes, wantAcceptRA, relaxed, readsBack]
        · simp [fileStep, found, FileView.write, Want.changes, wantAcceptRA, relaxed]
  · cases found : view.entry with
    | none =>
        intro entry listed
        simp [fileStep, found] at listed
    | some entry =>
        by_cases inner : entry.refs - 1 > 0
        · intro _ _
          simpa [fileStep, found, inner] using safe entry found
        · intro other listed
          simp [fileStep, found, inner] at listed

theorem eventsOf_acceptRA {Instance : Type} {calls : List (Instance × SysctlCall)} {uplink : String}
    {event : FileEvent}
    (listed : event ∈ (eventsOf calls).filterMap (SysctlEvent.on (sysctlPath uplink "accept_ra"))) :
    event = .acquire wantAcceptRA ∨ event = .release := by
  rcases List.mem_filterMap.mp listed with ⟨source, member, concerned⟩
  rcases List.mem_map.mp member with ⟨call, _, rfl⟩
  have keys := sysctlPath_keys
  cases kind : call.2 with
  | acquireAcceptRA iface =>
      have same := (by simpa [kind, SysctlCall.event, SysctlEvent.on] using concerned :
        _ ∧ FileEvent.acquire wantAcceptRA = event)
      exact .inl same.2.symm
  | acquireForwarding iface =>
      simp [kind, SysctlCall.event, SysctlEvent.on, keys] at concerned
  | releaseForwarding iface =>
      simp [kind, SysctlCall.event, SysctlEvent.on, keys] at concerned
  | releaseAcceptRA iface =>
      have same := (by simpa [kind, SysctlCall.event, SysctlEvent.on] using concerned :
        _ ∧ FileEvent.release = event)
      exact .inr same.2.symm

theorem acceptSafe_after {Instance : Type} (files : String → String)
    (calls : List (Instance × SysctlCall)) (uplink : String) :
    AcceptSafe ((sysctlsAfter files (eventsOf calls)).view (sysctlPath uplink "accept_ra")) := by
  rw [sysctlsAfter, view_run]
  apply run_invariant fileStep AcceptSafe
    (fun _ event => event = .acquire wantAcceptRA ∨ event = .release)
  · intro view event ours safe
    exact acceptSafe_fileStep ours safe
  · intro entry listed
    cases listed
  · exact throughout_of_forall fileStep fun event listed => eventsOf_acceptRA listed

/-- Whatever the interleaving, an uplink that no instance serves and that forwards because of
the registry does not have accept_ra at 1. -/
theorem uplink_keeps_accepting_ra {Instance : Type} [Fintype Instance] [DecidableEq Instance]
    (cfg : Instance → Config) (files : String → String) (uplink : String)
    (notServed : ∀ member, (cfg member).iface ≠ uplink)
    (calls : List (Instance × SysctlCall))
    (performed : ∀ member, ∃ inputs : List (Netlink.Kernel × Call),
      callsOf member calls <+: (run (performOn (cfg member)) new inputs).sysctls)
    (off : trimSpace (files (sysctlPath uplink "forwarding")) ≠ "1")
    (on : (sysctlsAfter files (eventsOf calls)).readSysctl (sysctlPath uplink "forwarding") = "1") :
    (sysctlsAfter files (eventsOf calls)).readSysctl (sysctlPath uplink "accept_ra") ≠ "1" := by
  have interleaved : Interleaved cfg calls := by
    intro member
    rcases performed member with ⟨inputs, made⟩
    exact made.trans (sysctls_initial (cfg member) inputs)
  have internal : ∀ content,
      SysctlEvent.external (sysctlPath uplink "forwarding") content ∉ eventsOf calls := by
    intro content listed
    rcases List.mem_map.mp listed with ⟨call, _, foreign⟩
    cases kind : call.2 <;> simp [kind, SysctlCall.event] at foreign
  -- a file without an entry is at its initial value, so forwarding has an entry
  have kept := undisturbed_run (Sysctls.fresh files) internal rfl
  rcases refs_view files (eventsOf calls) (sysctlPath uplink "forwarding") with ⟨counted, refs⟩
  have forwarding : 0 < references (sysctlPath uplink "forwarding") (eventsOf calls) := by
    apply Nat.pos_of_ne_zero
    intro unheld
    have unlisted := entry_eq_none_of_refs counted (refs.trans unheld)
    change Undisturbed (trimSpace (files (sysctlPath uplink "forwarding")))
      ((sysctlsAfter files (eventsOf calls)).view (sysctlPath uplink "forwarding")) at kept
    unfold Undisturbed at kept
    rw [unlisted] at kept
    exact off (kept.symm.trans on)
  have accepting := Nat.lt_of_lt_of_le forwarding (references_forwarding_le notServed interleaved)
  rcases refs_view files (eventsOf calls) (sysctlPath uplink "accept_ra") with ⟨_, acceptRefs⟩
  rw [← acceptRefs] at accepting
  cases found : ((sysctlsAfter files (eventsOf calls)).view
      (sysctlPath uplink "accept_ra")).entry with
  | none => simp [FileView.refs, found] at accepting
  | some entry => exact acceptSafe_after files calls uplink entry found

def bridgeOn (iface : String) (table : Int) (tableSet : table ≠ 0) : Config where
  iface := iface
  uplink := "eth0"
  table := table
  rulePriority := 100
  tableSet := tableSet

/-- The files of a host before any instance: no forwarding, accept_ra at 1. -/
def defaultFiles (path : String) : String :=
  if path = sysctlPath "eth0" "accept_ra" then "1\n" else "0\n"

def twoBridges (second : Bool) : Config :=
  if second then bridgeOn "br1" 101 (by decide) else bridgeOn "br0" 100 (by decide)

def sharedCalls : List (Bool × SysctlCall) :=
  [(false, .acquireAcceptRA "eth0"), (true, .acquireAcceptRA "eth0"),
    (false, .acquireForwarding "eth0"), (false, .acquireForwarding "br0"),
    (true, .acquireForwarding "eth0"), (false, .releaseForwarding "br0"),
    (false, .releaseForwarding "eth0"), (false, .releaseAcceptRA "eth0")]

theorem uplink_keeps_accepting_ra_shared :
    (sysctlsAfter defaultFiles (eventsOf sharedCalls)).readSysctl (sysctlPath "eth0" "accept_ra") ≠
      "1" := by
  apply uplink_keeps_accepting_ra twoBridges defaultFiles "eth0"
  · decide
  · intro member
    let host : Netlink.Kernel := { links := ∅, up := [], addrs := [], rules := [], routes := [] }
    cases member with
    | false => exact ⟨[(host, .start), (host, .stop)], [], rfl⟩
    | true => exact ⟨[(host, .start)], [.acquireForwarding "br1"], rfl⟩
  · decide +kernel
  · decide +kernel

end BridgeDhcp.PdRoute
