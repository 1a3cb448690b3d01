/-
State of one address server and the operations the control API has on it.

The DHCPv4 and the DHCPv6 server of an interface have the same state: a
normalised configuration, a static binding set and a lease table.  A server
sees the world through a snapshot of its environment, taken when an event is
handled, and leaves frames to transmit.
-/

import BridgeDhcp.GoText
import BridgeDhcp.Packet.Ingress
import BridgeDhcp.Server.AddressSelection
import BridgeDhcp.StepRun

set_option autoImplicit false

namespace BridgeDhcp.Server

open GoMap GoText Netip Packet

/-! ### The static binding set -/

/-- Bindings under their own non-empty ids, each with a condition and a
positive offset. -/
structure StaticSet where
  bindings : Map String StaticBinding
  wellFormed : ∀ id binding, bindings.lookup id = some binding →
    binding.id = id ∧ binding.id ≠ "" ∧ binding.validate = .ok ()

namespace StaticSet

def empty : StaticSet where
  bindings := ∅
  wellFormed := by
    intro id binding found
    rw [AList.lookup_empty] at found
    cases found

/-- The assignment `m[b.ID] = &b` of a checked binding. -/
def assign (set : StaticSet) (binding : StaticBinding) (named : binding.id ≠ "")
    (checked : binding.validate = .ok ()) : StaticSet where
  bindings := set.bindings.insert binding.id binding
  wellFormed := by
    intro id found present
    rw [lookup_insert_cases] at present
    split at present
    · rename_i same
      cases present
      exact ⟨same.symm, named, checked⟩
    · exact set.wellFormed id found present

def delete (set : StaticSet) (id : String) : StaticSet where
  bindings := set.bindings.erase id
  wellFormed := by
    intro key found present
    rw [lookup_erase_cases] at present
    split at present
    · cases present
    · exact set.wellFormed key found present

end StaticSet

def buildStaticSetFrom (built : StaticSet) : List StaticBinding → Except String StaticSet
  | [] => .ok built
  | binding :: rest =>
      if unnamed : binding.id = "" then .error "static binding needs an id"
      else
        let quoted := quote binding.id
        match checked : binding.validate with
        | .error reason => .error s!"binding {quoted}: {reason}"
        | .ok () =>
            if (built.bindings.lookup binding.id).isSome then
              .error s!"duplicate binding id {quoted}"
            else buildStaticSetFrom (built.assign binding unnamed checked) rest

def buildStaticSet (bindings : List StaticBinding) : Except String StaticSet :=
  buildStaticSetFrom StaticSet.empty bindings

theorem StaticBinding.validate_eq_ok_iff (binding : StaticBinding) :
    binding.validate = .ok () ↔
      (binding.mac ≠ none ∨ binding.clientID ≠ none) ∧ binding.offset ≠ 0 := by
  unfold StaticBinding.validate
  split
  · next wild => simp [wild.1, wild.2]
  · next conditions =>
      rw [← not_and_or]
      split
      · next zero => simp [zero]
      · next positive => simp [conditions, positive]

structure StaticBinding.Acceptable (binding : StaticBinding) : Prop where
  named : binding.id ≠ ""
  conditions : binding.mac ≠ none ∨ binding.clientID ≠ none
  positive : binding.offset ≠ 0

theorem StaticBinding.acceptable_iff (binding : StaticBinding) :
    binding.Acceptable ↔ binding.id ≠ "" ∧ binding.validate = .ok () := by
  rw [validate_eq_ok_iff]
  exact ⟨fun fits => ⟨fits.named, fits.conditions, fits.positive⟩, fun ⟨named, rest⟩ =>
    ⟨named, rest.1, rest.2⟩⟩

theorem buildStaticSetFrom_cons_iff (built result : StaticSet) (binding : StaticBinding)
    (rest : List StaticBinding) :
    buildStaticSetFrom built (binding :: rest) = .ok result ↔
      ∃ (named : binding.id ≠ "") (checked : binding.validate = .ok ()),
        built.bindings.lookup binding.id = none ∧
        buildStaticSetFrom (built.assign binding named checked) rest = .ok result := by
  rw [buildStaticSetFrom]
  split
  · next unnamed => simp [unnamed]
  · next named =>
      dsimp only
      split
      · next reason failed => simp [failed]
      · next checked =>
          split
          · next taken =>
              simp only [reduceCtorEq, false_iff, not_exists]
              rintro _ _ ⟨free, _⟩
              rw [free] at taken
              cases taken
          · next free =>
              rw [Option.not_isSome_iff_eq_none] at free
              exact ⟨fun built => ⟨named, checked, free, built⟩, fun ⟨_, _, _, built⟩ => built⟩

structure AcceptableSet (bindings : List StaticBinding) : Prop where
  each : ∀ binding ∈ bindings, binding.Acceptable
  distinct : (bindings.map StaticBinding.id).Nodup

theorem buildStaticSetFrom_spec {bindings : List StaticBinding} {built result : StaticSet}
    (accepted : buildStaticSetFrom built bindings = .ok result) :
    AcceptableSet bindings ∧ (∀ binding ∈ bindings, built.bindings.lookup binding.id = none) ∧
      ∀ id binding, result.bindings.lookup id = some binding ↔
        (binding ∈ bindings ∧ binding.id = id) ∨ built.bindings.lookup id = some binding := by
  induction bindings generalizing built with
  | nil =>
      cases accepted
      refine ⟨⟨?_, List.nodup_nil⟩, ?_, ?_⟩ <;> simp
  | cons first rest ih =>
      obtain ⟨named, checked, free, continued⟩ :=
        (buildStaticSetFrom_cons_iff built result first rest).mp accepted
      obtain ⟨later, unused, entries⟩ := ih continued
      change ∀ binding ∈ rest, (built.bindings.insert first.id first).lookup binding.id = none
        at unused
      change ∀ id binding, _ ↔ _ ∨ (built.bindings.insert first.id first).lookup id = some binding
        at entries
      have apart : ∀ binding ∈ rest, binding.id ≠ first.id ∧
          built.bindings.lookup binding.id = none := by
        intro binding member
        have absent := unused binding member
        rw [lookup_insert_cases] at absent
        split at absent
        · cases absent
        · next distinct => exact ⟨distinct, absent⟩
      refine ⟨⟨?_, ?_⟩, ?_, ?_⟩
      · intro binding member
        rcases List.mem_cons.mp member with rfl | inside
        · exact (StaticBinding.acceptable_iff _).mpr ⟨named, checked⟩
        · exact later.each binding inside
      · rw [List.map_cons, List.nodup_cons]
        refine ⟨?_, later.distinct⟩
        intro repeated
        obtain ⟨binding, member, same⟩ := List.mem_map.mp repeated
        exact (apart binding member).1 same
      · intro binding member
        rcases List.mem_cons.mp member with rfl | inside
        · exact free
        · exact (apart binding inside).2
      · intro id binding
        rw [entries, lookup_insert_cases, List.mem_cons]
        by_cases same : id = first.id
        · rw [if_pos same, same, free]
          constructor
          · rintro (⟨member, own⟩ | here)
            · exact absurd own (apart binding member).1
            · cases here
              exact Or.inl ⟨Or.inl rfl, rfl⟩
          · rintro (⟨rfl | member, own⟩ | absent)
            · exact Or.inr rfl
            · exact absurd own (apart binding member).1
            · cases absent
        · rw [if_neg same]
          constructor
          · rintro (⟨member, own⟩ | here)
            · exact Or.inl ⟨Or.inr member, own⟩
            · exact Or.inr here
          · rintro (⟨rfl | member, own⟩ | here)
            · exact absurd own.symm same
            · exact Or.inl ⟨member, own⟩
            · exact Or.inr here

theorem exists_buildStaticSetFrom {bindings : List StaticBinding} (acceptable : AcceptableSet bindings)
    {built : StaticSet} (unused : ∀ binding ∈ bindings, built.bindings.lookup binding.id = none) :
    ∃ result, buildStaticSetFrom built bindings = .ok result := by
  induction bindings generalizing built with
  | nil => exact ⟨built, rfl⟩
  | cons first rest ih =>
      obtain ⟨named, checked⟩ :=
        (StaticBinding.acceptable_iff first).mp (acceptable.each first List.mem_cons_self)
      have distinct := acceptable.distinct
      rw [List.map_cons, List.nodup_cons] at distinct
      have later : AcceptableSet rest :=
        ⟨fun binding member => acceptable.each binding (List.mem_cons_of_mem first member), distinct.2⟩
      have stillUnused : ∀ binding ∈ rest,
          (built.assign first named checked).bindings.lookup binding.id = none := by
        intro binding member
        change (built.bindings.insert first.id first).lookup binding.id = none
        rw [lookup_insert_cases, if_neg]
        · exact unused binding (List.mem_cons_of_mem first member)
        · intro same
          exact distinct.1 (same ▸ List.mem_map_of_mem member)
      obtain ⟨result, continued⟩ := ih later stillUnused
      exact ⟨result, (buildStaticSetFrom_cons_iff built result first rest).mpr
        ⟨named, checked, unused first List.mem_cons_self, continued⟩⟩

theorem buildStaticSet_isOk_iff (bindings : List StaticBinding) :
    (∃ result, buildStaticSet bindings = .ok result) ↔ AcceptableSet bindings := by
  constructor
  · rintro ⟨result, accepted⟩
    exact (buildStaticSetFrom_spec accepted).1
  · intro acceptable
    exact exists_buildStaticSetFrom acceptable (fun _ _ => AList.lookup_empty _)

theorem lookup_buildStaticSet {bindings : List StaticBinding} {result : StaticSet}
    (accepted : buildStaticSet bindings = .ok result) (id : String) (binding : StaticBinding) :
    result.bindings.lookup id = some binding ↔ binding ∈ bindings ∧ binding.id = id := by
  rw [(buildStaticSetFrom_spec accepted).2.2 id binding]
  constructor
  · rintro (listed | absent)
    · exact listed
    · cases absent
  · exact Or.inl

/-! ### The server state -/

structure AddressServer where
  cfg : PoolConfig
  normalized : cfg.Normalized
  statics : StaticSet
  leases : LeaseTable

namespace AddressServer

def putStatic (server : AddressServer) (binding : StaticBinding) : Except String AddressServer :=
  if unnamed : binding.id = "" then .error "static binding needs an id"
  else
    match checked : binding.validate with
    | .error reason => .error reason
    | .ok () => .ok { server with statics := server.statics.assign binding unnamed checked }

def replaceStatics (server : AddressServer) (bindings : List StaticBinding) :
    Except String AddressServer :=
  match buildStaticSet bindings with
  | .error reason => .error reason
  | .ok set => .ok { server with statics := set }

theorem replaceStatics_eq_ok_iff {server after : AddressServer} {bindings : List StaticBinding} :
    server.replaceStatics bindings = .ok after ↔
      ∃ set, buildStaticSet bindings = .ok set ∧ after = { server with statics := set } := by
  unfold replaceStatics
  cases buildStaticSet bindings with
  | error reason => simp
  | ok set => simp [eq_comm]

def deleteStatic (server : AddressServer) (id : String) : Except String AddressServer :=
  let quoted := quote id
  if (server.statics.bindings.lookup id).isSome then
    .ok { server with statics := server.statics.delete id }
  else .error s!"static binding {quoted} not found"

def releaseLease (server : AddressServer) (ip : Addr) : Except Addr AddressServer :=
  match server.leases.release ip with
  | (true, released) => .ok { server with leases := released }
  | (false, _) => .error ip

end AddressServer

/-! ### Environment and frames -/

/-- What a server reads of its interface while it handles one event.  The
configuration admits only a prefix of the right family for each. -/
structure Env where
  mac : List UInt8
  v4 : Option Prefix
  v6 : Option Prefix
  linkLocal : Addr
  v4Is4 : ∀ served, v4 = some served → served.addr.is4 = true
  v6Is6 : ∀ served, v6 = some served → served.addr.is6 = true

structure UdpFrame (Message : Type) where
  srcMAC : List UInt8
  dstMAC : List UInt8
  srcIP : List UInt8
  dstIP : List UInt8
  srcPort : UInt16
  dstPort : UInt16
  message : Message
  deriving DecidableEq, Repr

/-- The effect of handling a frame: whether it was claimed, the state after it
and the frames written. -/
structure Handled (Message : Type) where
  consumed : Bool
  server : AddressServer
  written : List (UdpFrame Message)

/-! ### Events -/

inductive Event where
  | frame (pkt : Ingress)
  | sweep
  | putStatic (binding : StaticBinding)
  | replaceStatics (bindings : List StaticBinding)
  | deleteStatic (id : String)
  | releaseLease (ip : Addr)

/-- An event with the instant it is handled at, the environment it sees and the
orders its range statements take. -/
structure Input where
  now : Int
  env : Env
  orders : RangeOrders
  event : Event

def keepOnError {Reason : Type} (server : AddressServer) :
    Except Reason AddressServer → AddressServer
  | .error _ => server
  | .ok changed => changed

def stepWith {Message : Type}
    (handle : Env → RangeOrders → Int → AddressServer → Ingress → Handled Message)
    (server : AddressServer) (input : Input) : AddressServer :=
  match input.event with
  | .frame pkt => (handle input.env input.orders input.now server pkt).server
  | .sweep => { server with leases := server.leases.expireSweep input.now }
  | .putStatic binding => keepOnError server (server.putStatic binding)
  | .replaceStatics bindings => keepOnError server (server.replaceStatics bindings)
  | .deleteStatic id => keepOnError server (server.deleteStatic id)
  | .releaseLease ip => keepOnError server (server.releaseLease ip)

/-! ### What the API leaves alone -/

section Api

variable (server : AddressServer)

theorem keepOnError_putStatic_leases (binding : StaticBinding) :
    (keepOnError server (server.putStatic binding)).leases = server.leases := by
  unfold AddressServer.putStatic
  split
  · rfl
  · split <;> rfl

theorem keepOnError_replaceStatics_leases (bindings : List StaticBinding) :
    (keepOnError server (server.replaceStatics bindings)).leases = server.leases := by
  unfold AddressServer.replaceStatics
  split <;> rfl

theorem keepOnError_deleteStatic_leases (id : String) :
    (keepOnError server (server.deleteStatic id)).leases = server.leases := by
  unfold AddressServer.deleteStatic
  dsimp only
  split <;> rfl

theorem keepOnError_releaseLease_leases (ip : Addr) :
    (keepOnError server (server.releaseLease ip)).leases = (server.leases.release ip).2 := by
  unfold AddressServer.releaseLease LeaseTable.release
  cases server.leases.entry ip with
  | none => rfl
  | some lease => rfl

theorem stepWith_leases {Message : Type}
    (handle : Env → RangeOrders → Int → AddressServer → Ingress → Handled Message)
    (input : Input) :
    (stepWith handle server input).leases =
      match input.event with
      | .frame pkt => (handle input.env input.orders input.now server pkt).server.leases
      | .sweep => server.leases.expireSweep input.now
      | .releaseLease ip => (server.leases.release ip).2
      | _ => server.leases := by
  unfold stepWith
  cases input.event with
  | frame pkt => rfl
  | sweep => rfl
  | putStatic binding => exact keepOnError_putStatic_leases server binding
  | replaceStatics bindings => exact keepOnError_replaceStatics_leases server bindings
  | deleteStatic id => exact keepOnError_deleteStatic_leases server id
  | releaseLease ip => exact keepOnError_releaseLease_leases server ip

theorem stepWith_cfg {Message : Type}
    (handle : Env → RangeOrders → Int → AddressServer → Ingress → Handled Message)
    (frames : ∀ env orders now pkt, (handle env orders now server pkt).server.cfg = server.cfg)
    (input : Input) : (stepWith handle server input).cfg = server.cfg := by
  unfold stepWith
  cases input.event with
  | frame pkt => exact frames _ _ _ pkt
  | sweep => rfl
  | putStatic binding =>
      dsimp only
      unfold AddressServer.putStatic
      split
      · rfl
      · split <;> rfl
  | replaceStatics bindings =>
      dsimp only
      unfold AddressServer.replaceStatics
      split <;> rfl
  | deleteStatic id =>
      dsimp only
      unfold AddressServer.deleteStatic
      dsimp only
      split <;> rfl
  | releaseLease ip =>
      dsimp only
      unfold AddressServer.releaseLease
      split <;> rfl

end Api

end BridgeDhcp.Server
