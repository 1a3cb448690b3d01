/-
Which static binding a client gets, and when its reservation is refused.

`matchBinding` looks at a list that was made by ranging over a map.  Its loop keeps the
first of the best matches, so its result is independent of the order exactly when no two
bindings tie for best.
-/

import BridgeDhcp.FirstBest
import BridgeDhcp.Server.LeaseUniqueness

set_option autoImplicit false

namespace BridgeDhcp.Server

open GoMap Netip StepRun FirstBest

/-! ### The loop of `matchBinding` -/

def meets (mac clientID : String) (binding : StaticBinding) : Bool :=
  (bindingScore binding mac clientID).isSome

def matchRank (mac clientID : String) (binding : StaticBinding) : Nat ×ₗ Int :=
  toLex ((bindingScore binding mac clientID).getD 0, binding.order)

theorem meets_iff (mac clientID : String) (binding : StaticBinding) :
    meets mac clientID binding = true ↔
      ∃ points, bindingScore binding mac clientID = some points :=
  Option.isSome_iff_exists

theorem considerBinding_eq_keepScored (mac clientID : String) :
    considerBinding mac clientID =
      keepScored (fun binding => bindingScore binding mac clientID) StaticBinding.order := by
  funext best binding
  unfold considerBinding keepScored
  dsimp only
  cases bindingScore binding mac clientID with
  | none => rfl
  | some points =>
      cases best with
      | none => rfl
      | some held => exact if_congr Iff.rfl rfl rfl

theorem matchBinding_eq_firstBest (bindings : List StaticBinding) (mac clientID : String) :
    matchBinding bindings mac clientID =
      firstBest (meets mac clientID) (matchRank mac clientID) bindings := by
  unfold matchBinding
  rw [considerBinding_eq_keepScored]
  exact foldl_keepScored_eq_firstBest StaticBinding.order 0 bindings

theorem matchRank_le_iff {mac clientID : String} {other binding : StaticBinding}
    {points score : Nat} (otherScore : bindingScore other mac clientID = some points)
    (own : bindingScore binding mac clientID = some score) :
    matchRank mac clientID other ≤ matchRank mac clientID binding ↔
      points < score ∨ (points = score ∧ other.order ≤ binding.order) :=
  @scoreRank_le_iff StaticBinding Nat Int _ _ (fun item => bindingScore item mac clientID)
    StaticBinding.order 0 other binding points score otherScore own

/-! ### The best match -/

structure Matches (mac clientID : String) (binding : StaticBinding) : Prop where
  conditional : binding.mac ≠ none ∨ binding.clientID ≠ none
  sameMac : ∀ wanted, binding.mac = some wanted → equalFold wanted mac = true
  sameClientID : ∀ wanted, binding.clientID = some wanted → equalFold wanted clientID = true

def conditions (binding : StaticBinding) : Nat :=
  binding.mac.toList.length + binding.clientID.toList.length

theorem conditionScore_eq_some_iff (condition : Option String) (actual : String) (points : Nat) :
    conditionScore condition actual = some points ↔
      (∀ wanted, condition = some wanted → equalFold wanted actual = true) ∧
        condition.toList.length = points := by
  cases condition with
  | none => simp [conditionScore]
  | some wanted =>
      unfold conditionScore
      by_cases same : equalFold wanted actual = true
      · simp [same]
      · simp [same]

theorem bindingScore_eq_some_iff (mac clientID : String) (binding : StaticBinding) (points : Nat) :
    bindingScore binding mac clientID = some points ↔
      Matches mac clientID binding ∧ conditions binding = points := by
  have counted : conditions binding = 0 ↔ ¬ (binding.mac ≠ none ∨ binding.clientID ≠ none) := by
    unfold conditions
    cases binding.mac <;> cases binding.clientID <;> simp
  constructor
  · intro found
    unfold bindingScore at found
    split at found
    · rename_i first second firstScore secondScore
      obtain ⟨sameMac, firstPoints⟩ := (conditionScore_eq_some_iff _ _ _).mp firstScore
      obtain ⟨sameClientID, secondPoints⟩ := (conditionScore_eq_some_iff _ _ _).mp secondScore
      have total : first + second = conditions binding := by rw [← firstPoints, ← secondPoints]; rfl
      rw [total] at found
      split at found
      · cases found
      · next some_ =>
          cases found
          exact ⟨⟨not_not.mp (fun bare => some_ (counted.mpr bare)), sameMac, sameClientID⟩, rfl⟩
    · cases found
  · rintro ⟨matched, rfl⟩
    have first := (conditionScore_eq_some_iff binding.mac mac _).mpr ⟨matched.sameMac, rfl⟩
    have second := (conditionScore_eq_some_iff binding.clientID clientID _).mpr
      ⟨matched.sameClientID, rfl⟩
    unfold bindingScore
    rw [first, second]
    exact if_neg (fun bare => counted.mp bare matched.conditional)

theorem meets_iff_matches (mac clientID : String) (binding : StaticBinding) :
    meets mac clientID binding = true ↔ Matches mac clientID binding := by
  rw [meets_iff]
  constructor
  · intro scored
    obtain ⟨points, found⟩ := scored
    exact ((bindingScore_eq_some_iff mac clientID binding points).mp found).1
  · intro matched
    exact ⟨conditions binding, (bindingScore_eq_some_iff mac clientID binding _).mpr ⟨matched, rfl⟩⟩

/-- For every list of bindings and every client, `matchBinding` returns none exactly
if no binding matches; what it returns is listed, matches, and is outdone by no other
match in the number of conditions and then the order. -/
theorem matchBinding_picks_best (bindings : List StaticBinding) (mac clientID : String) :
    (matchBinding bindings mac clientID = none ↔
      ∀ binding ∈ bindings, ¬ Matches mac clientID binding) ∧
    ∀ picked, matchBinding bindings mac clientID = some picked →
      picked ∈ bindings ∧ Matches mac clientID picked ∧
        ∀ other ∈ bindings, Matches mac clientID other →
          conditions other < conditions picked ∨
            (conditions other = conditions picked ∧ other.order ≤ picked.order) := by
  simp only [← meets_iff_matches, Bool.not_eq_true, matchBinding_eq_firstBest]
  refine ⟨firstBest_eq_none_iff _ _ bindings, ?_⟩
  intro picked found
  have best := firstBest_isBest found
  refine ⟨best.listed, best.counts, ?_⟩
  intro other member counts
  have score {binding : StaticBinding} (met : meets mac clientID binding = true) :
      bindingScore binding mac clientID = some (conditions binding) :=
    (bindingScore_eq_some_iff mac clientID binding _).mpr
      ⟨(meets_iff_matches mac clientID binding).mp met, rfl⟩
  exact (matchRank_le_iff (score counts) (score best.counts)).mp (best.top other member counts)

/-! ### Ties -/

structure BestMatch (statics : Map String StaticBinding) (mac clientID : String)
    (binding : StaticBinding) : Prop where
  stored : ∃ id, statics.lookup id = some binding
  best : ∃ score, bindingScore binding mac clientID = some score ∧
    ∀ id other points, statics.lookup id = some other →
      bindingScore other mac clientID = some points →
      points < score ∨ (points = score ∧ other.order ≤ binding.order)

theorem bestMatch_iff_isBest (statics : Map String StaticBinding) (mac clientID : String)
    (binding : StaticBinding) :
    BestMatch statics mac clientID binding ↔
      IsBest (meets mac clientID) (matchRank mac clientID) (values statics) binding := by
  constructor
  · intro best
    obtain ⟨score, own, top⟩ := best.best
    refine ⟨(mem_values_iff statics binding).mpr best.stored,
      (meets_iff mac clientID binding).mpr ⟨score, own⟩, ?_⟩
    intro other member counts
    obtain ⟨id, found⟩ := (mem_values_iff statics other).mp member
    obtain ⟨points, otherScore⟩ := (meets_iff mac clientID other).mp counts
    exact (matchRank_le_iff otherScore own).mpr (top id other points found otherScore)
  · intro best
    obtain ⟨score, own⟩ := (meets_iff mac clientID binding).mp best.counts
    refine ⟨(mem_values_iff statics binding).mp best.listed, score, own, ?_⟩
    intro id other points found otherScore
    apply (matchRank_le_iff otherScore own).mp
    exact best.top other ((mem_values_iff statics other).mpr ⟨id, found⟩)
      ((meets_iff mac clientID other).mpr ⟨points, otherScore⟩)

theorem map_matchBinding_perm_iff {Reading : Type} (statics : Map String StaticBinding)
    (mac clientID : String) (read : StaticBinding → Reading) :
    (∀ one other : List StaticBinding, one.Perm (values statics) → other.Perm (values statics) →
        (matchBinding one mac clientID).map read = (matchBinding other mac clientID).map read) ↔
      ∀ first second, BestMatch statics mac clientID first →
        BestMatch statics mac clientID second → read first = read second := by
  simp only [matchBinding_eq_firstBest, bestMatch_iff_isBest]
  exact firstBest_perm_iff (values statics) read

/-- For every accepted set and client, `matchBinding` returns the same binding for
every order of the list exactly if no two bindings tie for best, and it leads to
the same offset exactly if those that tie have the same offset. -/
theorem matchBinding_order_free_iff (statics : StaticSet) (mac clientID : String) :
    ((∀ one other : List StaticBinding, one.Perm (values statics.bindings) →
        other.Perm (values statics.bindings) →
        matchBinding one mac clientID = matchBinding other mac clientID) ↔
      ∀ first second, BestMatch statics.bindings mac clientID first →
        BestMatch statics.bindings mac clientID second → first = second) ∧
    ((∀ one other : List StaticBinding, one.Perm (values statics.bindings) →
        other.Perm (values statics.bindings) →
        (matchBinding one mac clientID).map StaticBinding.offset =
          (matchBinding other mac clientID).map StaticBinding.offset) ↔
      ∀ first second, BestMatch statics.bindings mac clientID first →
        BestMatch statics.bindings mac clientID second → first.offset = second.offset) := by
  constructor
  · have same := map_matchBinding_perm_iff statics.bindings mac clientID id
    simpa only [Option.map_id, id] using same
  · exact map_matchBinding_perm_iff statics.bindings mac clientID StaticBinding.offset

/-- Another binding for the machine of `sampleBinding`, with the same order. -/
def rivalBinding : StaticBinding := { sampleBinding with id := "rival", offset := 201 }

def rivalOrders : RangeOrders where
  statics := RangeOrder.reversed
  leases := RangeOrder.stored

/-- Two bindings name one machine.  The API accepts both, `matchBinding` picks
whichever is listed first, and of two selections without any change between them
one gives 192.168.50.201 and the other 192.168.50.200. -/
theorem matchBinding_depends_on_order :
    ((sampleServer.putStatic sampleBinding).bind (·.putStatic rivalBinding)).isOk = true ∧
    (sampleServer.replaceStatics [sampleBinding, rivalBinding]).isOk = true ∧
    [sampleBinding, rivalBinding].Perm [rivalBinding, sampleBinding] ∧
    matchBinding [sampleBinding, rivalBinding] "02:00:00:00:00:42" "" = some sampleBinding ∧
    matchBinding [rivalBinding, sampleBinding] "02:00:00:00:00:42" "" = some rivalBinding ∧
    sampleBinding.offset ≠ rivalBinding.offset ∧
    (Except.map (fun server : AddressServer =>
        ((selectIP server.cfg server.statics.bindings server.leases storedOrders 0 samplePrefix4
            (sampleRequest4 1 [2, 0, 0, 0, 0, 0x42] [0, 0, 0, 0] none)).1,
          (selectIP server.cfg server.statics.bindings server.leases rivalOrders 0 samplePrefix4
            (sampleRequest4 1 [2, 0, 0, 0, 0, 0x42] [0, 0, 0, 0] none)).1))
      (sampleServer.replaceStatics [sampleBinding, rivalBinding])).toOption =
        some (.v4 0xc0a832c9, .v4 0xc0a832c8) := by
  refine ⟨by decide, by decide, List.Perm.swap _ _ [], by decide, by decide, by decide, ?_⟩
  decide +kernel

/-! ### A reservation and its own client -/

/-- The address has an active lease of a client that the binding does not match. -/
def HeldByStranger (table : LeaseTable) (now : Int) (binding : StaticBinding) (ip : Addr) : Prop :=
  ∃ lease, table.entry ip = some lease ∧ lease.expired now = false ∧
    meets lease.mac lease.clientID binding = false

/-- The reserved address is returned unless a stranger holds it. -/
def Honoured (table : LeaseTable) (now : Int) (binding : StaticBinding) (ip result : Addr) : Prop :=
  result = ip ∨ HeldByStranger table now binding ip

/-- No client of the binding holds the address under another identity. -/
def OneIdentity (table : LeaseTable) (now : Int) (binding : StaticBinding) (ip : Addr)
    (client : Applicant) : Prop :=
  ∀ lease, table.entry ip = some lease → lease.expired now = false →
    meets lease.mac lease.clientID binding = true → lease.key = client.key

section Reserved

variable {cfg : PoolConfig} {statics : Map String StaticBinding} {table : LeaseTable}
  {orders : RangeOrders} {now : Int} {served : Prefix} {client : Applicant}
  {requested : Option Addr} {binding : StaticBinding}

theorem selectAddress_of_binding
    (picks : matchBinding (listBindings statics orders) client.mac client.clientID = some binding)
    (inside : (addrAtOffset served binding.offset).isValid = true) :
    (selectAddress cfg statics table orders now served client requested).1 =
      if table.inUse now (addrAtOffset served binding.offset) client.mac client.clientID then .invalid
      else addrAtOffset served binding.offset := by
  have reservation : reservedFor served (listBindings statics orders) client =
      addrAtOffset served binding.offset := by
    unfold reservedFor
    rw [picks]
  rw [selectAddress_eq, reservation, if_pos inside]
  split
  · rfl
  · rfl

theorem honoured_iff
    (picks : matchBinding (listBindings statics orders) client.mac client.clientID = some binding)
    (inside : (addrAtOffset served binding.offset).isValid = true) :
    Honoured table now binding (addrAtOffset served binding.offset)
        (selectAddress cfg statics table orders now served client requested).1 ↔
      OneIdentity table now binding (addrAtOffset served binding.offset) client := by
  rw [selectAddress_of_binding picks inside]
  by_cases free : table.inUse now (addrAtOffset served binding.offset) client.mac client.clientID =
      false
  · rw [free, if_neg Bool.false_ne_true]
    constructor
    · intro _ lease found active _
      exact (LeaseTable.inUse_eq_false_iff table now _ client.mac client.clientID).mp free lease
        found active
    · intro _
      exact Or.inl rfl
  · rw [eq_true_of_ne_false free, if_pos rfl]
    constructor
    · intro honoured lease found active matched
      rcases honoured with same | ⟨other, there, _, stranger⟩
      · rw [← same] at inside
        cases inside
      · rw [found] at there
        cases there
        rw [stranger] at matched
        cases matched
    · intro one
      right
      -- somebody else's lease is there, so it cannot be one of the binding's clients
      by_contra nobody
      apply free
      rw [LeaseTable.inUse_eq_false_iff]
      intro lease found active
      apply one lease found active
      by_contra stranger
      exact nobody ⟨lease, found, active, Bool.eq_false_iff.mpr stranger⟩

end Reserved

/-- In every state, a client whose binding resolves inside the prefix gets its
reserved address or finds it held by a stranger, exactly if no client that the
binding matches holds the address under an identity other than this one. -/
theorem reservation_honoured_iff (server : AddressServer) (orders : RangeOrders) (now : Int)
    (served : Prefix) (binding : StaticBinding)
    (inside : (addrAtOffset served binding.offset).isValid = true) :
    (∀ request : DHCPv4,
      matchBinding (listBindings server.statics.bindings orders) (applicant4 request).mac
        (applicant4 request).clientID = some binding →
      (Honoured server.leases now binding (addrAtOffset served binding.offset)
          (selectIP server.cfg server.statics.bindings server.leases orders now served request).1 ↔
        OneIdentity server.leases now binding (addrAtOffset served binding.offset)
          (applicant4 request))) ∧
    (∀ client : Applicant,
      matchBinding (listBindings server.statics.bindings orders) client.mac client.clientID =
        some binding →
      (Honoured server.leases now binding (addrAtOffset served binding.offset)
          (selectIP6 server.cfg server.statics.bindings server.leases orders now served client).1 ↔
        OneIdentity server.leases now binding (addrAtOffset served binding.offset) client)) := by
  constructor
  · intro request picks
    exact honoured_iff picks inside
  · intro client picks
    exact honoured_iff picks inside

/-- A server that has reserved 192.168.50.200 and fd50::c8 for one machine. -/
def reservingServer : AddressServer :=
  run (step4 sampleLibrary4) sampleServer [sampleEdit 0 (.putStatic sampleBinding)]

/-- Another client has an address of the pool, and the machine gets its own from both. -/
theorem reservation_honoured_beside_other :
    let four := run (step4 sampleLibrary4) reservingServer
      [sampleFrame4 0 1 [2, 0, 0, 0, 0, 0x43] [0, 0, 0, 0] []]
    let six := run (step6 sampleLibrary6) reservingServer [sampleFrame6 0 1 [2, 0, 0, 0, 0, 0x43]]
    Honoured four.leases 0 sampleBinding (.v4 0xc0a832c8)
      (selectIP four.cfg four.statics.bindings four.leases storedOrders 0 samplePrefix4
        (sampleRequest4 1 [2, 0, 0, 0, 0, 0x42] [0, 0, 0, 0] none)).1 ∧
    Honoured six.leases 0 sampleBinding (.v6 (0xfd50 <<< 112 + 200))
      (selectIP6 six.cfg six.statics.bindings six.leases storedOrders 0 samplePrefix6
        (sampleClient [2, 0, 0, 0, 0, 0x42])).1 := by
  intro four six
  have free4 : four.leases.entry (.v4 0xc0a832c8) = none := by decide +kernel
  have free6 : six.leases.entry (.v6 (0xfd50 <<< 112 + 200)) = none := by decide +kernel
  constructor
  · apply ((reservation_honoured_iff four storedOrders 0 samplePrefix4 sampleBinding
      (by decide)).1 _ (by decide +kernel)).mpr
    intro lease found
    exact absurd (free4.symm.trans found) nofun
  · apply ((reservation_honoured_iff six storedOrders 0 samplePrefix6 sampleBinding
      (by decide)).2 _ (by decide +kernel)).mpr
    intro lease found
    exact absurd (free6.symm.trans found) nofun

def discoveredServer : AddressServer :=
  run (step4 sampleLibrary4) reservingServer
    [sampleFrame4 1 1 [2, 0, 0, 0, 0, 0x42] [0, 0, 0, 0] []]

def solicitedServer : AddressServer :=
  run (step6 sampleLibrary6) reservingServer [sampleFrame6 1 1 [2, 0, 0, 0, 0, 0x42]]

/-- The machine under another operating system, which sends a client identifier. -/
def rebootedRequest : DHCPv4 :=
  { sampleRequest4 1 [2, 0, 0, 0, 0, 0x42] [0, 0, 0, 0] none with clientIdentifier := [1, 2] }

def rebootedClient : Applicant :=
  { sampleClient [2, 0, 0, 0, 0, 0x42] with clientID := "0004" }

/-- A machine is reserved by its hardware address alone and gets its address.  As
soon as it changes its client identifier it is refused that address, because of
the lease it took itself, although its binding matches both. -/
theorem reservation_blocked_by_own_client :
    (matchBinding (listBindings discoveredServer.statics.bindings storedOrders)
        (applicant4 rebootedRequest).mac (applicant4 rebootedRequest).clientID =
      some sampleBinding ∧
    (addrAtOffset samplePrefix4 sampleBinding.offset).isValid = true ∧
    (selectIP discoveredServer.cfg discoveredServer.statics.bindings discoveredServer.leases
      storedOrders 2 samplePrefix4 rebootedRequest).1 = .invalid ∧
    ¬ Honoured discoveredServer.leases 2 sampleBinding
      (addrAtOffset samplePrefix4 sampleBinding.offset)
      (selectIP discoveredServer.cfg discoveredServer.statics.bindings discoveredServer.leases
        storedOrders 2 samplePrefix4 rebootedRequest).1) ∧
    (matchBinding (listBindings solicitedServer.statics.bindings storedOrders)
        rebootedClient.mac rebootedClient.clientID = some sampleBinding ∧
    (addrAtOffset samplePrefix6 sampleBinding.offset).isValid = true ∧
    (selectIP6 solicitedServer.cfg solicitedServer.statics.bindings solicitedServer.leases
      storedOrders 2 samplePrefix6 rebootedClient).1 = .invalid ∧
    ¬ Honoured solicitedServer.leases 2 sampleBinding
      (addrAtOffset samplePrefix6 sampleBinding.offset)
      (selectIP6 solicitedServer.cfg solicitedServer.statics.bindings solicitedServer.leases
        storedOrders 2 samplePrefix6 rebootedClient).1) := by
  constructor
  · refine ⟨by decide +kernel, by decide, by decide +kernel, ?_⟩
    unfold selectIP
    rw [honoured_iff (by decide +kernel) (by decide)]
    intro one
    have same := one
      { draftLease sampleConfig 1 (applicant4
          (sampleRequest4 1 [2, 0, 0, 0, 0, 0x42] [0, 0, 0, 0] none)) with
        ip := .v4 0xc0a832c8
        static := true } (by decide +kernel) (by decide) (by decide)
    exact absurd same (by decide)
  · refine ⟨by decide +kernel, by decide, by decide +kernel, ?_⟩
    unfold selectIP6
    rw [honoured_iff (by decide +kernel) (by decide)]
    intro one
    have same := one
      { draftLease sampleConfig 1 (sampleClient [2, 0, 0, 0, 0, 0x42]) with
        ip := .v6 (0xfd50 <<< 112 + 200)
        static := true } (by decide +kernel) (by decide) (by decide)
    exact absurd same (by decide)

end BridgeDhcp.Server
