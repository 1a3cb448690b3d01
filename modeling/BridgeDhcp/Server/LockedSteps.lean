/-
The steps of the interrupted handlers.

A selection checks an address under one lock and books it under another.  What keeps two
clients apart in between is that the reader is the only goroutine that books: the
sweeper and the API take entries away, so an address that was free for a client when it
was checked is still free for it when it is booked.
-/

import BridgeDhcp.Server.ClientNoninterference
import BridgeDhcp.Server.LockedHandlers

set_option autoImplicit false

namespace BridgeDhcp.Server

open GoMap Netip Packet StepRun Interaction

/-! ### What the other goroutines do -/

section Others

variable {Message : Type}

theorem stepWith_handlesNone_entry (server : AddressServer) (input : Input) (ip : Addr) :
    (stepWith handlesNone server input).leases.entry ip = server.leases.entry ip ∨
      (stepWith handlesNone server input).leases.entry ip = none := by
  rw [stepWith_leases]
  cases input.event with
  | sweep =>
      dsimp only
      rw [LeaseTable.entry_expireSweep]
      cases server.leases.entry ip with
      | none => exact Or.inl rfl
      | some lease =>
          rw [Option.filter_some]
          split
          · exact Or.inl rfl
          · exact Or.inr rfl
  | releaseLease target =>
      dsimp only
      rw [LeaseTable.entry_release]
      split
      · exact Or.inr rfl
      · exact Or.inl rfl
  | _ => exact Or.inl rfl

theorem serverFound_entry (world : ServerWorld Message) (moment : Moment) (ip : Addr) :
    (serverFound world moment).leases.entry ip = world.server.leases.entry ip ∨
      (serverFound world moment).leases.entry ip = none := by
  apply run_invariant (stepWith handlesNone)
    (fun server => server.leases.entry ip = world.server.leases.entry ip ∨
      server.leases.entry ip = none) (fun _ _ => True)
  · intro server input _ fewer
    rcases stepWith_handlesNone_entry server input ip with same | gone
    · rw [same]
      exact fewer
    · exact Or.inr gone
  · exact Or.inl rfl
  · intro before input after split
    trivial

theorem inUse_serverFound {world : ServerWorld Message} {moment : Moment} {ip : Addr}
    {mac clientID : String} (later : world.now ≤ moment.now)
    (free : world.server.leases.inUse world.now ip mac clientID = false) :
    (serverFound world moment).leases.inUse moment.now ip mac clientID = false := by
  rw [LeaseTable.inUse_eq_false_iff] at free ⊢
  intro lease present active
  rcases serverFound_entry world moment ip with same | gone
  · apply free lease (same ▸ present)
    rw [Lease.expired_eq_false_iff] at active ⊢
    exact Int.le_trans later active
  · rw [gone] at present
    cases present

theorem LeaseTable.inUse_of_byClient {table : LeaseTable} {order : RangeOrder Lease} {now : Int}
    {mac clientID : String} {lease : Lease}
    (answered : table.byClient order now mac clientID = some lease) :
    table.inUse now lease.ip mac clientID = false := by
  obtain ⟨present, own, _⟩ := LeaseTable.byClient_some answered
  rw [LeaseTable.inUse_eq_false_iff]
  intro holder same _
  rw [present] at same
  cases same
  exact own

end Others

/-! ### One step -/

section Steps

variable {Message : Type}

abbrev LockedStep (Message : Type) := Step (ServerWorld Message) Moment (LockedOp Message)

def tableFound (step : LockedStep Message) : LeaseTable :=
  (serverFound step.world step.input).leases

def tableLeft (step : LockedStep Message) : LeaseTable :=
  (step.op.apply (serverFound step.world step.input) step.input).2

def LockedOp.stored (server : AddressServer) (moment : Moment) : LockedOp Message → Option Lease
  | .set lease => some lease
  | .allocate start stop skip lease =>
      let ip := (server.leases.allocate moment.now start stop skip lease).1
      if ip.isValid then some { lease with ip := ip } else none
  | _ => none

def storedBy (step : LockedStep Message) : Option Lease :=
  step.op.stored (serverFound step.world step.input) step.input

theorem tableLeft_of_stored {step : LockedStep Message} {lease : Lease}
    (stores : storedBy step = some lease) : tableLeft step = (tableFound step).set lease := by
  obtain ⟨world, moment, op⟩ := step
  cases op with
  | set booked =>
      cases stores
      rfl
  | allocate start stop skip draft =>
      dsimp only [storedBy, LockedOp.stored] at stores
      split at stores
      · rename_i valid
        cases stores
        exact (LeaseTable.allocate_sound valid).1
      · cases stores
  | _ => cases stores

def LockedOp.receives : LockedOp Message → Bool
  | .receive => true
  | _ => false

/-- The steps, the latest first, since the frame in hand was read. -/
def sinceReceipt (past : List (LockedStep Message)) : List (LockedStep Message) :=
  past.takeWhile (fun step => !step.op.receives)

theorem sinceReceipt_cons {step : LockedStep Message} (keeps : step.op.receives = false)
    (past : List (LockedStep Message)) :
    sinceReceipt (step :: past) = step :: sinceReceipt past := by
  unfold sinceReceipt
  rw [List.takeWhile_cons, keeps]
  rfl

/-- Some step since the frame in hand was read has stored the lease. -/
def Booked (lease : Lease) (past : List (LockedStep Message)) : Prop :=
  ∃ step ∈ sinceReceipt past, storedBy step = some lease

theorem Booked.now {step : LockedStep Message} {lease : Lease}
    (stores : storedBy step = some lease) (past : List (LockedStep Message)) :
    Booked lease (step :: past) := by
  refine ⟨step, ?_, stores⟩
  have keeps : step.op.receives = false := by
    obtain ⟨world, moment, op⟩ := step
    cases op with
    | receive => cases stores
    | _ => rfl
  rw [sinceReceipt_cons keeps]
  exact List.mem_cons_self

theorem Booked.later {lease : Lease} {past : List (LockedStep Message)}
    (booked : Booked lease past) (step : LockedStep Message) (keeps : step.op.receives = false) :
    Booked lease (step :: past) := by
  obtain ⟨earlier, member, stores⟩ := booked
  refine ⟨earlier, ?_, stores⟩
  rw [sinceReceipt_cons keeps]
  exact List.mem_cons_of_mem step member

/-- A lease for the client at the address that lasts one lease time from the instant on. -/
structure Granted (cfg : PoolConfig) (client : Applicant) (since : Int) (ip : Addr)
    (lease : Lease) : Prop where
  address : lease.ip = ip
  key : lease.key = client.key
  lasts : since + cfg.leaseTime ≤ lease.expiry

/-- All that the handling of a client's request does to the table, unless the
request gives an address up. -/
inductive Deed (cfg : PoolConfig) (client : Applicant) (since : Int)
    (step : LockedStep Message) : Prop
  | reads (same : tableLeft step = tableFound step)
  | books (ip : Addr) (lease : Lease) (stores : storedBy step = some lease)
      (granted : Granted cfg client since ip lease)
      (free : (tableFound step).inUse step.input.now ip client.mac client.clientID = false)

def Silent (cfg : PoolConfig) (client : Applicant) (since : Int) (step : LockedStep Message) :
    Prop :=
  Deed cfg client since step ∧ step.op.frames = []

section Calls

variable {Good : List (LockedStep Message) → LockedStep Message → Prop} {op : LockedOp Message}
  {world : ServerWorld Message} {past : List (LockedStep Message)}

theorem traces_call {Value : Type}
    {post : Value → ServerWorld Message → List (LockedStep Message) → Prop}
    {next : op.Answer → Handler Message Value}
    (step : ∀ moment, world.now ≤ moment.now → Good past ⟨world, moment, op⟩ ∧
      Traces locked ClockForward Good (next (op.apply (serverFound world moment) moment).1) post
        (proceed world moment op) (⟨world, moment, op⟩ :: past)) :
    Traces locked ClockForward Good (call op >>= next) post world past := by
  intro moment later answer after handled
  cases handled
  exact step moment later

theorem traces_last {post : op.Answer → ServerWorld Message → List (LockedStep Message) → Prop}
    (step : ∀ moment, world.now ≤ moment.now → Good past ⟨world, moment, op⟩ ∧
      post (op.apply (serverFound world moment) moment).1 (proceed world moment op)
        (⟨world, moment, op⟩ :: past)) :
    Traces locked ClockForward Good (call op) post world past := by
  intro moment later answer after handled
  cases handled
  exact step moment later

end Calls

end Steps

/-! ### The steps of a selection -/

section Selecting

variable {Message : Type} {cfg : PoolConfig} {served : Prefix} {client : Applicant}
  {requested : Option Addr} {since : Int} {lease : Lease} {reserved : List Addr}
  {past : List (LockedStep Message)}

/-- A selection that returns an address has booked it, and the client has it. -/
def Selected (cfg : PoolConfig) (client : Applicant) (since : Int) (ip : Addr)
    (world : ServerWorld Message) (past : List (LockedStep Message)) : Prop :=
  ip.isValid = true → ∃ lease, Granted cfg client since ip lease ∧ Booked lease past ∧
    world.server.leases.entry ip = some lease

/-- The draft of a lease for the client, wherever it will be stored. -/
def Drafted (cfg : PoolConfig) (client : Applicant) (since : Int) (lease : Lease) : Prop :=
  lease.key = client.key ∧ since + cfg.leaseTime ≤ lease.expiry

theorem Drafted.granted (drafted : Drafted cfg client since lease) (ip : Addr) (static : Bool) :
    Granted cfg client since ip { lease with ip := ip, static := static } :=
  ⟨rfl, drafted.1, drafted.2⟩

theorem draftLease_drafted {now : Int} (later : since ≤ now) :
    Drafted cfg client since (draftLease cfg now client) := by
  refine ⟨rfl, ?_⟩
  unfold draftLease
  dsimp only
  omega

theorem bookUnless_traces {world : ServerWorld Message} {ip : Addr} {taken : Bool}
    {otherwise : Handler Message Addr}
    (refuses : Traces locked ClockForward (fun _ => Silent cfg client since) otherwise
      (Selected cfg client since) world past)
    (granted : Granted cfg client since ip lease)
    (free : taken = false →
      world.server.leases.inUse world.now ip client.mac client.clientID = false) :
    Traces locked ClockForward (fun _ => Silent cfg client since) (bookUnless taken otherwise lease)
      (Selected cfg client since) world past := by
  cases taken with
  | true => exact refuses
  | false =>
      apply traces_call
      intro moment later
      refine ⟨⟨Deed.books ip lease rfl granted (inUse_serverFound later (free rfl)), rfl⟩, ?_⟩
      intro _
      refine ⟨lease, ⟨rfl, granted.key, granted.lasts⟩, Booked.now rfl _, ?_⟩
      exact LeaseTable.entry_set_self _ lease

theorem selected_invalid (world : ServerWorld Message) :
    Traces locked ClockForward (fun _ => Silent cfg client since) (.ret .invalid : Handler Message Addr)
      (Selected cfg client since) world past := by
  intro impossible
  cases impossible

theorem allocateLocked_traces {world : ServerWorld Message}
    (drafted : Drafted cfg client since lease) :
    Traces locked ClockForward (fun _ => Silent cfg client since)
      (allocateLocked cfg served reserved lease : Handler Message Addr)
      (Selected cfg client since) world past := by
  apply traces_last
  intro moment later
  let start := addrAtOffset served cfg.poolOffsetStart
  let stop := addrAtOffset served cfg.poolOffsetEnd
  let skip : Addr → Bool := fun ip => ip == served.addr || reserved.contains ip
  let table := (serverFound world moment).leases
  cases result : (table.allocate moment.now start stop skip lease).1.isValid with
  | false =>
      have failed := LeaseTable.allocate_failed result
      refine ⟨⟨Deed.reads (congrArg Prod.snd failed), rfl⟩, ?_⟩
      intro valid
      exact absurd valid (Bool.eq_false_iff.mp result)
  | true =>
      obtain ⟨stored, _, _, _, free⟩ := LeaseTable.allocate_sound result
      have granted := drafted.granted (table.allocate moment.now start stop skip lease).1
        lease.static
      have stores : storedBy (⟨world, moment, .allocate start stop skip lease⟩ :
          LockedStep Message) = some { lease with
            ip := (table.allocate moment.now start stop skip lease).1 } := if_pos result
      refine ⟨⟨Deed.books _ _ stores granted (LeaseTable.inUse_of_not_occupied free), rfl⟩, ?_⟩
      intro _
      refine ⟨_, granted, Booked.now stores _, ?_⟩
      change (table.allocate moment.now start stop skip lease).2.entry _ = _
      rw [stored]
      exact LeaseTable.entry_set_self table
        { lease with ip := (table.allocate moment.now start stop skip lease).1 }

theorem selectFromPoolLocked_traces {world : ServerWorld Message}
    (drafted : Drafted cfg client since lease) :
    Traces locked ClockForward (fun _ => Silent cfg client since)
      (selectFromPoolLocked cfg served reserved client requested lease : Handler Message Addr)
      (Selected cfg client since) world past := by
  unfold selectFromPoolLocked
  dsimp only
  split
  · exact selected_invalid world
  · cases requested with
    | none => exact allocateLocked_traces drafted
    | some ip =>
        dsimp only
        split
        · apply traces_call
          intro moment later
          refine ⟨⟨Deed.reads rfl, rfl⟩, ?_⟩
          exact bookUnless_traces (allocateLocked_traces drafted)
            (drafted.granted ip lease.static) id
        · exact allocateLocked_traces drafted

theorem selectDynamicLocked_traces {world : ServerWorld Message}
    (drafted : Drafted cfg client since lease) :
    Traces locked ClockForward (fun _ => Silent cfg client since)
      (selectDynamicLocked cfg served reserved client requested lease : Handler Message Addr)
      (Selected cfg client since) world past := by
  apply traces_call
  intro moment later
  refine ⟨⟨Deed.reads rfl, rfl⟩, ?_⟩
  split
  · rename_i current answered
    split
    · apply bookUnless_traces (selected_invalid _) (drafted.granted current.ip lease.static)
      intro _
      exact LeaseTable.inUse_of_byClient answered
    · exact selectFromPoolLocked_traces drafted
  · exact selectFromPoolLocked_traces drafted

theorem selectLocked_traces (cfg : PoolConfig) (served : Prefix) (client : Applicant)
    (requested : Option Addr) {world : ServerWorld Message} (begun : since ≤ world.now) :
    Traces locked ClockForward (fun _ => Silent cfg client since)
      (selectLocked cfg served client requested : Handler Message Addr)
      (Selected cfg client since) world past := by
  apply traces_call
  intro listing listed
  refine ⟨⟨Deed.reads rfl, rfl⟩, ?_⟩
  apply traces_call
  intro reading read
  refine ⟨⟨Deed.reads rfl, rfl⟩, ?_⟩
  have drafted : Drafted cfg client since (draftLease cfg reading.now client) :=
    draftLease_drafted (Int.le_trans begun (Int.le_trans listed read))
  unfold selectAmong
  dsimp only
  split
  · apply traces_call
    intro moment later
    refine ⟨⟨Deed.reads rfl, rfl⟩, ?_⟩
    exact bookUnless_traces (selected_invalid _) (drafted.granted _ true) id
  · exact selectDynamicLocked_traces drafted

end Selecting

/-! ### While a frame is in hand -/

section InHand

variable {Message : Type}

theorem serverFound_cfg (world : ServerWorld Message) (moment : Moment) :
    (serverFound world moment).cfg = world.server.cfg := by
  apply run_invariant (stepWith handlesNone) (fun server => server.cfg = world.server.cfg)
    (fun _ _ => True)
  · intro server input _ same
    rw [← same]
    exact stepWith_cfg server handlesNone (fun _ _ _ _ => rfl) input
  · rfl
  · intro before input after split
    trivial

/-- The configuration is fixed, and the frame stays in hand while it is handled. -/
structure InHand (cfg : PoolConfig) (receipt : Receipt) (world : ServerWorld Message) : Prop where
  configured : world.server.cfg = cfg
  inHand : world.handling = some receipt
  later : receipt.at_ ≤ world.now

theorem InHand.proceed {cfg : PoolConfig} {receipt : Receipt} {world : ServerWorld Message}
    {moment : Moment} (op : LockedOp Message) (keeps : KeepsFrame op)
    (forward : world.now ≤ moment.now) (inHand : InHand cfg receipt world) :
    InHand cfg receipt (proceed world moment op) where
  configured := (serverFound_cfg world moment).trans inHand.configured
  inHand := by
    cases op with
    | receive => exact absurd rfl keeps
    | _ => exact inHand.inHand
  later := Int.le_trans inHand.later forward

theorem traces_inHand {Value : Type}
    {Good : List (LockedStep Message) → LockedStep Message → Prop}
    {post : Value → ServerWorld Message → List (LockedStep Message) → Prop}
    {program : Handler Message Value} {cfg : PoolConfig} {receipt : Receipt}
    {world : ServerWorld Message} {past : List (LockedStep Message)}
    (uses : Uses KeepsFrame program)
    (traces : Traces locked ClockForward Good program post world past)
    (inHand : InHand cfg receipt world) :
    Traces locked ClockForward (fun steps step => Good steps step ∧ InHand cfg receipt step.world)
      program (fun value after steps => post value after steps ∧ InHand cfg receipt after)
      world past := by
  apply traces.within uses _ inHand
  intro state moment op answer after keeps forward handled held
  cases handled
  exact held.proceed op keeps forward

theorem readFrames_traces {Good : List (LockedStep Message) → LockedStep Message → Prop}
    {handleFrame : Ingress → Handler Message Bool} {cfg : PoolConfig}
    {world : ServerWorld Message} {past : List (LockedStep Message)} (fuel : Nat)
    (takes : ∀ steps before moment, Good steps ⟨before, moment, .receive⟩)
    (handles : ∀ receipt before steps, InHand cfg receipt before →
      Traces locked ClockForward Good (handleFrame receipt.frame)
        (fun _ after _ => after.server.cfg = cfg) before steps)
    (configured : world.server.cfg = cfg) :
    Traces locked ClockForward Good (readFrames handleFrame fuel) (fun _ _ _ => True)
      world past := by
  induction fuel generalizing world past with
  | zero => trivial
  | succ fuel ih =>
      apply traces_call
      intro moment later
      refine ⟨takes past world moment, ?_⟩
      apply Traces.bind
      have inHand : InHand cfg ⟨moment.frame, moment.now⟩ (proceed world moment .receive) :=
        ⟨(serverFound_cfg world moment).trans configured, rfl, Int.le_refl _⟩
      apply (handles ⟨moment.frame, moment.now⟩ _ _ inHand).mono
      intro _ after _ stillConfigured
      exact ih stillConfigured

/-- The lease that was booked for the client is still there, or has been taken away. -/
def Told (cfg : PoolConfig) (client : Applicant) (since : Int) (ip : Addr) (table : LeaseTable)
    (past : List (LockedStep Message)) : Prop :=
  ∃ lease, Granted cfg client since ip lease ∧ Booked lease past ∧
    (table.entry ip = some lease ∨ table.entry ip = none)

section Told

variable {cfg : PoolConfig} {client : Applicant} {since : Int} {ip : Addr} {table : LeaseTable}
  {past : List (LockedStep Message)} {world : ServerWorld Message}

theorem Told.fewer {fewer : LeaseTable} (told : Told cfg client since ip table past)
    (entries : fewer.entry ip = table.entry ip ∨ fewer.entry ip = none) :
    Told cfg client since ip fewer past := by
  obtain ⟨lease, granted, booked, present⟩ := told
  refine ⟨lease, granted, booked, ?_⟩
  rcases entries with same | gone
  · rw [same]
    exact present
  · exact Or.inr gone

theorem Told.later (told : Told cfg client since ip table past) (step : LockedStep Message)
    (keeps : step.op.receives = false) : Told cfg client since ip table (step :: past) := by
  obtain ⟨lease, granted, booked, present⟩ := told
  exact ⟨lease, granted, booked.later step keeps, present⟩

theorem Selected.told (selected : Selected cfg client since ip world past)
    (valid : ip.isValid = true) : Told cfg client since ip world.server.leases past := by
  obtain ⟨lease, granted, booked, present⟩ := selected valid
  exact ⟨lease, granted, booked, Or.inl present⟩

end Told

end InHand

/-! ### The steps of the DHCPv4 handler -/

section Handler4

abbrev Step4 := LockedStep DHCPv4

/-- What the handling of a DHCPv4 request does to the table: RELEASE and DECLINE name
the address themselves. -/
inductive Deed4 (cfg : DHCP4Config) (request : DHCPv4) (since : Int) (step : Step4) : Prop
  | common (deed : Deed cfg (applicant4 request) since step)
  | releases (ip : Addr) (typ : request.messageType = .release)
      (names : addrFromSlice (to4 request.clientIPAddr) = some ip) (op : step.op = .release ip)
  | declines (ip : Addr) (now : Int) (typ : request.messageType = .decline)
      (names : requestedAddr request = some ip)
      (op : step.op = .set (declinedLease cfg now ip))

/-- The frames a handler writes: a refusal, or the address booked for the client. -/
inductive Tells4 (lib : Library4) (cfg : DHCP4Config) (request : DHCPv4) (since : Int)
    (past : List Step4) (step : Step4) (frame : UdpFrame DHCPv4) : Prop
  | refuses (env : Env) (served : Prefix) (sent : frame ∈ sendNak lib env served request)
  | grants (env : Env) (served : Prefix) (typ : MessageType4) (ip : Addr)
      (sent : frame ∈ sendReply lib env cfg served request typ ip)
      (told : Told cfg (applicant4 request) since ip (tableFound step) past)
      (asked : typ = .offer ∧ request.messageType = .discover ∨
        typ = .ack ∧ request.messageType = .request ∧ wantedAddr request = some ip)

def Serves4 (lib : Library4) (cfg : DHCP4Config) (request : DHCPv4) (since : Int)
    (past : List Step4) (step : Step4) : Prop :=
  Deed4 cfg request since step ∧
    ∀ frame ∈ step.op.frames, Tells4 lib cfg request since past step frame

variable {lib : Library4} {cfg : DHCP4Config} {served : Prefix} {request : DHCPv4} {since : Int}
  {world : ServerWorld DHCPv4} {past : List Step4}

variable (lib) in
theorem serves4_of_silent {step : Step4} (silent : Silent cfg (applicant4 request) since step) :
    Serves4 lib cfg request since past step := by
  refine ⟨Deed4.common silent.1, ?_⟩
  rw [silent.2]
  intro frame impossible
  cases impossible

theorem transmit4Locked_traces {reply : DHCPv4} {yiaddr : Addr}
    (tells : ∀ reading moment : Moment, ∀ mac : List UInt8, ∀ before : ServerWorld DHCPv4,
      (∀ ip, before.server.leases.entry ip = world.server.leases.entry ip ∨
        before.server.leases.entry ip = none) →
      Tells4 lib cfg request since (⟨world, reading, .hardwareAddr⟩ :: past)
        ⟨before, moment, .write (transmit4 (Env.read mac .invalid) served request reply yiaddr)⟩
        (transmit4 (Env.read mac .invalid) served request reply yiaddr)) :
    Traces locked ClockForward (Serves4 lib cfg request since)
      (transmit4Locked served request reply yiaddr) (fun _ _ _ => True) world past := by
  apply traces_call
  intro reading read
  refine ⟨serves4_of_silent lib ⟨Deed.reads rfl, rfl⟩, ?_⟩
  apply traces_last
  intro moment later
  refine ⟨⟨Deed4.common (Deed.reads rfl), ?_⟩, trivial⟩
  intro frame written
  rw [List.mem_singleton.mp written]
  exact tells reading moment reading.env.mac _ (serverFound_entry world reading)

theorem sendNakLocked_traces :
    Traces locked ClockForward (Serves4 lib cfg request since) (sendNakLocked lib served request)
      (fun _ _ _ => True) world past := by
  unfold sendNakLocked
  split
  · trivial
  · rename_i reply built
    apply transmit4Locked_traces
    intro reading moment mac before _
    apply Tells4.refuses (Env.read mac .invalid) served
    unfold sendNak
    rw [built]
    exact List.mem_singleton_self _

theorem sendReplyLocked_traces {typ : MessageType4} {ip : Addr}
    (told : Told cfg (applicant4 request) since ip world.server.leases past)
    (asked : typ = .offer ∧ request.messageType = .discover ∨
      typ = .ack ∧ request.messageType = .request ∧ wantedAddr request = some ip) :
    Traces locked ClockForward (Serves4 lib cfg request since)
      (sendReplyLocked lib cfg served request typ ip) (fun _ _ _ => True) world past := by
  unfold sendReplyLocked
  split
  · trivial
  · rename_i reply built
    apply transmit4Locked_traces
    intro reading moment mac before fewer
    have still := ((told.fewer (fewer ip)).fewer (serverFound_entry before moment ip)).later
      ⟨world, reading, .hardwareAddr⟩ rfl
    apply Tells4.grants (Env.read mac .invalid) served typ ip _ still asked
    unfold sendReply
    rw [built]
    exact List.mem_singleton_self _

theorem handleRequest4Locked_traces (begun : since ≤ world.now) :
    Traces locked ClockForward (Serves4 lib cfg request since)
      (handleRequest4Locked lib cfg served request) (fun _ _ _ => True) world past := by
  have selects : Traces locked ClockForward (Serves4 lib cfg request since)
      (selectLocked cfg served (applicant4 request) (requestedAddr request))
      (Selected cfg (applicant4 request) since) world past :=
    (selectLocked_traces cfg served (applicant4 request) (requestedAddr request) begun).weaken
      (fun _ step silent => serves4_of_silent lib silent)
  unfold handleRequest4Locked
  cases typ : request.messageType with
  | discover =>
      apply Traces.bind
      apply selects.mono
      intro ip after steps selected
      split
      · rename_i valid
        exact sendReplyLocked_traces (selected.told valid) (Or.inl ⟨rfl, typ⟩)
      · trivial
  | request =>
      dsimp only [replyToRequestLocked]
      cases wants : wantedAddr request with
      | none => exact sendNakLocked_traces
      | some want =>
          apply Traces.bind
          apply selects.mono
          intro got after steps selected
          split
          · exact sendNakLocked_traces
          · rename_i granted
            rw [Bool.or_eq_true, not_or, Bool.not_eq_true', Bool.not_eq_false, bne_iff_ne,
              not_not] at granted
            obtain ⟨valid, same⟩ := granted
            exact sendReplyLocked_traces (selected.told valid)
              (Or.inr ⟨rfl, typ, same ▸ wants⟩)
  | release =>
      dsimp only [handleRelease4Locked]
      cases names : addrFromSlice (to4 request.clientIPAddr) with
      | none => trivial
      | some ip =>
          apply traces_call
          intro moment later
          exact ⟨⟨Deed4.releases ip typ names rfl, nofun⟩, trivial⟩
  | decline =>
      dsimp only [handleDecline4Locked]
      cases names : requestedAddr request with
      | none => trivial
      | some ip =>
          apply traces_call
          intro reading read
          refine ⟨serves4_of_silent lib ⟨Deed.reads rfl, rfl⟩, ?_⟩
          apply traces_last
          intro moment later
          exact ⟨⟨Deed4.declines ip reading.now typ names rfl, nofun⟩, trivial⟩
  | _ => trivial

/-- A step of the reader: it serves the request in hand, or it changes and writes
nothing. -/
inductive Proper4 (lib : Library4) (cfg : DHCP4Config) (past : List Step4) (step : Step4) : Prop
  | idle (same : tableLeft step = tableFound step) (silent : step.op.frames = [])
  | serving (receipt : Receipt) (request : DHCPv4)
      (inHand : step.world.handling = some receipt)
      (decodes : bootRequest lib receipt.frame = some request)
      (serves : Serves4 lib cfg request receipt.at_ past step)

variable (lib) in
theorem answerFrame4Locked_traces {receipt : Receipt} (inHand : InHand cfg receipt world)
    (serving : Option Prefix) :
    Traces locked ClockForward (Proper4 lib cfg)
      (answerFrame4Locked lib receipt.frame cfg serving)
      (fun _ after _ => after.server.cfg = cfg) world past := by
  cases serving with
  | none => exact inHand.configured
  | some served =>
      unfold answerFrame4Locked
      dsimp only
      split
      · exact inHand.configured
      · cases decodes : bootRequest lib receipt.frame with
        | none => exact inHand.configured
        | some request =>
            apply Traces.bind
            have traces : Traces locked ClockForward (Serves4 lib cfg request receipt.at_)
                (handleRequest4Locked lib cfg served request) (fun _ _ _ => True) world past :=
              handleRequest4Locked_traces inHand.later
            have serves := traces_inHand (handleRequest4Locked_uses lib cfg served request) traces
              inHand
            apply (serves.weaken _).mono
            · intro _ after _ done
              exact done.2.configured
            · intro steps step good
              exact Proper4.serving receipt request good.2.inHand decodes good.1

theorem handleFrame4Locked_traces {receipt : Receipt} (inHand : InHand cfg receipt world) :
    Traces locked ClockForward (Proper4 lib cfg) (handleFrame4Locked lib receipt.frame)
      (fun _ after _ => after.server.cfg = cfg) world past := by
  unfold handleFrame4Locked
  split
  · exact inHand.configured
  · apply traces_call
    intro reading read
    refine ⟨Proper4.idle rfl rfl, ?_⟩
    apply traces_call
    intro moment later
    refine ⟨Proper4.idle rfl rfl, ?_⟩
    have known : (serverFound world reading).cfg = cfg :=
      (serverFound_cfg world reading).trans inHand.configured
    have still := (inHand.proceed .config nofun read).proceed .v4 nofun later
    rw [← known] at still ⊢
    exact answerFrame4Locked_traces lib still moment.env.v4

theorem readFrames4_traces (fuel : Nat) (configured : world.server.cfg = cfg) :
    Traces locked ClockForward (Proper4 lib cfg) (readFrames (handleFrame4Locked lib) fuel)
      (fun _ _ _ => True) world past := by
  apply readFrames_traces fuel _ _ configured
  · intro steps before moment
    exact Proper4.idle rfl rfl
  · intro receipt before steps inHand
    exact handleFrame4Locked_traces inHand

end Handler4

/-! ### The steps of the DHCPv6 handler -/

section Handler6

abbrev Step6 := LockedStep DHCPv6

/-- What the handling of a DHCPv6 message does to the table: RELEASE drops an address
that nobody but the sender can hold. -/
inductive Deed6 (cfg : DHCP6Config) (client : Applicant) (typ : MessageType6) (since : Int)
    (step : Step6) : Prop
  | common (deed : Deed cfg client since step)
  | frees (ip : Addr) (releases : typ = .release)
      (dropped : tableLeft step = ((tableFound step).release ip).2)
      (free : (tableFound step).inUse step.input.now ip client.mac client.clientID = false)

def Tells6 (cfg : DHCP6Config) (client : Applicant) (since : Int) (table : LeaseTable)
    (past : List Step6) (message : DHCPv6) : Prop :=
  ∀ iana address, message.iana = some iana → address ∈ iana.addresses →
    ∃ ip, address.ipv6Addr = ip.asSlice ∧ address.validLifetime = cfg.leaseTime ∧
      Told cfg client since ip table past

structure Serves6 (cfg : DHCP6Config) (client : Applicant) (typ : MessageType6) (since : Int)
    (past : List Step6) (step : Step6) : Prop where
  deed : Deed6 cfg client typ since step
  tells : ∀ frame ∈ step.op.frames, Tells6 cfg client since (tableFound step) past frame.message

variable {lib : Library6} {cfg : DHCP6Config} {served : Prefix} {pkt : Ingress} {msg : DHCPv6}
  {duid : List UInt8} {since : Int} {world : ServerWorld DHCPv6} {client : Applicant}
  {typ : MessageType6} {past : List Step6}

theorem serves6_of_silent {step : Step6} (silent : Silent cfg client since step) :
    Serves6 cfg client typ since past step := by
  refine ⟨Deed6.common silent.1, ?_⟩
  rw [silent.2]
  intro frame impossible
  cases impossible

theorem serves6_of_read {moment : Moment} {op : LockedOp DHCPv6}
    (same : (op.apply (serverFound world moment) moment).2 = (serverFound world moment).leases)
    (silent : op.frames = []) : Serves6 cfg client typ since past ⟨world, moment, op⟩ :=
  serves6_of_silent ⟨Deed.reads same, silent⟩

theorem Tells6.serverFound {message : DHCPv6} (moment : Moment)
    (tells : Tells6 cfg client since world.server.leases past message) :
    Tells6 cfg client since (serverFound world moment).leases past message := by
  intro iana address carried member
  obtain ⟨ip, same, lifetime, told⟩ := tells iana address carried member
  exact ⟨ip, same, lifetime, told.fewer (serverFound_entry world moment ip)⟩

theorem Tells6.read {message : DHCPv6} (op : LockedOp DHCPv6) (moment : Moment)
    (same : (op.apply (Server.serverFound world moment) moment).2 =
      (Server.serverFound world moment).leases) (keeps : op.receives = false)
    (tells : Tells6 cfg client since world.server.leases past message) :
    Tells6 cfg client since (proceed world moment op).server.leases
      (⟨world, moment, op⟩ :: past) message := by
  change Tells6 cfg client since (op.apply (Server.serverFound world moment) moment).2 _ message
  rw [same]
  intro iana address carried member
  obtain ⟨ip, named, lifetime, told⟩ := tells.serverFound moment iana address carried member
  exact ⟨ip, named, lifetime, told.later _ keeps⟩

theorem sendBuilt6_traces {finish : DHCPv6 → DHCPv6} {built : Option DHCPv6}
    (tells : ∀ reply, built = some reply →
      Tells6 cfg client since world.server.leases past (finish reply)) :
    Traces locked ClockForward (Serves6 cfg client typ since) (sendBuilt6 pkt finish built)
      (fun _ _ _ => True) world past := by
  cases built with
  | none => trivial
  | some reply =>
      apply traces_call
      intro looking looked
      refine ⟨serves6_of_read rfl rfl, ?_⟩
      split
      · apply traces_call
        intro reading read
        refine ⟨serves6_of_read rfl rfl, ?_⟩
        apply traces_last
        intro moment later
        refine ⟨⟨Deed6.common (Deed.reads rfl), ?_⟩, trivial⟩
        intro frame written
        rw [List.mem_singleton.mp written]
        have booked := (tells reply rfl).read .linkLocal looking rfl rfl
        exact (booked.read .hardwareAddr reading rfl rfl).serverFound moment
      · trivial

theorem tells6_of_unaddressed (sets : lib.SetsAddresses) {modifiers : List Modifier6}
    (unaddressed : ∀ address, Modifier6.withIANA address ∉ modifiers) {reply : DHCPv6}
    {table : LeaseTable} (built : lib.newReplyFromMessage msg modifiers = some reply) :
    Tells6 cfg client since table past (id reply) := by
  intro iana address carried member
  have listed := (sets msg modifiers reply address (Or.inr built)).mp ⟨iana, carried, member⟩
  exact absurd listed (unaddressed address)

theorem tells6_of_address (sets : lib.SetsAddresses) {env : Env} {ip : Addr} {reply : DHCPv6}
    {table : LeaseTable} (told : Told cfg client since ip table past)
    (built : lib.newAdvertiseFromSolicit msg (addressModifiers env cfg served msg ip) = some reply ∨
      lib.newReplyFromMessage msg (addressModifiers env cfg served msg ip) = some reply) :
    Tells6 cfg client since table past (preserveIAID msg reply) := by
  intro iana address carried member
  have inReply := (preserveIAID_addresses msg reply address).mp ⟨iana, carried, member⟩
  have listed := (sets msg _ reply address built).mp inReply
  obtain ⟨_, same⟩ := (withIANA_mem_addressModifiers_iff env cfg served msg ip address).mp listed
  rw [same]
  exact ⟨ip, rfl, rfl, told⟩

theorem replyAddressLocked_traces (sets : lib.SetsAddresses) (begun : since ≤ world.now)
    (advertise : Bool) :
    Traces locked ClockForward
      (Serves6 cfg (applicant6 pkt duid (hostnameOf msg)) typ since)
      (replyAddressLocked lib cfg served pkt msg duid advertise) (fun _ _ _ => True) world past := by
  apply Traces.bind
  apply ((selectLocked_traces cfg served (applicant6 pkt duid (hostnameOf msg)) none
    begun).weaken (fun _ step silent => serves6_of_silent silent)).mono
  intro ip after steps selected
  split
  · rename_i valid
    apply traces_call
    intro moment later
    refine ⟨serves6_of_read rfl rfl, ?_⟩
    apply sendBuilt6_traces
    intro reply built
    have told := ((selected.told valid).fewer (serverFound_entry after moment ip)).later
      ⟨after, moment, .hardwareAddr⟩ rfl
    apply tells6_of_address sets told
    cases advertise with
    | true => exact Or.inl built
    | false => exact Or.inr built
  · trivial

theorem replyStatusLocked_traces (sets : lib.SetsAddresses) :
    Traces locked ClockForward (Serves6 cfg client typ since) (replyStatusLocked lib pkt msg)
      (fun _ _ _ => True) world past := by
  apply traces_call
  intro moment later
  refine ⟨serves6_of_read rfl rfl, ?_⟩
  apply sendBuilt6_traces
  intro reply built
  apply tells6_of_unaddressed sets _ built
  intro address member
  simp at member

theorem replyInformationLocked_traces (sets : lib.SetsAddresses) :
    Traces locked ClockForward (Serves6 cfg client typ since)
      (replyInformationLocked lib cfg served pkt msg) (fun _ _ _ => True) world past := by
  apply traces_call
  intro moment later
  refine ⟨serves6_of_read rfl rfl, ?_⟩
  apply sendBuilt6_traces
  intro reply built
  apply tells6_of_unaddressed sets _ built
  intro address member
  simp at member

theorem handleRelease6Locked_traces (sets : lib.SetsAddresses) (releases : typ = .release)
    (hostname : String) :
    Traces locked ClockForward (Serves6 cfg (applicant6 pkt duid hostname) typ since)
      (handleRelease6Locked lib pkt msg duid) (fun _ _ _ => True) world past := by
  apply traces_call
  intro reading read
  refine ⟨serves6_of_read rfl rfl, ?_⟩
  split
  · exact replyStatusLocked_traces sets
  · rename_i lease answered
    apply traces_call
    intro moment later
    -- only removals lie between the two locks
    have free := inUse_serverFound later (LeaseTable.inUse_of_byClient answered)
    exact ⟨⟨Deed6.frees lease.ip releases rfl free, nofun⟩, replyStatusLocked_traces sets⟩

theorem handleMessage6Locked_traces (sets : lib.SetsAddresses) (begun : since ≤ world.now) :
    Traces locked ClockForward
      (Serves6 cfg (applicant6 pkt duid (hostnameOf msg)) msg.messageType since)
      (handleMessage6Locked lib cfg served pkt msg duid) (fun _ _ _ => True) world past := by
  unfold handleMessage6Locked
  cases typ : msg.messageType with
  | solicit => exact replyAddressLocked_traces sets begun true
  | request => exact replyAddressLocked_traces sets begun false
  | renew => exact replyAddressLocked_traces sets begun false
  | rebind => exact replyAddressLocked_traces sets begun false
  | release => exact handleRelease6Locked_traces sets rfl (hostnameOf msg)
  | informationRequest => exact replyInformationLocked_traces sets
  | _ => trivial

/-- A step of the reader: it serves the message in hand, or it changes and writes
nothing. -/
inductive Proper6 (lib : Library6) (cfg : DHCP6Config) (past : List Step6) (step : Step6) : Prop
  | idle (same : tableLeft step = tableFound step) (silent : step.op.frames = [])
  | serving (receipt : Receipt) (msg : DHCPv6) (duid : List UInt8)
      (inHand : step.world.handling = some receipt)
      (decodes : clientMessage lib receipt.frame = some (msg, duid))
      (serves : Serves6 cfg (applicant6 receipt.frame duid (hostnameOf msg)) msg.messageType
        receipt.at_ past step)

theorem answerFrame6Locked_traces (sets : lib.SetsAddresses) {receipt : Receipt}
    (inHand : InHand cfg receipt world) (serving : Option Prefix) :
    Traces locked ClockForward (Proper6 lib cfg)
      (answerFrame6Locked lib receipt.frame cfg serving)
      (fun _ after _ => after.server.cfg = cfg) world past := by
  cases serving with
  | none => exact inHand.configured
  | some served =>
      unfold answerFrame6Locked
      dsimp only
      split
      · exact inHand.configured
      · cases decodes : clientMessage lib receipt.frame with
        | none => exact inHand.configured
        | some decoded =>
            obtain ⟨msg, duid⟩ := decoded
            apply Traces.bind
            have traces : Traces locked ClockForward
                (Serves6 cfg (applicant6 receipt.frame duid (hostnameOf msg)) msg.messageType
                  receipt.at_)
                (handleMessage6Locked lib cfg served receipt.frame msg duid) (fun _ _ _ => True)
                world past :=
              handleMessage6Locked_traces sets inHand.later
            have serves := traces_inHand
              (handleMessage6Locked_uses lib cfg served receipt.frame msg duid) traces inHand
            apply (serves.weaken _).mono
            · intro _ after _ done
              exact done.2.configured
            · intro steps step good
              exact Proper6.serving receipt msg duid good.2.inHand decodes good.1

theorem handleFrame6Locked_traces (sets : lib.SetsAddresses) {receipt : Receipt}
    (inHand : InHand cfg receipt world) :
    Traces locked ClockForward (Proper6 lib cfg) (handleFrame6Locked lib receipt.frame)
      (fun _ after _ => after.server.cfg = cfg) world past := by
  unfold handleFrame6Locked
  split
  · exact inHand.configured
  · apply traces_call
    intro reading read
    refine ⟨Proper6.idle rfl rfl, ?_⟩
    apply traces_call
    intro moment later
    refine ⟨Proper6.idle rfl rfl, ?_⟩
    have known : (serverFound world reading).cfg = cfg :=
      (serverFound_cfg world reading).trans inHand.configured
    have still := (inHand.proceed .config nofun read).proceed .v6 nofun later
    rw [← known] at still ⊢
    exact answerFrame6Locked_traces sets still moment.env.v6

theorem readFrames6_traces (sets : lib.SetsAddresses) (fuel : Nat)
    (configured : world.server.cfg = cfg) :
    Traces locked ClockForward (Proper6 lib cfg) (readFrames (handleFrame6Locked lib) fuel)
      (fun _ _ _ => True) world past := by
  apply readFrames_traces fuel _ _ configured
  · intro steps before moment
    exact Proper6.idle rfl rfl
  · intro receipt before steps inHand
    exact handleFrame6Locked_traces sets inHand

end Handler6

end BridgeDhcp.Server
