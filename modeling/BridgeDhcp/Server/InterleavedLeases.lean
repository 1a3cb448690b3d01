/-
Leases when the handlers are interrupted.

Three results for every interleaving of the reader with the sweeper and the control
API: an active lease is taken from nobody who did not give it up, an answer names an
address that is booked for the client that gets it, and a client keeps its address up
to its deadline.
-/

import BridgeDhcp.Server.BookingNotice
import BridgeDhcp.Server.LockedSteps

set_option autoImplicit false

namespace BridgeDhcp.Server

open GoMap Netip Packet StepRun Interaction

/-! ### Runs -/

/-- The moments of a run from some instant on: the clock never goes back. -/
structure Forward (start : Int) (moments : List Moment) : Prop where
  started : ∀ moment ∈ moments, start ≤ moment.now
  ordered : Chronological Moment.now moments

theorem permitted_of_forward {Message Value : Type} {Fine : Moment → Prop}
    {program : Handler Message Value} {world : ServerWorld Message} {moments : List Moment}
    (forward : Forward world.now moments) (fine : ∀ moment ∈ moments, Fine moment) :
    Permitted locked (fun state op moment => ClockForward state op moment ∧ Fine moment) program
      world moments := by
  induction moments generalizing program world with
  | nil => cases program <;> trivial
  | cons moment rest ih =>
      cases program with
      | ret value => trivial
      | cut => trivial
      | act op next =>
          refine ⟨⟨forward.started moment List.mem_cons_self, fine moment List.mem_cons_self⟩, ?_⟩
          apply ih
          · refine ⟨?_, forward.ordered.tail⟩
            intro later member
            exact forward.ordered.head_le Moment.now member
          · intro later member
            exact fine later (List.mem_cons_of_mem moment member)

theorem forward_permitted {Message Value : Type} {program : Handler Message Value}
    {world : ServerWorld Message} {moments : List Moment} (forward : Forward world.now moments) :
    Permitted locked ClockForward program world moments :=
  (permitted_of_forward forward (fun _ _ => trivial)).mono
    (fun _ _ _ (allowed : _ ∧ True) => allowed.1)

theorem Deed.keeps {Message : Type} {cfg : PoolConfig} {client : Applicant} {since : Int}
    {step : Step (ServerWorld Message) Moment (LockedOp Message)} {ip : Addr} {lease : Lease}
    (deed : Deed cfg client since step) (present : (tableFound step).entry ip = some lease)
    (active : lease.expired step.input.now = false) (other : lease.key ≠ client.key) :
    (tableLeft step).entry ip = some lease := by
  cases deed with
  | reads same =>
      rw [same]
      exact present
  | books target booked stores granted free =>
      rw [tableLeft_of_stored stores, LeaseTable.entry_set_ne]
      · exact present
      · intro same
        rw [granted.address] at same
        subst same
        exact other ((LeaseTable.inUse_eq_false_iff _ _ _ _ _).mp free lease present active)

/-- In every interleaving of the DHCPv4 reader with the sweeper and the API, an
operation of the reader leaves an active lease as it is, unless the request in hand
comes from the holder or gives that address up. -/
theorem interleaved4_keeps_active (lib : Library4) (world : ServerWorld DHCPv4) (fuel : Nat)
    (moments : List Moment) (forward : Forward world.now moments) :
    ∀ step ∈ history locked (readFrames (handleFrame4Locked lib) fuel) world moments,
      ∀ ip lease, (tableFound step).entry ip = some lease →
        lease.expired step.input.now = false →
        (tableLeft step).entry ip = some lease ∨
          ∃ receipt request, step.world.handling = some receipt ∧
            bootRequest lib receipt.frame = some request ∧
            (lease.key = (applicant4 request).key ∨
              request.messageType = .release ∧
                addrFromSlice (to4 request.clientIPAddr) = some ip ∨
              request.messageType = .decline ∧ requestedAddr request = some ip) := by
  intro step member ip lease present active
  have traces : Traces locked ClockForward (Proper4 lib world.server.cfg)
      (readFrames (handleFrame4Locked lib) fuel) (fun _ _ _ => True) world [] :=
    readFrames4_traces fuel rfl
  obtain ⟨later, earlier, cut⟩ := List.append_of_mem member
  cases good_of_traces traces (forward_permitted forward) cut with
  | idle same silent =>
      left
      rw [same]
      exact present
  | serving receipt request inHand decodes serves =>
      cases serves.1 with
      | common deed =>
          by_cases own : lease.key = (applicant4 request).key
          · exact Or.inr ⟨receipt, request, inHand, decodes, Or.inl own⟩
          · exact Or.inl (deed.keeps present active own)
      | releases target typ names op =>
          by_cases same : ip = target
          · subst same
            exact Or.inr ⟨receipt, request, inHand, decodes, Or.inr (Or.inl ⟨typ, names⟩)⟩
          · left
            unfold tableLeft
            rw [op]
            exact (LeaseTable.entry_release _ target ip).trans ((if_neg same).trans present)
      | declines target now typ names op =>
          by_cases same : ip = target
          · subst same
            exact Or.inr ⟨receipt, request, inHand, decodes, Or.inr (Or.inr ⟨typ, names⟩)⟩
          · left
            unfold tableLeft
            rw [op]
            exact (LeaseTable.entry_set_ne _ _ same).trans present

/-- Two clients, one after the other: the second asks for the address of the first, and
the API edits the static set between any two operations. -/
def interruptedMoments4 : List Moment :=
  (List.range 19).map (fun count : Nat =>
    { others :=
        [{ now := count
           env := sampleEnv4
           orders := storedOrders
           event := .deleteStatic "printer" }]
      now := count
      env := sampleEnv4
      orders := storedOrders
      frame := if count < 9 then sampleIngress4 1 [2, 0, 0, 0, 0, 0x42] [0, 0, 0, 0] []
        else sampleIngress4 1 [2, 0, 0, 0, 0, 0x43] [0, 0, 0, 0] [192, 168, 50, 100] })

def interruptedWorld4 : ServerWorld DHCPv4 where
  server := sampleServer
  now := 0
  handling := none
  written := []

theorem interruptedMoments4_forward : Forward interruptedWorld4.now interruptedMoments4 :=
  ⟨by decide, by unfold Chronological; decide⟩

theorem interleaved4_keeps_active_two_clients :
    (history locked (readFrames (handleFrame4Locked sampleLibrary4) 2) interruptedWorld4
        interruptedMoments4).length = 19 ∧
      ∀ step ∈ history locked (readFrames (handleFrame4Locked sampleLibrary4) 2)
          interruptedWorld4 interruptedMoments4,
        ∀ ip lease, (tableFound step).entry ip = some lease →
          lease.expired step.input.now = false →
          (tableLeft step).entry ip = some lease ∨
            ∃ receipt request, step.world.handling = some receipt ∧
              bootRequest sampleLibrary4 receipt.frame = some request ∧
              (lease.key = (applicant4 request).key ∨
                request.messageType = .release ∧
                  addrFromSlice (to4 request.clientIPAddr) = some ip ∨
                request.messageType = .decline ∧ requestedAddr request = some ip) :=
  ⟨by decide +kernel,
    interleaved4_keeps_active sampleLibrary4 interruptedWorld4 2 interruptedMoments4
      interruptedMoments4_forward⟩

theorem sendReply_message {lib : Library4} (typed : lib.SetsMessageType) {env : Env}
    {cfg : DHCP4Config} {served : Prefix} {request : DHCPv4} {typ : MessageType4} {ip : Addr}
    {frame : UdpFrame DHCPv4} (sent : frame ∈ sendReply lib env cfg served request typ ip) :
    frame.message.messageType = typ ∧ frame.message.yourIPAddr = ip.asSlice := by
  unfold sendReply at sent
  split at sent
  · cases sent
  · rename_i reply built
    have ofType := typed.ofReply built
    rw [List.mem_singleton.mp sent]
    exact ⟨ofType, rfl⟩

/-- In every interleaving of the DHCPv4 reader, an OFFER or ACK names an address that
some step since its frame was read has booked for the sender, for a full lease time: at
the moment of writing the table has that lease there, or nothing.  An ACK names the
address the client asked for. -/
theorem interleaved4_answers_booked (lib : Library4) (typed : lib.SetsMessageType)
    (world : ServerWorld DHCPv4) (fuel : Nat) (moments : List Moment)
    (forward : Forward world.now moments) :
    ∀ later step earlier,
      history locked (readFrames (handleFrame4Locked lib) fuel) world moments =
        later ++ step :: earlier →
      ∀ frame, step.op = .write frame →
        frame.message.messageType = .offer ∨ frame.message.messageType = .ack →
        ∃ receipt request ip lease, step.world.handling = some receipt ∧
          bootRequest lib receipt.frame = some request ∧
          frame.message.yourIPAddr = ip.asSlice ∧
          (∃ booking ∈ sinceReceipt earlier, storedBy booking = some lease) ∧
          Granted world.server.cfg (applicant4 request) receipt.at_ ip lease ∧
          ((tableFound step).entry ip = some lease ∨ (tableFound step).entry ip = none) ∧
          (frame.message.messageType = .ack → wantedAddr request = some ip) := by
  intro later step earlier cut frame writes typ
  have traces : Traces locked ClockForward (Proper4 lib world.server.cfg)
      (readFrames (handleFrame4Locked lib) fuel) (fun _ _ _ => True) world [] :=
    readFrames4_traces fuel rfl
  cases good_of_traces traces (forward_permitted forward) cut with
  | idle same silent =>
      rw [writes] at silent
      cases silent
  | serving receipt request inHand decodes serves =>
      have listed : frame ∈ step.op.frames := by
        rw [writes]
        exact List.mem_singleton_self frame
      cases serves.2 frame listed with
      | refuses env served sent =>
          rw [sendNak_messageType typed sent] at typ
          rcases typ with impossible | impossible <;> cases impossible
      | grants env served kind ip sent told asked =>
          obtain ⟨sameType, yours⟩ := sendReply_message typed sent
          obtain ⟨lease, granted, booked, present⟩ := told
          refine ⟨receipt, request, ip, lease, inHand, decodes, yours, booked, granted, present, ?_⟩
          intro acknowledges
          rcases asked with ⟨offers, _⟩ | ⟨_, _, wants⟩
          · rw [sameType, offers] at acknowledges
            cases acknowledges
          · exact wants

theorem interleaved4_answers_booked_two_clients :
    (exec locked (readFrames (handleFrame4Locked sampleLibrary4) 2) interruptedWorld4
        interruptedMoments4).written.map (fun frame => frame.message.yourIPAddr) =
        [[192, 168, 50, 100], [192, 168, 50, 101]] ∧
      ∀ later step earlier,
        history locked (readFrames (handleFrame4Locked sampleLibrary4) 2) interruptedWorld4
          interruptedMoments4 = later ++ step :: earlier →
        ∀ frame, step.op = .write frame →
          frame.message.messageType = .offer ∨ frame.message.messageType = .ack →
          ∃ receipt request ip lease, step.world.handling = some receipt ∧
            bootRequest sampleLibrary4 receipt.frame = some request ∧
            frame.message.yourIPAddr = ip.asSlice ∧
            (∃ booking ∈ sinceReceipt earlier, storedBy booking = some lease) ∧
            Granted sampleConfig (applicant4 request) receipt.at_ ip lease ∧
            ((tableFound step).entry ip = some lease ∨ (tableFound step).entry ip = none) ∧
            (frame.message.messageType = .ack → wantedAddr request = some ip) :=
  ⟨by decide +kernel,
    interleaved4_answers_booked sampleLibrary4 sampleLibrary4_setsMessageType interruptedWorld4 2
      interruptedMoments4 interruptedMoments4_forward⟩

/-- In every interleaving of the DHCPv6 reader, some step since its frame was read has
booked each address in an answer for the sender, for a full lease time: at the moment of
writing the table has that lease there, or nothing. -/
theorem interleaved6_answers_booked (lib : Library6) (sets : lib.SetsAddresses)
    (world : ServerWorld DHCPv6) (fuel : Nat) (moments : List Moment)
    (forward : Forward world.now moments) :
    ∀ later step earlier,
      history locked (readFrames (handleFrame6Locked lib) fuel) world moments =
        later ++ step :: earlier →
      ∀ frame, step.op = .write frame →
        ∀ iana address, frame.message.iana = some iana → address ∈ iana.addresses →
          ∃ receipt msg duid ip lease, step.world.handling = some receipt ∧
            clientMessage lib receipt.frame = some (msg, duid) ∧
            address.ipv6Addr = ip.asSlice ∧
            address.validLifetime = world.server.cfg.leaseTime ∧
            (∃ booking ∈ sinceReceipt earlier, storedBy booking = some lease) ∧
            Granted world.server.cfg (applicant6 receipt.frame duid (hostnameOf msg))
              receipt.at_ ip lease ∧
            ((tableFound step).entry ip = some lease ∨ (tableFound step).entry ip = none) := by
  intro later step earlier cut frame writes iana address carried listed
  have traces : Traces locked ClockForward (Proper6 lib world.server.cfg)
      (readFrames (handleFrame6Locked lib) fuel) (fun _ _ _ => True) world [] :=
    readFrames6_traces sets fuel rfl
  cases good_of_traces traces (forward_permitted forward) cut with
  | idle same silent =>
      rw [writes] at silent
      cases silent
  | serving receipt msg duid inHand decodes serves =>
      have written : frame ∈ step.op.frames := by
        rw [writes]
        exact List.mem_singleton_self frame
      obtain ⟨ip, same, lifetime, told⟩ := serves.tells frame written iana address carried listed
      obtain ⟨lease, granted, booked, present⟩ := told
      exact ⟨receipt, msg, duid, ip, lease, inHand, decodes, same, lifetime, booked, granted,
        present⟩

/-! ### Holding an address through a run -/

def releasesAs (lib : Library6) (key : String) (pkt : Ingress) : Bool :=
  match clientMessage lib pkt with
  | some (msg, duid) =>
      msg.messageType == .release &&
        clientKey (hardwareAddrString pkt.srcMAC) (hexEncode duid) == key
  | none => false

def Event.revokes (ip : Addr) : Event → Bool
  | .releaseLease target => target == ip
  | _ => false

/-- Nobody gives the address up in this moment: the API does not release it, the
sweeper comes before the deadline, and a frame that is read now is no RELEASE of the
holder. -/
structure LeftAlone (lib : Library6) (key : String) (ip : Addr) (deadline : Int)
    (moment : Moment) : Prop where
  early : moment.now ≤ deadline
  sweeps : ∀ input ∈ moment.others, input.now ≤ deadline
  revokes : ∀ input ∈ moment.others, input.event.revokes ip = false
  releases : releasesAs lib key moment.frame = false

section Holding

variable {Message : Type} {key : String} {ip : Addr} {deadline : Int}

theorem LeaseTable.HeldUntil.granted {table : LeaseTable} {now since : Int} {cfg : PoolConfig}
    {client : Applicant} {target : Addr} {lease : Lease}
    (held : table.HeldUntil key ip deadline) (early : now ≤ deadline)
    (covers : deadline ≤ since + cfg.leaseTime) (granted : Granted cfg client since target lease)
    (free : table.inUse now target client.mac client.clientID = false) :
    (table.set lease).HeldUntil key ip deadline := by
  by_cases same : ip = target
  · subst same
    refine ⟨lease, ?_, ?_, Int.le_trans covers granted.lasts⟩
    · rw [← granted.address]
      exact table.entry_set_self lease
    · rw [granted.key]
      exact (held.inUse early free).symm
  · apply held.set_ne
    rw [granted.address]
    exact same

theorem LeaseTable.HeldUntil.serverFound {world : ServerWorld Message} {moment : Moment}
    (held : world.server.leases.HeldUntil key ip deadline)
    (sweeps : ∀ input ∈ moment.others, input.now ≤ deadline)
    (revokes : ∀ input ∈ moment.others, input.event.revokes ip = false) :
    (serverFound world moment).leases.HeldUntil key ip deadline := by
  apply run_invariant (stepWith handlesNone)
    (fun server => server.leases.HeldUntil key ip deadline)
    (fun _ input => input.now ≤ deadline ∧ input.event.revokes ip = false)
  · rintro server input ⟨early, kept⟩ still
    rw [stepWith_leases]
    cases happens : input.event with
    | sweep => exact still.expireSweep early
    | releaseLease target =>
        rw [happens] at kept
        apply still.release_ne
        intro same
        rw [same] at kept
        exact absurd kept (by simp [Event.revokes])
    | _ => exact still
  · exact held
  · apply throughout_of_forall
    intro input member
    exact ⟨sweeps input member, revokes input member⟩

end Holding

/-- What the run keeps: the client has the address, and the frame in hand was read
after the start and is no RELEASE of the client. -/
structure Holding (lib : Library6) (key : String) (ip : Addr) (deadline start : Int)
    (world : ServerWorld DHCPv6) : Prop where
  held : world.server.leases.HeldUntil key ip deadline
  started : ∀ receipt, world.handling = some receipt → start ≤ receipt.at_
  unreleased : ∀ receipt, world.handling = some receipt →
    releasesAs lib key receipt.frame = false
  since : start ≤ world.now

section Kept

variable {lib : Library6} {key : String} {ip : Addr} {deadline start : Int}
  {world : ServerWorld DHCPv6} {moment : Moment} {op : LockedOp DHCPv6} {cfg : DHCP6Config}

theorem Deed6.holds {client : Applicant} {typ : MessageType6} {since : Int}
    (deed : Deed6 cfg client typ since ⟨world, moment, op⟩)
    (held : (serverFound world moment).leases.HeldUntil key ip deadline)
    (early : moment.now ≤ deadline) (covers : deadline ≤ since + cfg.leaseTime)
    (unreleased : typ = .release → client.key ≠ key) :
    (proceed world moment op).server.leases.HeldUntil key ip deadline := by
  cases deed with
  | common deed =>
      cases deed with
      | reads same =>
          change (tableLeft ⟨world, moment, op⟩).HeldUntil key ip deadline
          rw [same]
          exact held
      | books target lease stores granted free =>
          change (tableLeft ⟨world, moment, op⟩).HeldUntil key ip deadline
          rw [tableLeft_of_stored stores]
          exact held.granted early covers granted free
  | frees target releases dropped free =>
      change (tableLeft ⟨world, moment, op⟩).HeldUntil key ip deadline
      rw [dropped]
      apply held.release_ne
      intro same
      subst same
      exact unreleased releases (held.inUse early free).symm

theorem Holding.handling (holding : Holding lib key ip deadline start world)
    (forward : world.now ≤ moment.now)
    (alone : LeftAlone lib key ip deadline moment) (receipt : Receipt)
    (inHand : op.handling world.handling moment = some receipt) :
    start ≤ receipt.at_ ∧ releasesAs lib key receipt.frame = false := by
  cases op with
  | receive =>
      cases inHand
      exact ⟨Int.le_trans holding.since forward, alone.releases⟩
  | _ => exact ⟨holding.started receipt inHand, holding.unreleased receipt inHand⟩

theorem Holding.proceed {past : List Step6} (proper : Proper6 lib cfg past ⟨world, moment, op⟩)
    (forward : world.now ≤ moment.now) (alone : LeftAlone lib key ip deadline moment)
    (covers : deadline ≤ start + cfg.leaseTime)
    (holding : Holding lib key ip deadline start world) :
    Holding lib key ip deadline start (proceed world moment op) := by
  have held := holding.held.serverFound alone.sweeps alone.revokes
  refine ⟨?_, ?_, ?_, Int.le_trans holding.since forward⟩
  · cases proper with
    | idle same silent =>
        change (tableLeft ⟨world, moment, op⟩).HeldUntil key ip deadline
        rw [same]
        exact held
    | serving receipt msg duid inHand decodes serves =>
        apply serves.deed.holds held alone.early
        · have began := holding.started receipt inHand
          omega
        · intro releases same
          have kept := holding.unreleased receipt inHand
          unfold releasesAs at kept
          rw [decodes] at kept
          simp only [releases, beq_self_eq_true, Bool.true_and, beq_eq_false_iff_ne] at kept
          exact kept same
  · intro receipt inHand
    exact (holding.handling forward alone receipt inHand).1
  · intro receipt inHand
    exact (holding.handling forward alone receipt inHand).2

end Kept

/-- In every interleaving of the DHCPv6 reader with the sweeper and the API, a client
keeps its address up to the deadline, unless the API releases the address or the client
does. -/
theorem interleaved6_holds (lib : Library6) (sets : lib.SetsAddresses)
    (world : ServerWorld DHCPv6) (idle : world.handling = none) (fuel : Nat)
    (moments : List Moment) (key : String) (ip : Addr) (deadline : Int)
    (held : world.server.leases.HeldUntil key ip deadline)
    (covers : deadline ≤ world.now + world.server.cfg.leaseTime)
    (forward : Forward world.now moments)
    (alone : ∀ moment ∈ moments, LeftAlone lib key ip deadline moment) :
    (exec locked (readFrames (handleFrame6Locked lib) fuel) world moments).server.leases.HeldUntil
      key ip deadline := by
  have traces : Traces locked ClockForward (Proper6 lib world.server.cfg)
      (readFrames (handleFrame6Locked lib) fuel) (fun _ _ _ => True) world [] :=
    readFrames6_traces sets fuel rfl
  have initially : Holding lib key ip deadline world.now world := by
    refine ⟨held, ?_, ?_, Int.le_refl _⟩ <;>
      · intro receipt inHand
        rw [idle] at inHand
        cases inHand
  have atEnd : Holding lib key ip deadline world.now
      (exec locked (readFrames (handleFrame6Locked lib) fuel) world moments) := by
    apply exec_of_traces (traces.restrict _) _ initially
      (permitted_of_forward forward alone)
    · intro state op moment allowed
      exact allowed.1
    · intro past state moment op answer after proper allowed handled holding
      cases handled
      exact holding.proceed proper allowed.1 allowed.2 covers
  exact atEnd.held

def sampleIngress6 (code : UInt8) (mac : List UInt8) : Ingress where
  srcMAC := mac
  isUDP4 := false
  isUDP6 := true
  isICMP6 := false
  srcIP := (Addr.v6 (0xfe80 <<< 112 + 2)).asSlice
  dstIP := (Addr.v6 (0xff02 <<< 112 + 0x10002)).asSlice
  srcPort := 546
  dstPort := 547
  icmpTyp := 0
  payload := samplePayload6 code mac

/-- Another client solicits while the sweeper runs between any two operations. -/
def interruptedMoments6 : List Moment :=
  (List.range 12).map (fun count : Nat =>
    { others :=
        [{ now := count
           env := sampleEnv
           orders := storedOrders
           event := .sweep }]
      now := count
      env := sampleEnv
      orders := storedOrders
      frame := sampleIngress6 1 [2, 0, 0, 0, 0, 0x78] })

def interruptedWorld6 : ServerWorld DHCPv6 where
  server := run (step6 sampleLibrary6) sampleServer [sampleFrame6 0 1 [2, 0, 0, 0, 0, 0x77]]
  now := 0
  handling := none
  written := []

theorem interruptedMoments6_forward : Forward interruptedWorld6.now interruptedMoments6 :=
  ⟨by decide, by unfold Chronological; decide⟩

theorem interleaved6_answers_booked_solicit :
    (exec locked (readFrames (handleFrame6Locked sampleLibrary6) 1) interruptedWorld6
        interruptedMoments6).written.length = 1 ∧
      ∀ later step earlier,
        history locked (readFrames (handleFrame6Locked sampleLibrary6) 1) interruptedWorld6
          interruptedMoments6 = later ++ step :: earlier →
        ∀ frame, step.op = .write frame →
          ∀ iana address, frame.message.iana = some iana → address ∈ iana.addresses →
            ∃ receipt msg duid ip lease, step.world.handling = some receipt ∧
              clientMessage sampleLibrary6 receipt.frame = some (msg, duid) ∧
              address.ipv6Addr = ip.asSlice ∧
              address.validLifetime = interruptedWorld6.server.cfg.leaseTime ∧
              (∃ booking ∈ sinceReceipt earlier, storedBy booking = some lease) ∧
              Granted interruptedWorld6.server.cfg
                (applicant6 receipt.frame duid (hostnameOf msg)) receipt.at_ ip lease ∧
              ((tableFound step).entry ip = some lease ∨ (tableFound step).entry ip = none) :=
  ⟨by decide +kernel,
    interleaved6_answers_booked sampleLibrary6 sampleLibrary6_setsAddresses interruptedWorld6 1
      interruptedMoments6 interruptedMoments6_forward⟩

theorem interruptedWorld6_held :
    interruptedWorld6.server.leases.HeldUntil (sampleClient [2, 0, 0, 0, 0, 0x77]).key
      (.v6 (0xfd50 <<< 112 + 100)) defaultLeaseTime :=
  ⟨{ draftLease sampleConfig 0 (sampleClient [2, 0, 0, 0, 0, 0x77]) with
      ip := .v6 (0xfd50 <<< 112 + 100) },
    by decide +kernel, by decide +kernel, by decide⟩

theorem interruptedMoments6_leftAlone : ∀ moment ∈ interruptedMoments6,
    LeftAlone sampleLibrary6 (sampleClient [2, 0, 0, 0, 0, 0x77]).key
      (.v6 (0xfd50 <<< 112 + 100)) defaultLeaseTime moment := by
  intro moment member
  obtain ⟨count, counted, rfl⟩ := List.mem_map.mp member
  have few : (count : Int) ≤ defaultLeaseTime := by
    have bound := List.mem_range.mp counted
    unfold defaultLeaseTime
    omega
  have other : releasesAs sampleLibrary6 (sampleClient [2, 0, 0, 0, 0, 0x77]).key
      (sampleIngress6 1 [2, 0, 0, 0, 0, 0x78]) = false := by decide +kernel
  refine ⟨few, ?_, ?_, other⟩ <;>
    · intro input single
      rw [List.mem_singleton.mp single]
      first
        | exact few
        | rfl

theorem interleaved6_holds_solicit :
    (exec locked (readFrames (handleFrame6Locked sampleLibrary6) 1) interruptedWorld6
      interruptedMoments6).server.leases.HeldUntil (sampleClient [2, 0, 0, 0, 0, 0x77]).key
        (.v6 (0xfd50 <<< 112 + 100)) defaultLeaseTime :=
  interleaved6_holds sampleLibrary6 sampleLibrary6_setsAddresses interruptedWorld6 rfl 1
    interruptedMoments6 (sampleClient [2, 0, 0, 0, 0, 0x77]).key (.v6 (0xfd50 <<< 112 + 100))
    defaultLeaseTime interruptedWorld6_held (by decide +kernel) interruptedMoments6_forward
    interruptedMoments6_leftAlone

end BridgeDhcp.Server
