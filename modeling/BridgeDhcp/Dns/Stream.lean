/-
DNS over one TCP connection, as two streams of bytes.

A client may send several queries at once and reads the answers from one stream, so the
lengths that stand before the messages have to be right on both ways.
-/

import BridgeDhcp.Dns.Relay
import Mathlib.Data.List.TakeWhile

set_option autoImplicit false

namespace BridgeDhcp.Dns

open GoBytes GoError

/-! ### Messages in a stream -/

def streamMessages (incoming : List UInt8) : List Message :=
  match _read : readPrefixed "EOF" incoming with
  | .error _ => []
  | .ok (message, rest) => message :: streamMessages rest
termination_by incoming.length
decreasing_by
  obtain ⟨⟨whole, _⟩, rfl⟩ := (readPrefixed_eq_ok_iff _ _ _ _).mp _read
  rw [List.length_drop]
  omega

theorem readPrefixed_toOption (ends other : String) (incoming : List UInt8) :
    (readPrefixed ends incoming).toOption = (readPrefixed other incoming).toOption := by
  apply Option.ext
  intro found
  obtain ⟨message, rest⟩ := found
  have same (cause : String) : (readPrefixed cause incoming).toOption = some (message, rest) ↔
      Framed incoming message ∧ incoming.drop (2 + message.length) = rest := by
    rw [← readPrefixed_eq_ok_iff cause]
    cases readPrefixed cause incoming <;> simp [Except.toOption]
  rw [same ends, same other]

theorem streamMessages_of_error {ends cause : String} {incoming : List UInt8}
    (read : readPrefixed ends incoming = .error cause) : streamMessages incoming = [] := by
  have other := readPrefixed_toOption ends "EOF" incoming
  rw [read] at other
  fun_cases streamMessages incoming with
  | case1 reason failed => rfl
  | case2 message rest succeeded =>
      rw [succeeded] at other
      cases other

theorem streamMessages_of_ok {ends : String} {incoming rest : List UInt8} {message : Message}
    (read : readPrefixed ends incoming = .ok (message, rest)) :
    streamMessages incoming = message :: streamMessages rest := by
  have other := readPrefixed_toOption ends "EOF" incoming
  rw [read] at other
  fun_cases streamMessages incoming with
  | case1 reason failed =>
      rw [failed] at other
      cases other
  | case2 found following succeeded =>
      rw [succeeded] at other
      cases other
      rfl

def Short (message : Message) : Prop := message.length < 65536

theorem short_of_framed {incoming : List UInt8} {message : Message}
    (framed : Framed incoming message) : Short message := by
  obtain ⟨_, size, _⟩ := framed
  have bound := (uint16At incoming 0).toNat_lt
  unfold Short
  omega

theorem short_of_mem_streamMessages {incoming : List UInt8} {message : Message}
    (member : message ∈ streamMessages incoming) : Short message := by
  fun_induction streamMessages incoming with
  | case1 incoming cause read => cases member
  | case2 incoming first rest read ih =>
      rcases List.mem_cons.mp member with same | later
      · rw [same]
        exact short_of_framed ((readPrefixed_eq_ok_iff _ _ _ _).mp read).1
      · exact ih later

theorem framed_lengthPrefixed {message : Message} (short : Short message) (rest : List UInt8) :
    Framed (lengthPrefixed message ++ rest) message := by
  have layout : lengthPrefixed message ++ rest =
      [] ++ (bytesOfUint16 (UInt16.ofNat message.length) ++ (message ++ rest)) := by
    rw [lengthPrefixed_eq, List.append_assoc, List.nil_append]
  have size : uint16At (lengthPrefixed message ++ rest) 0 = UInt16.ofNat message.length := by
    rw [layout]
    exact uint16At_append _ rfl
  refine ⟨?_, ?_, ?_⟩
  · rw [lengthPrefixed_eq]
    simp only [List.length_append, length_bytesOfUint16]
    omega
  · rw [size, UInt16.toNat_ofNat']
    exact Nat.mod_eq_of_lt short
  · rw [layout, List.nil_append]
    exact slice_append (length_bytesOfUint16 _) (by rw [length_bytesOfUint16])

theorem readPrefixed_lengthPrefixed (ends : String) {message : Message} (short : Short message)
    (rest : List UInt8) :
    readPrefixed ends (lengthPrefixed message ++ rest) = .ok (message, rest) := by
  apply (readPrefixed_eq_ok_iff _ _ _ _).mpr
  refine ⟨framed_lengthPrefixed short rest, ?_⟩
  apply List.drop_left'
  rw [lengthPrefixed_eq, List.length_append, length_bytesOfUint16]

theorem streamMessages_flatMap {messages : List Message}
    (short : ∀ message ∈ messages, Short message) (rest : List UInt8) :
    streamMessages (messages.flatMap lengthPrefixed ++ rest) = messages ++ streamMessages rest := by
  induction messages with
  | nil => rfl
  | cons message others ih =>
      obtain ⟨first, later⟩ := List.forall_mem_cons.mp short
      rw [List.flatMap_cons, List.append_assoc,
        streamMessages_of_ok (readPrefixed_lengthPrefixed "EOF" first _), ih later, List.cons_append]

theorem Framed.extend {start whole : List UInt8} {message : Message} (framed : Framed start message)
    (starts : start <+: whole) : Framed whole message := by
  obtain ⟨rest, rfl⟩ := starts
  obtain ⟨long, size, content⟩ := framed
  refine ⟨by rw [List.length_append]; omega, ?_, ?_⟩
  · have same := @uint16At_take_append start start.length 0 rest (by omega) (Nat.le_refl _)
    rw [List.take_length] at same
    rw [same]
    exact size
  · have same := @slice_take_append start start.length 2 _ rest long (Nat.le_refl _)
    rw [List.take_length] at same
    rw [same]
    exact content

theorem streamMessages_torn {message : Message} (short : Short message) (count : Nat) :
    streamMessages ((lengthPrefixed message).dropLast.take count) = [] := by
  fun_cases streamMessages ((lengthPrefixed message).dropLast.take count) with
  | case1 reason failed => rfl
  | case2 found following succeeded =>
      exfalso
      have torn : (lengthPrefixed message).dropLast.take count <+: lengthPrefixed message :=
        (List.take_prefix _ _).trans (List.dropLast_prefix _)
      obtain ⟨framed, _⟩ := (readPrefixed_eq_ok_iff _ _ _ _).mp succeeded
      have whole := framed.extend torn
      have own := framed_lengthPrefixed short []
      rw [List.append_nil] at own
      have same : found.length = message.length := whole.2.1.symm.trans own.2.1
      have missing : ((lengthPrefixed message).dropLast.take count).length < 2 + message.length := by
        rw [List.length_take, List.length_dropLast, lengthPrefixed_eq, List.length_append,
          length_bytesOfUint16]
        omega
      have long := framed.1
      omega

/-! ### Answers fit -/

section Connection

variable {encode : List UInt8 → String}

theorem length_servfail (query : Message) : (servfail query).length = query.length := by
  simp [servfail, setByte]

theorem Attempt.short_of_delivers {query message : Message} {attempt : Attempt}
    (delivers : attempt.Delivers encode query message) : Short message := by
  cases attempt with
  | udp peer =>
      have found := List.mem_of_find?_eq_some delivers.2
      obtain ⟨datagram, _, same⟩ := List.mem_map.mp found
      rw [← same]
      exact Nat.lt_of_le_of_lt (List.length_take_le 4096 datagram) (by omega)
  | tcp peer => exact short_of_framed delivers.2
  | proxy netID peer =>
      obtain ⟨_, _, _, _, _, most, _⟩ := delivers
      exact Nat.lt_succ_of_le most

theorem answer_short (tcp : Bool) (turn : Turn) {query : Message} (long : 2 ≤ query.length)
    (short : Short query) : Short (answer encode tcp turn query) := by
  have found := @exchangeFrom_eq encode turn.net tcp query turn.chain 0 none
  unfold answer exchangeChain
  cases result : exchangeFrom encode turn.net tcp query turn.chain 0 none with
  | error cause =>
      unfold Short
      rw [length_servfail]
      exact short
  | ok message =>
      rw [result] at found
      obtain ⟨attempt, _, answered⟩ := List.exists_of_findSome?_eq_some found.symm
      have exchanged : attempt.exchange encode query = .ok message := by
        cases outcome : attempt.exchange encode query with
        | ok delivered =>
            rw [outcome] at answered
            cases answered
            rfl
        | error cause =>
            rw [outcome] at answered
            cases answered
      exact Attempt.short_of_delivers ((attempt.exchange_eq_ok_iff message long).mp exchanged)

/-! ### One connection -/

def hasHeader (query : Message) : Bool := 12 ≤ query.length

/-- The queries of a connection: it is closed at the first that is shorter than a DNS
header. -/
def queriesOf (incoming : List UInt8) : List Message := (streamMessages incoming).takeWhile hasHeader

theorem queriesOf_bounds {incoming : List UInt8} {query : Message}
    (member : query ∈ queriesOf incoming) : 2 ≤ query.length ∧ Short query := by
  have header : hasHeader query = true := List.mem_takeWhile_imp member
  have long : 12 ≤ query.length := of_decide_eq_true header
  exact ⟨by omega, short_of_mem_streamMessages ((List.takeWhile_sublist hasHeader).subset member)⟩

def relay (encode : List UInt8 → String) (turns : Nat → Turn) (served : Nat) (query : Message) :
    Relayed :=
  ⟨query, turns served, lengthPrefixed (answer encode true (turns served) query)⟩

/-- The queries are answered one after the other, until an answer cannot be written. -/
inductive Relays (encode : List UInt8 → String) (turns : Nat → Turn) :
    Nat → List Message → List Relayed → Prop
  | done (served : Nat) : Relays encode turns served [] []
  | failed (served : Nat) (query : Message) (rest : List Message)
      (unwritten : (turns served).cut ≠ none) :
      Relays encode turns served (query :: rest) [relay encode turns served query]
  | next (served : Nat) (query : Message) (rest : List Message) (relayed : List Relayed)
      (written : (turns served).cut = none)
      (others : Relays encode turns (served + 1) rest relayed) :
      Relays encode turns served (query :: rest) (relay encode turns served query :: relayed)

theorem relays_serveTCPConn (ends : String) (turns : Nat → Turn) (served : Nat)
    (incoming : List UInt8) :
    Relays encode turns served (queriesOf incoming)
      (serveTCPConn encode ends turns served incoming) := by
  fun_induction serveTCPConn encode ends turns served incoming with
  | case1 served incoming cause read =>
      unfold queriesOf
      rw [streamMessages_of_error read]
      exact .done served
  | case2 served incoming query rest read short =>
      have closes : ¬ hasHeader query = true := by
        unfold hasHeader
        rw [decide_eq_true_iff]
        omega
      unfold queriesOf
      rw [streamMessages_of_ok read, List.takeWhile_cons_of_neg closes]
      exact .done served
  | case3 served incoming query rest read long ih =>
      have continues : hasHeader query = true := by
        unfold hasHeader
        rw [decide_eq_true_iff]
        omega
      have queries : queriesOf incoming = query :: queriesOf rest := by
        unfold queriesOf
        rw [streamMessages_of_ok read, List.takeWhile_cons_of_pos continues]
      rw [queries]
      by_cases written : (turns served).cut = none
      · rw [if_pos written]
        exact .next served query _ _ written ih
      · rw [if_neg written]
        exact .failed served query _ written

/-- How far a connection comes: all answers before the one that cannot be written are
written, and of that one only a part. -/
structure Reaches (encode : List UInt8 → String) (turns : Nat → Turn) (served : Nat)
    (queries : List Message) (relayed : List Relayed) (stop : Nat) : Prop where
  within : stop ≤ queries.length
  written : ∀ index < stop, (turns (served + index)).cut = none
  stopped : stop < queries.length → (turns (served + stop)).cut ≠ none
  count : relayed.length = min (stop + 1) queries.length
  bytes : ∃ torn, streamMessages torn = [] ∧
    relayed.flatMap Relayed.sent =
      ((queries.mapIdx (fun index query => answer encode true (turns (served + index)) query)).take
        stop).flatMap lengthPrefixed ++ torn

theorem Relays.reaches {turns : Nat → Turn} {served : Nat} {queries : List Message}
    {relayed : List Relayed} (relays : Relays encode turns served queries relayed)
    (bounds : ∀ query ∈ queries, 2 ≤ query.length ∧ Short query) :
    ∃ stop, Reaches encode turns served queries relayed stop := by
  induction relays with
  | done served =>
      refine ⟨0, Nat.le_refl 0, fun _ below => absurd below (Nat.not_lt_zero _),
        fun below => absurd below (Nat.not_lt_zero 0), rfl, [], ?_, rfl⟩
      exact @streamMessages_of_error "EOF" "EOF" [] rfl
  | failed served query rest unwritten =>
      obtain ⟨long, short⟩ := bounds query List.mem_cons_self
      refine ⟨0, Nat.zero_le _, fun _ below => absurd below (Nat.not_lt_zero _),
        fun _ => unwritten, ?_, (relay encode turns served query).sent, ?_, ?_⟩
      · rw [List.length_singleton, List.length_cons]
        omega
      · obtain ⟨count, fails⟩ := Option.ne_none_iff_exists'.mp unwritten
        have part : (relay encode turns served query).sent =
            (lengthPrefixed (answer encode true (turns served) query)).dropLast.take count := by
          simp only [Relayed.sent, relay, fails]
        rw [part]
        exact streamMessages_torn (answer_short true (turns served) long short) count
      · rw [List.take_zero, List.flatMap_nil, List.nil_append, List.flatMap_singleton]
  | next served query rest relayed written others ih =>
      obtain ⟨stop, reaches⟩ := ih (fun later member => bounds later (List.mem_cons_of_mem _ member))
      obtain ⟨torn, unread, bytes⟩ := reaches.bytes
      have shift (index : Nat) : served + 1 + index = served + (index + 1) := by omega
      refine ⟨stop + 1, Nat.succ_le_succ reaches.within, ?_, ?_, ?_, torn, unread, ?_⟩
      · intro index below
        cases index with
        | zero => exact written
        | succ index =>
            rw [← shift]
            exact reaches.written index (Nat.lt_of_succ_lt_succ below)
      · intro below
        rw [← shift]
        exact reaches.stopped (Nat.lt_of_succ_lt_succ below)
      · have count := reaches.count
        rw [List.length_cons, List.length_cons]
        omega
      · have first : (relay encode turns served query).sent =
            lengthPrefixed (answer encode true (turns served) query) := by
          simp only [Relayed.sent, relay, written]
        rw [List.flatMap_cons, first, bytes, List.mapIdx_cons, List.take_succ_cons,
          List.flatMap_cons, List.append_assoc]
        simp only [shift, Nat.add_zero]

/-- The messages of the stream that a client reads are the answers to the messages of
the stream that it wrote, in order, up to the first query that is shorter than a DNS
header or the first answer that cannot be written; no query after that one is served. -/
theorem tcp_stream_answered (encode : List UInt8 → String) (ends : String) (turns : Nat → Turn)
    (incoming : List UInt8) :
    let relayed := serveTCPConn encode ends turns 0 incoming
    let answers := (queriesOf incoming).mapIdx
      (fun index query => answer encode true (turns index) query)
    ∃ stop ≤ answers.length,
      (∀ index < stop, (turns index).cut = none) ∧
      (stop < answers.length → (turns stop).cut ≠ none) ∧
      streamMessages (relayed.flatMap Relayed.sent) = answers.take stop ∧
      relayed.length = min (stop + 1) answers.length := by
  intro relayed answers
  have relays := @relays_serveTCPConn encode ends turns 0 incoming
  obtain ⟨stop, reaches⟩ := relays.reaches (fun _ member => queriesOf_bounds member)
  have written := reaches.written
  have stopped := reaches.stopped
  obtain ⟨torn, unread, bytes⟩ := reaches.bytes
  simp only [Nat.zero_add] at written stopped bytes
  have length : answers.length = (queriesOf incoming).length := List.length_mapIdx
  rw [length]
  refine ⟨stop, reaches.within, written, stopped, ?_, reaches.count⟩
  rw [bytes, streamMessages_flatMap, unread, List.append_nil]
  intro message member
  obtain ⟨index, below, same⟩ := List.mem_mapIdx.mp (List.mem_of_mem_take member)
  obtain ⟨long, short⟩ := queriesOf_bounds (List.getElem_mem below)
  rw [← same]
  exact answer_short true (turns index) long short

end Connection

end BridgeDhcp.Dns
