/-
The DNS listeners: what is written back for a query.

A listener relays the answer of the upstream chain, or makes a SERVFAIL of the query
when the chain fails.  The answer is not looked at again, so whether the client gets
its own transaction id back rests on what the accepted attempt has checked.
-/

import BridgeDhcp.Dns.Upstream

set_option autoImplicit false

namespace BridgeDhcp.Dns

open GoBytes

/-! ### The listeners -/

/-- What a query meets: the upstreams as they are at that time, the connections made
for it, and how many bytes of the answer are written before writing fails, if it does. -/
structure Turn where
  chain : List Upstream
  net : Network
  cut : Option Nat

/-- A query, what it met, and the bytes that were passed to `Write` for it. -/
structure Relayed where
  query : Message
  turn : Turn
  out : List UInt8

/-- The bytes that were written; a write that fails has left some out. -/
def Relayed.sent (relayed : Relayed) : List UInt8 :=
  match relayed.turn.cut with
  | none => relayed.out
  | some count => relayed.out.dropLast.take count

def servfail (query : Message) : Message :=
  let out := setByte 2 (byteAt query 2 ||| 0x80) query
  setByte 3 (byteAt out 3 &&& 0xF0 ||| 2) out

section Listeners

variable (encode : List UInt8 → String)

def answer (tcp : Bool) (turn : Turn) (query : Message) : Message :=
  match exchangeChain encode turn.net tcp query turn.chain with
  | .ok ans => ans
  | .error _ => servfail query

/-- The loop of `serveUDP` over the datagrams that arrive.  Each is cut to the size of
the buffer; one shorter than a DNS header is skipped. -/
def serveUDP : List (Message × Turn) → List Relayed
  | [] => []
  | (received, turn) :: rest =>
      let query := received.take 4096
      if query.length < 12 then serveUDP rest
      else ⟨query, turn, answer encode false turn query⟩ :: serveUDP rest

/-- The loop of `serveTCPConn` over the bytes of one client, with the number of queries
served so far.  It ends when a read or a write fails or a query is too short. -/
def serveTCPConn (ends : String) (turns : Nat → Turn) (served : Nat) (incoming : List UInt8) :
    List Relayed :=
  match read : readPrefixed ends incoming with
  | .error _ => []
  | .ok (query, rest) =>
      if query.length < 12 then []
      else
        ⟨query, turns served, lengthPrefixed (answer encode true (turns served) query)⟩ ::
          if (turns served).cut = none then serveTCPConn ends turns (served + 1) rest else []
termination_by incoming.length
decreasing_by
  obtain ⟨⟨whole, _⟩, rfl⟩ := (readPrefixed_eq_ok_iff _ _ _ _).mp read
  rw [List.length_drop]
  omega

variable {encode}

/-! ### Echoes -/

theorem servfail_echoes (query : Message) : Echoes query (servfail query) := by
  unfold Echoes servfail setByte
  rw [List.take_set_of_le (by decide), List.take_set_of_le (by decide)]

theorem answer_echoes_iff (tcp : Bool) (turn : Turn) {query : Message}
    (long : 2 ≤ query.length) :
    Echoes query (answer encode tcp turn query) ↔
      ¬ Misled encode query (attempts turn.net tcp turn.chain) := by
  rw [misled_iff _ long, attempts, ← exchangeFrom_eq turn.chain 0 none]
  unfold answer exchangeChain
  cases exchangeFrom encode turn.net tcp query turn.chain 0 none with
  | error err =>
      refine iff_of_true (servfail_echoes query) ?_
      rintro ⟨message, found, _⟩
      cases found
  | ok ans =>
      constructor
      · rintro echoes ⟨message, found, differs⟩
        cases found
        exact differs echoes
      · intro trusted
        by_contra differs
        exact trusted ⟨ans, rfl, differs⟩

theorem lengthPrefixed_eq (message : Message) :
    lengthPrefixed message = bytesOfUint16 (UInt16.ofNat message.length) ++ message := by
  have header : putUint16 0 (UInt16.ofNat message.length) (List.replicate (2 + message.length) 0) =
      bytesOfUint16 (UInt16.ofNat message.length) ++ (List.replicate message.length 0 ++ []) := by
    rw [← List.replicate_append_replicate, List.append_nil]
    exact @putUint16_field [] (List.replicate 2 0) _ 0 _ rfl rfl
  unfold lengthPrefixed
  rw [header, copyInto_zeros message (length_bytesOfUint16 _) rfl, field_of_length rfl,
    List.append_nil]

def Relayed.attempts (relayed : Relayed) (tcp : Bool) : List Attempt :=
  Dns.attempts relayed.turn.net tcp relayed.turn.chain

theorem serveUDP_echoes_iff (arrivals : List (Message × Turn)) :
    ∀ relayed ∈ serveUDP encode arrivals,
      Echoes relayed.query relayed.out ↔
        ¬ Misled encode relayed.query (relayed.attempts false) := by
  induction arrivals with
  | nil => exact nofun
  | cons arrival rest ih =>
      obtain ⟨received, turn⟩ := arrival
      unfold serveUDP
      dsimp only
      split
      · exact ih
      · next long =>
          intro relayed member
          rcases List.mem_cons.mp member with rfl | later
          · exact answer_echoes_iff false turn (by omega : 2 ≤ (received.take 4096).length)
          · exact ih relayed later

theorem serveTCPConn_echoes_iff (ends : String) (turns : Nat → Turn) (served : Nat)
    (incoming : List UInt8) :
    ∀ relayed ∈ serveTCPConn encode ends turns served incoming,
      Echoes relayed.query (relayed.out.drop 2) ↔
        ¬ Misled encode relayed.query (relayed.attempts true) := by
  fun_induction serveTCPConn encode ends turns served incoming with
  | case1 served incoming cause read => exact nofun
  | case2 served incoming query rest read short => exact nofun
  | case3 served incoming query rest read long ih =>
      intro relayed member
      rcases List.mem_cons.mp member with rfl | later
      · dsimp only
        rw [lengthPrefixed_eq, List.drop_left' (length_bytesOfUint16 _)]
        exact answer_echoes_iff true (turns served) (by omega : 2 ≤ query.length)
      · split at later
        · exact ih relayed later
        · cases later

/-- In every run of the listeners an answer echoes its query exactly if the chain was
not misled: over TCP the answer stands behind its length. -/
theorem relayed_answers_echo_iff (encode : List UInt8 → String) :
    (∀ arrivals, ∀ relayed ∈ serveUDP encode arrivals,
      Echoes relayed.query relayed.out ↔
        ¬ Misled encode relayed.query (relayed.attempts false)) ∧
    (∀ ends turns incoming, ∀ relayed ∈ serveTCPConn encode ends turns 0 incoming,
      Echoes relayed.query (relayed.out.drop 2) ↔
        ¬ Misled encode relayed.query (relayed.attempts true)) := by
  constructor
  · intro arrivals
    exact serveUDP_echoes_iff arrivals
  · intro ends turns incoming
    exact serveTCPConn_echoes_iff ends turns 0 incoming

end Listeners

/-! ### Upstreams that answer with another id -/

def sampleQuery : Message := [0xAB, 0xCD, 0x01, 0x00, 0x00, 0x01, 0x00, 0x00, 0x00, 0x00, 0x00, 0x00]

def sampleEncode (_ : List UInt8) : String := "q80BAAABAAAAAAAA"

def answering (incoming : List UInt8) : Network := fun _ _ _ =>
  { dial := .ok ()
    serve := fun _ => { write := .ok (), datagrams := [], incoming := incoming, ends := "EOF" } }

def serverTurn (incoming : List UInt8) : Turn where
  chain := [.serverList ⟨"static", ["192.0.2.53:53"]⟩]
  net := answering incoming
  cut := none

def proxyTurn (incoming : List UInt8) : Turn where
  chain := [.android ⟨"/dev/socket/dnsproxyd", 0⟩]
  net := answering incoming
  cut := none

/-- Over TCP an answer with another id is relayed, and so is an empty one; from the
proxy a single byte is. -/
theorem unchecked_answers_relayed :
    (serveTCPConn sampleEncode "EOF" (fun _ => serverTurn (lengthPrefixed [0x12, 0x34, 0x81, 0x80]))
      0 (lengthPrefixed sampleQuery)).map Relayed.out = [[0, 4, 0x12, 0x34, 0x81, 0x80]] ∧
    ¬ Echoes sampleQuery [0x12, 0x34, 0x81, 0x80] ∧
    (serveTCPConn sampleEncode "EOF" (fun _ => serverTurn (lengthPrefixed []))
      0 (lengthPrefixed sampleQuery)).map Relayed.out = [[0, 0]] ∧
    ¬ Echoes sampleQuery [] ∧
    (serveUDP sampleEncode [(sampleQuery, proxyTurn [0, 0, 0, 0, 0, 0, 0, 1, 7])]).map
      Relayed.out = [[7]] ∧
    ¬ Echoes sampleQuery [7] := by
  decide +kernel

end BridgeDhcp.Dns
