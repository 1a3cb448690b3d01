/-
The upstream resolvers of the DNS forwarder.

A query is handed to one resolver after the other until one answers: to the servers of a
list over UDP or TCP, or to Android's DNS proxy over its socket.  What the network does
with a connection is given; what the forwarder makes of it is here.
-/

import BridgeDhcp.GoBytes
import BridgeDhcp.GoError

set_option autoImplicit false

namespace BridgeDhcp.Dns

open GoBytes GoError

abbrev Message := List UInt8

/-! ### Connections -/

inductive Transport where
  | udp
  | tcp
  | unix
  deriving DecidableEq, Repr

/-- What becomes of a request: the result of the write, and what arrives before
reading fails with an error or at the deadline. -/
structure Served where
  write : Except String Unit
  datagrams : List Message
  incoming : List UInt8
  ends : String

structure Peer where
  dial : Except String Unit
  serve : List UInt8 → Served

/-- The connections that are made for one query, by number, transport and address. -/
abbrev Network := Nat → Transport → String → Peer

/-- `io.ReadFull`: the bytes and what follows them.  An end of the stream among the
bytes has an error of its own. -/
def readFull (ends : String) (count : Nat) (incoming : List UInt8) :
    Except String (List UInt8 × List UInt8) :=
  if count ≤ incoming.length then .ok (incoming.take count, incoming.drop count)
  else .error (if incoming ≠ [] ∧ ends = "EOF" then "unexpected EOF" else ends)

def Peer.request (peer : Peer) (bytes : List UInt8) : Except String Served := do
  peer.dial
  (peer.serve bytes).write
  .ok (peer.serve bytes)

/-! ### One exchange -/

def sameID (query answer : Message) : Bool :=
  2 ≤ answer.length && 2 ≤ query.length && byteAt answer 0 == byteAt query 0 &&
    byteAt answer 1 == byteAt query 1

/-- The loop of `exchangeUDP`; a datagram is cut to the size of the buffer. -/
def awaitDatagram (ends : String) (query : Message) : List Message → Except String Message
  | [] => .error ends
  | datagram :: rest =>
      if sameID query (datagram.take 4096) then .ok (datagram.take 4096)
      else awaitDatagram ends query rest

def exchangeUDP (peer : Peer) (query : Message) : Except String Message := do
  let served ← peer.request query
  awaitDatagram served.ends query served.datagrams

def lengthPrefixed (message : Message) : List UInt8 :=
  copyInto 2 (2 + message.length) message
    (putUint16 0 (UInt16.ofNat message.length) (List.replicate (2 + message.length) 0))

/-- A message behind its length is read back, with what follows it. -/
def readPrefixed (ends : String) (incoming : List UInt8) :
    Except String (Message × List UInt8) := do
  let (lenBuf, rest) ← readFull ends 2 incoming
  readFull ends (uint16At lenBuf 0).toNat rest

def exchangeTCP (peer : Peer) (query : Message) : Except String Message := do
  let served ← peer.request (lengthPrefixed query)
  let (ans, _) ← readPrefixed served.ends served.incoming
  .ok ans

section Exchange

variable (encode : List UInt8 → String)

/-- The command for Android's proxy.  `encode` is unpadded base64 for URLs. -/
def resnsend (netID : UInt32) (query : Message) : List UInt8 :=
  let encoded := encode query
  s!"resnsend 0 {netID} {encoded}".toUTF8.data.toList ++ [0]

/-- The answer must echo the query; an answer of one byte is not looked at. -/
def checkID (query ans : Message) : Except String Message :=
  if 2 ≤ ans.length ∧ 2 ≤ query.length ∧
      (byteAt ans 0 ≠ byteAt query 0 ∨ byteAt ans 1 ≠ byteAt query 1) then
    .error "dnsproxyd answer txid mismatch"
  else .ok ans

def readAnswer (ends : String) (query : Message) (incoming : List UInt8) :
    Except String Message := do
  let (length, rest) ← within "dnsproxyd read length" (readFull ends 4 incoming)
  let size := uint32At length 0
  if size = 0 ∨ 65535 < size then .error s!"dnsproxyd bogus answer length {size}"
  else
    let (ans, _) ← within "dnsproxyd read answer" (readFull ends size.toNat rest)
    checkID query ans

/-- `AndroidUpstream.Exchange` -/
def exchangeProxy (netID : UInt32) (peer : Peer) (query : Message) : Except String Message := do
  let served ← peer.request (resnsend encode netID query)
  let (status, rest) ← within "dnsproxyd read status" (readFull served.ends 4 served.incoming)
  let code := (uint32At status 0).toInt32
  if code < 0 then .error s!"dnsproxyd error: {code}"
  else readAnswer served.ends query rest

/-! ### The chain -/

structure ServerListUpstream where
  name : String
  /-- The servers as this call finds them. -/
  servers : List String

structure AndroidUpstream where
  socketPath : String
  netID : UInt32

inductive Upstream where
  | serverList (list : ServerListUpstream)
  | android (proxy : AndroidUpstream)

variable (net : Network) (tcp : Bool) (query : Message)

/-- The loop of `ServerListUpstream.Exchange`, with the number of connections made so
far and the last error. -/
def tryServers : List String → Nat → String → Except String Message × Nat
  | [], dialed, lastErr => (.error lastErr, dialed)
  | server :: rest, dialed, _ =>
      match if tcp then exchangeTCP (net dialed .tcp server) query
          else exchangeUDP (net dialed .udp server) query with
      | .ok ans => (.ok ans, dialed + 1)
      | .error err => tryServers rest (dialed + 1) err

def Upstream.exchange (dialed : Nat) : Upstream → Except String Message × Nat
  | .serverList list =>
      let name := list.name
      if list.servers = [] then (.error s!"{name}: no nameservers", dialed)
      else tryServers net tcp query list.servers dialed ""
  | .android proxy =>
      (exchangeProxy encode proxy.netID (net dialed .unix proxy.socketPath) query, dialed + 1)

def exchangeFrom : List Upstream → Nat → Option String → Except String Message
  | [], _, lastErr => .error (lastErr.getD "no upstreams configured")
  | upstream :: rest, dialed, _ =>
      match upstream.exchange encode net tcp query dialed with
      | (.ok ans, _) => .ok ans
      | (.error err, after) => exchangeFrom rest after (some err)

/-- `Chain.Exchange` -/
def exchangeChain (chain : List Upstream) : Except String Message :=
  exchangeFrom encode net tcp query chain 0 none

/-! ### The chain as a list of attempts -/

inductive Attempt where
  | udp (peer : Peer)
  | tcp (peer : Peer)
  | proxy (netID : UInt32) (peer : Peer)

def Attempt.exchange : Attempt → Except String Message
  | .udp peer => exchangeUDP peer query
  | .tcp peer => exchangeTCP peer query
  | .proxy netID peer => exchangeProxy encode netID peer query

def serverAttempts : List String → Nat → List Attempt
  | [], _ => []
  | server :: rest, dialed =>
      (if tcp then .tcp (net dialed .tcp server) else .udp (net dialed .udp server)) ::
        serverAttempts rest (dialed + 1)

def Upstream.attempts (dialed : Nat) : Upstream → List Attempt
  | .serverList list => serverAttempts net tcp list.servers dialed
  | .android proxy => [.proxy proxy.netID (net dialed .unix proxy.socketPath)]

def attemptsFrom : List Upstream → Nat → List Attempt
  | [], _ => []
  | upstream :: rest, dialed =>
      upstream.attempts net tcp dialed ++
        attemptsFrom rest (dialed + (upstream.attempts net tcp dialed).length)

def attempts (chain : List Upstream) : List Attempt := attemptsFrom net tcp chain 0

def firstAnswer (list : List Attempt) : Option Message :=
  list.findSome? (fun attempt => (attempt.exchange encode query).toOption)

variable {encode net tcp query}

theorem tryServers_eq (servers : List String) (dialed : Nat) (lastErr : String) :
    (tryServers net tcp query servers dialed lastErr).1.toOption =
        firstAnswer encode query (serverAttempts net tcp servers dialed) ∧
      ((tryServers net tcp query servers dialed lastErr).1.toOption = none →
        (tryServers net tcp query servers dialed lastErr).2 =
          dialed + (serverAttempts net tcp servers dialed).length) := by
  induction servers generalizing dialed lastErr with
  | nil => exact ⟨rfl, fun _ => rfl⟩
  | cons server rest ih =>
      have first : (if tcp then exchangeTCP (net dialed .tcp server) query
          else exchangeUDP (net dialed .udp server) query) =
        Attempt.exchange encode query (if tcp then .tcp (net dialed .tcp server)
          else .udp (net dialed .udp server)) := by
        cases tcp <;> rfl
      unfold tryServers serverAttempts firstAnswer
      rw [first, List.findSome?_cons]
      cases result : Attempt.exchange encode query (if tcp then .tcp (net dialed .tcp server)
          else .udp (net dialed .udp server)) with
      | ok ans =>
          refine ⟨rfl, ?_⟩
          intro failed
          cases failed
      | error err =>
          obtain ⟨answer, count⟩ := ih (dialed + 1) err
          refine ⟨answer, ?_⟩
          intro failed
          rw [List.length_cons, ← Nat.add_assoc, Nat.add_right_comm]
          exact count failed

theorem Upstream.exchange_eq (upstream : Upstream) (dialed : Nat) :
    (upstream.exchange encode net tcp query dialed).1.toOption =
        firstAnswer encode query (upstream.attempts net tcp dialed) ∧
      ((upstream.exchange encode net tcp query dialed).1.toOption = none →
        (upstream.exchange encode net tcp query dialed).2 =
          dialed + (upstream.attempts net tcp dialed).length) := by
  cases upstream with
  | serverList list =>
      unfold Upstream.exchange Upstream.attempts
      dsimp only
      split
      · next none_ =>
          rw [none_]
          exact ⟨rfl, fun _ => rfl⟩
      · exact tryServers_eq list.servers dialed ""
  | android proxy =>
      unfold Upstream.exchange Upstream.attempts firstAnswer
      dsimp only
      rw [List.findSome?_singleton]
      exact ⟨rfl, fun _ => rfl⟩

theorem exchangeFrom_eq (chain : List Upstream) (dialed : Nat) (lastErr : Option String) :
    (exchangeFrom encode net tcp query chain dialed lastErr).toOption =
      firstAnswer encode query (attemptsFrom net tcp chain dialed) := by
  induction chain generalizing dialed lastErr with
  | nil => rfl
  | cons upstream rest ih =>
      obtain ⟨answer, count⟩ := @Upstream.exchange_eq encode net tcp query upstream dialed
      unfold exchangeFrom attemptsFrom
      unfold firstAnswer at answer ⊢
      rw [List.findSome?_append, ← answer]
      generalize upstream.exchange encode net tcp query dialed = result at count ⊢
      obtain ⟨outcome, after⟩ := result
      cases outcome with
      | ok ans => rfl
      | error err =>
          have made : after = _ := count rfl
          rw [made]
          exact ih _ (some err)

end Exchange

/-! ### Which answers are accepted -/

def Echoes (query message : Message) : Prop := message.take 2 = query.take 2

instance (query message : Message) : Decidable (Echoes query message) :=
  inferInstanceAs (Decidable (message.take 2 = query.take 2))

theorem echoes_iff {query : Message} (message : Message) (long : 2 ≤ query.length) :
    Echoes query message ↔ 2 ≤ message.length ∧ byteAt message 0 = byteAt query 0 ∧
      byteAt message 1 = byteAt query 1 := by
  rcases query with _ | ⟨high, _ | ⟨low, rest⟩⟩
  · cases long
  · simp at long
  · rcases message with _ | ⟨first, _ | ⟨second, more⟩⟩ <;> simp [Echoes, byteAt]

def Peer.Reached (peer : Peer) (bytes : List UInt8) : Prop :=
  peer.dial = .ok () ∧ (peer.serve bytes).write = .ok ()

def Framed (incoming : List UInt8) (message : Message) : Prop :=
  2 + message.length ≤ incoming.length ∧ (uint16At incoming 0).toNat = message.length ∧
    slice 2 (2 + message.length) incoming = message

/-- The stream is a response of the proxy with this answer: a status that is not
negative, the length, and an answer that echoes the query unless it is a single byte. -/
def ProxyFramed (query : Message) (incoming : List UInt8) (message : Message) : Prop :=
  8 + message.length ≤ incoming.length ∧ ¬ (uint32At incoming 0).toInt32 < 0 ∧
    (uint32At incoming 4).toNat = message.length ∧ 1 ≤ message.length ∧
    message.length ≤ 65535 ∧ slice 8 (8 + message.length) incoming = message ∧
    (2 ≤ message.length → Echoes query message)

section Accepts

variable (encode : List UInt8 → String) (query : Message)

/-- The attempt ends with this answer, in terms of what the peer does and sends. -/
def Attempt.Delivers (message : Message) : Attempt → Prop
  | .udp peer =>
      peer.Reached query ∧
        ((peer.serve query).datagrams.map (List.take 4096)).find? (Echoes query ·) = some message
  | .tcp peer =>
      peer.Reached (lengthPrefixed query) ∧
        Framed (peer.serve (lengthPrefixed query)).incoming message
  | .proxy netID peer =>
      peer.Reached (resnsend encode netID query) ∧
        ProxyFramed query (peer.serve (resnsend encode netID query)).incoming message

/-- The attempt ends with an answer that does not echo the query: over TCP with any
such message, from the proxy with a single byte. -/
def Attempt.Misleads : Attempt → Prop
  | .udp _ => False
  | .tcp peer =>
      peer.Reached (lengthPrefixed query) ∧
        ∃ message, Framed (peer.serve (lengthPrefixed query)).incoming message ∧
          ¬ Echoes query message
  | .proxy netID peer =>
      peer.Reached (resnsend encode netID query) ∧
        ∃ byte, ProxyFramed query (peer.serve (resnsend encode netID query)).incoming [byte]

variable {encode query}

theorem Peer.request_eq_ok_iff (peer : Peer) (bytes : List UInt8) (served : Served) :
    peer.request bytes = .ok served ↔ peer.Reached bytes ∧ peer.serve bytes = served := by
  unfold Peer.request Peer.Reached
  cases peer.dial with
  | error cause => exact iff_of_false nofun nofun
  | ok _ =>
      cases (peer.serve bytes).write with
      | error cause => exact iff_of_false nofun nofun
      | ok _ =>
          refine ⟨fun done => ⟨⟨rfl, rfl⟩, Except.ok.inj done⟩, ?_⟩
          intro ⟨_, same⟩
          exact congrArg Except.ok same

theorem Peer.request_bind_eq_ok_iff (peer : Peer) (bytes : List UInt8)
    (next : Served → Except String Message) (message : Message) :
    (peer.request bytes >>= next) = .ok message ↔
      peer.Reached bytes ∧ next (peer.serve bytes) = .ok message := by
  rw [bind_eq_ok_iff]
  constructor
  · rintro ⟨served, done, accepted⟩
    obtain ⟨reached, rfl⟩ := (peer.request_eq_ok_iff bytes served).mp done
    exact ⟨reached, accepted⟩
  · rintro ⟨reached, accepted⟩
    exact ⟨peer.serve bytes, (peer.request_eq_ok_iff bytes _).mpr ⟨reached, rfl⟩, accepted⟩

theorem readFull_eq_ok_iff (ends : String) (count : Nat) (incoming : List UInt8)
    (result : List UInt8 × List UInt8) :
    readFull ends count incoming = .ok result ↔
      count ≤ incoming.length ∧ (incoming.take count, incoming.drop count) = result := by
  unfold readFull
  split
  · next enough => exact ⟨fun done => ⟨enough, Except.ok.inj done⟩, fun both => congrArg _ both.2⟩
  · next short => exact iff_of_false nofun (fun both => short both.1)

theorem readFull_bind_eq_ok_iff {Result : Type} (ends : String) (count : Nat)
    (incoming : List UInt8) (next : List UInt8 × List UInt8 → Except String Result)
    (result : Result) :
    (readFull ends count incoming >>= next) = .ok result ↔
      count ≤ incoming.length ∧ next (incoming.take count, incoming.drop count) = .ok result := by
  rw [bind_eq_ok_iff]
  constructor
  · rintro ⟨parts, read, done⟩
    obtain ⟨enough, rfl⟩ := (readFull_eq_ok_iff _ _ _ _).mp read
    exact ⟨enough, done⟩
  · rintro ⟨enough, done⟩
    exact ⟨_, (readFull_eq_ok_iff _ _ _ _).mpr ⟨enough, rfl⟩, done⟩

theorem readFull_drop_eq_ok_iff (ends : String) (count start : Nat) (incoming : List UInt8)
    (message rest : List UInt8) :
    start ≤ incoming.length ∧ readFull ends count (incoming.drop start) = .ok (message, rest) ↔
      (start + message.length ≤ incoming.length ∧ count = message.length ∧
        slice start (start + message.length) incoming = message) ∧
      incoming.drop (start + message.length) = rest := by
  rw [readFull_eq_ok_iff, List.length_drop, List.take_drop, List.drop_drop, Prod.mk.injEq]
  constructor
  · rintro ⟨inside, enough, found, rfl⟩
    have length : message.length = count := by
      rw [← found, List.length_drop, List.length_take]
      omega
    rw [length]
    exact ⟨⟨by omega, rfl, found⟩, rfl⟩
  · rintro ⟨⟨whole, rfl, found⟩, rfl⟩
    exact ⟨by omega, by omega, found, rfl⟩

theorem readPrefixed_eq_ok_iff (ends : String) (incoming : List UInt8) (message : Message)
    (rest : List UInt8) :
    readPrefixed ends incoming = .ok (message, rest) ↔
      Framed incoming message ∧ incoming.drop (2 + message.length) = rest := by
  unfold readPrefixed Framed
  rw [readFull_bind_eq_ok_iff]
  dsimp only
  rw [uint16At_take incoming (Nat.lt_succ_self 1), readFull_drop_eq_ok_iff]

theorem sameID_iff (message : Message) (long : 2 ≤ query.length) :
    sameID query message = true ↔ Echoes query message := by
  rw [echoes_iff message long]
  simp [sameID, long, and_assoc]

theorem awaitDatagram_eq_ok_iff (ends : String) (datagrams : List Message) (message : Message)
    (long : 2 ≤ query.length) :
    awaitDatagram ends query datagrams = .ok message ↔
      (datagrams.map (List.take 4096)).find? (Echoes query ·) = some message := by
  induction datagrams with
  | nil => exact iff_of_false nofun nofun
  | cons datagram rest ih =>
      unfold awaitDatagram
      rw [List.map_cons, List.find?_cons]
      by_cases echoes : Echoes query (datagram.take 4096)
      · rw [if_pos ((sameID_iff _ long).mpr echoes), decide_eq_true echoes]
        exact ⟨fun same => congrArg some (Except.ok.inj same),
          fun same => congrArg Except.ok (Option.some.inj same)⟩
      · rw [if_neg (fun same => echoes ((sameID_iff _ long).mp same)), decide_eq_false echoes]
        exact ih

theorem checkID_eq_ok_iff (ans message : Message) (long : 2 ≤ query.length) :
    checkID query ans = .ok message ↔
      (2 ≤ message.length → Echoes query message) ∧ ans = message := by
  unfold checkID
  split
  · next differs =>
      refine iff_of_false nofun ?_
      rintro ⟨checked, rfl⟩
      obtain ⟨_, first, second⟩ := (echoes_iff ans long).mp (checked differs.1)
      rcases differs.2.2 with other | other
      · exact other first
      · exact other second
  · next passes =>
      constructor
      · intro same
        cases same
        refine ⟨?_, rfl⟩
        intro two
        rw [echoes_iff ans long]
        simpa [two, long] using passes
      · rintro ⟨_, rfl⟩
        rfl

theorem soundSize_iff (size : UInt32) :
    ¬ (size = 0 ∨ 65535 < size) ↔ 1 ≤ size.toNat ∧ size.toNat ≤ 65535 := by
  rw [not_or, UInt32.lt_iff_toNat_lt, ← UInt32.toNat_inj]
  simp only [UInt32.toNat_ofNat, Nat.reducePow, Nat.reduceMod]
  omega

theorem readAnswer_eq_ok_iff (ends : String) (incoming : List UInt8) (message : Message)
    (long : 2 ≤ query.length) :
    readAnswer ends query incoming = .ok message ↔
      4 + message.length ≤ incoming.length ∧ (uint32At incoming 0).toNat = message.length ∧
        1 ≤ message.length ∧ message.length ≤ 65535 ∧
        slice 4 (4 + message.length) incoming = message ∧
        (2 ≤ message.length → Echoes query message) := by
  unfold readAnswer
  rw [within_bind_eq_ok_iff, readFull_bind_eq_ok_iff]
  dsimp only
  rw [uint32At_take incoming (Nat.lt_succ_self 3), ite_error_eq_ok_iff, soundSize_iff,
    within_bind_eq_ok_iff, bind_eq_ok_iff]
  constructor
  · rintro ⟨four, ⟨least, most⟩, ⟨ans, rest⟩, read, checked⟩
    obtain ⟨echoes, rfl⟩ := (checkID_eq_ok_iff _ _ long).mp checked
    obtain ⟨⟨whole, length, found⟩, _⟩ :=
      (readFull_drop_eq_ok_iff _ _ _ _ _ _).mp ⟨four, read⟩
    rw [length] at least most
    exact ⟨whole, length, least, most, found, echoes⟩
  · rintro ⟨whole, length, least, most, found, echoes⟩
    obtain ⟨four, read⟩ :=
      (readFull_drop_eq_ok_iff ends _ _ _ _ _).mpr ⟨⟨whole, length, found⟩, rfl⟩
    rw [← length] at least most
    exact ⟨four, ⟨least, most⟩, (message, _), read, (checkID_eq_ok_iff _ _ long).mpr ⟨echoes, rfl⟩⟩

theorem exchangeProxy_eq_ok_iff (netID : UInt32) (peer : Peer) (message : Message)
    (long : 2 ≤ query.length) :
    exchangeProxy encode netID peer query = .ok message ↔
      (Attempt.proxy netID peer).Delivers encode query message := by
  unfold exchangeProxy Attempt.Delivers ProxyFramed
  rw [Peer.request_bind_eq_ok_iff]
  refine and_congr_right ?_
  intro _
  generalize peer.serve (resnsend encode netID query) = served
  rw [within_bind_eq_ok_iff, readFull_bind_eq_ok_iff]
  dsimp only
  rw [uint32At_take served.incoming (Nat.lt_succ_self 3), ite_error_eq_ok_iff,
    readAnswer_eq_ok_iff _ _ _ long, List.length_drop, uint32At_drop, slice_drop, ← Nat.add_assoc]
  constructor
  · rintro ⟨four, positive, whole, answer⟩
    exact ⟨by omega, positive, answer⟩
  · rintro ⟨whole, positive, answer⟩
    exact ⟨by omega, positive, by omega, answer⟩

theorem Attempt.exchange_eq_ok_iff (attempt : Attempt) (message : Message)
    (long : 2 ≤ query.length) :
    attempt.exchange encode query = .ok message ↔ attempt.Delivers encode query message := by
  cases attempt with
  | udp peer =>
      unfold Attempt.exchange Attempt.Delivers exchangeUDP
      rw [Peer.request_bind_eq_ok_iff, awaitDatagram_eq_ok_iff _ _ _ long]
  | tcp peer =>
      unfold Attempt.exchange Attempt.Delivers exchangeTCP
      rw [Peer.request_bind_eq_ok_iff, bind_eq_ok_iff]
      refine and_congr_right ?_
      intro _
      constructor
      · rintro ⟨⟨ans, rest⟩, read, same⟩
        cases same
        exact ((readPrefixed_eq_ok_iff _ _ _ _).mp read).1
      · intro framed
        exact ⟨(message, _), (readPrefixed_eq_ok_iff _ _ _ _).mpr ⟨framed, rfl⟩, rfl⟩
  | proxy netID peer => exact exchangeProxy_eq_ok_iff netID peer message long

/-- The datagrams of a UDP exchange are searched for an echo, so only the other two
kinds of attempts can mislead. -/
theorem Attempt.misleads_iff (attempt : Attempt) (long : 2 ≤ query.length) :
    attempt.Misleads encode query ↔
      ∃ message, attempt.Delivers encode query message ∧ ¬ Echoes query message := by
  cases attempt with
  | udp peer =>
      refine iff_of_false id ?_
      rintro ⟨message, ⟨_, found⟩, differs⟩
      have echoes := List.find?_some found
      exact differs (of_decide_eq_true echoes)
  | tcp peer =>
      unfold Attempt.Misleads Attempt.Delivers
      simp only [and_assoc, exists_and_left]
  | proxy netID peer =>
      unfold Attempt.Misleads Attempt.Delivers
      constructor
      · rintro ⟨reached, byte, framed⟩
        refine ⟨[byte], ⟨reached, framed⟩, ?_⟩
        intro echoes
        have two := ((echoes_iff [byte] long).mp echoes).1
        simp at two
      · rintro ⟨message, ⟨reached, framed⟩, differs⟩
        obtain ⟨_, _, _, least, _, _, checked⟩ := id framed
        have single : message.length = 1 := by
          by_contra more
          exact differs (checked (by omega))
        obtain ⟨byte, rfl⟩ := List.length_eq_one_iff.mp single
        exact ⟨reached, byte, framed⟩

variable (encode query) in
/-- An attempt misleads, and no earlier one ends with an answer. -/
def Misled (list : List Attempt) : Prop :=
  ∃ before misleading after, list = before ++ misleading :: after ∧
    (∀ earlier ∈ before, ∀ message, ¬ earlier.Delivers encode query message) ∧
    misleading.Misleads encode query

theorem misled_iff (list : List Attempt) (long : 2 ≤ query.length) :
    Misled encode query list ↔
      ∃ message, firstAnswer encode query list = some message ∧ ¬ Echoes query message := by
  have delivered : ∀ (attempt : Attempt) (message : Message),
      (attempt.exchange encode query).toOption = some message ↔
        attempt.Delivers encode query message := by
    intro attempt message
    rw [← attempt.exchange_eq_ok_iff message long]
    cases attempt.exchange encode query <;> simp [Except.toOption]
  have silent : ∀ attempt : Attempt,
      (attempt.exchange encode query).toOption = none ↔
        ∀ message, ¬ attempt.Delivers encode query message := by
    intro attempt
    rw [Option.eq_none_iff_forall_ne_some]
    exact forall_congr' (fun message => not_congr (delivered attempt message))
  unfold Misled firstAnswer
  constructor
  · rintro ⟨before, misleading, after, order, earlier, misleads⟩
    obtain ⟨message, delivers, differs⟩ := (misleading.misleads_iff long).mp misleads
    refine ⟨message, List.findSome?_eq_some_iff.mpr ?_, differs⟩
    exact ⟨before, misleading, after, order, (delivered _ _).mpr delivers,
      fun attempt member => (silent attempt).mpr (earlier attempt member)⟩
  · rintro ⟨message, found, differs⟩
    obtain ⟨before, misleading, after, order, delivers, earlier⟩ :=
      List.findSome?_eq_some_iff.mp found
    refine ⟨before, misleading, after, order,
      fun attempt member => (silent attempt).mp (earlier attempt member), ?_⟩
    exact (misleading.misleads_iff long).mpr ⟨message, (delivered _ _).mp delivers, differs⟩

end Accepts

end BridgeDhcp.Dns
