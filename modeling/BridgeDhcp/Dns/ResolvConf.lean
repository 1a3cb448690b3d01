/-
The upstream that follows resolv.conf.

`NewResolvConf` keeps the servers of the file until its modification time changes; each
query looks them up.
-/

import BridgeDhcp.Dns.Upstream
import BridgeDhcp.GoText
import BridgeDhcp.StampedCache
import Mathlib

set_option autoImplicit false

namespace BridgeDhcp.Dns

open GoText StampedCache StepRun

/-! ### Words and addresses -/

/-- `strings.Fields`, with the word that is being read. -/
def splitFields : List Char → List Char → List (List Char)
  | word, [] => if word = [] then [] else [word.reverse]
  | word, char :: rest =>
      if isSpace char then
        if word = [] then splitFields [] rest else word.reverse :: splitFields [] rest
      else splitFields (char :: word) rest

def fields (line : List Char) : List (List Char) := splitFields [] line

def lastColon (text : List Char) : Option (List Char × List Char) :=
  if ':' ∈ text then
    let port := (text.reverse.takeWhile (· != ':')).reverse
    some (text.take (text.length - port.length - 1), port)
  else none

/-- `net.SplitHostPort`; absent if it fails. -/
def splitHostPort (hostport : List Char) : Option (List Char × List Char) :=
  match lastColon hostport with
  | none => none
  | some (before, port) =>
      match hostport with
      | '[' :: inner =>
          let host := inner.takeWhile (· != ']')
          let rest := inner.dropWhile (· != ']')
          if rest = ']' :: ':' :: port ∧ '[' ∉ inner ∧ ']' ∉ port then some (host, port) else none
      | _ =>
          if ':' ∈ before ∨ '[' ∈ hostport ∨ ']' ∈ hostport then none else some (before, port)

def withPort (server : List Char) : List Char :=
  if (splitHostPort server).isSome then server
  else if ':' ∈ server ∧ server.head? ≠ some '[' then '[' :: server ++ "]:53".toList
  else server ++ ":53".toList

def normalizeServers (servers : List (List Char)) : List (List Char) :=
  (servers.map trim).filterMap (fun server =>
    if server = [] then none else some (withPort server))

def nameservers (lines : List (List Char)) : List (List Char) :=
  lines.filterMap (fun line =>
    match fields line with
    | keyword :: server :: _ => if keyword = "nameserver".toList then some server else none
    | _ => none)

/-- `parseResolvConf`; a file that cannot be opened has no nameservers. -/
def parseResolvConf (lines : Option (List (List Char))) : List (List Char) :=
  match lines with
  | none => []
  | some lines => nameservers lines

/-! ### Entries of the file -/

def Word (text : List Char) : Prop := text ≠ [] ∧ ∀ char ∈ text, isSpace char = false

theorem splitFields_words {word : List Char} (spaceless : ∀ char ∈ word, isSpace char = false)
    (line : List Char) : ∀ found ∈ splitFields word line, Word found := by
  have finished : word ≠ [] → Word word.reverse := by
    intro nonempty
    refine ⟨List.reverse_ne_nil_iff.mpr nonempty, ?_⟩
    intro char member
    exact spaceless char (List.mem_reverse.mp member)
  have nothing : ∀ char ∈ ([] : List Char), isSpace char = false := List.forall_mem_nil _
  induction line generalizing word with
  | nil =>
      unfold splitFields
      split
      · exact List.forall_mem_nil _
      · next nonempty => exact List.forall_mem_singleton.mpr (finished nonempty)
  | cons char rest ih =>
      unfold splitFields
      split
      · split
        · exact ih nothing (fun absurdity => absurd rfl absurdity)
        · next nonempty =>
            intro found member
            rcases List.mem_cons.mp member with same | later
            · rw [same]
              exact finished nonempty
            · exact ih nothing (fun absurdity => absurd rfl absurdity) found later
      · next other =>
          have longer : ∀ found ∈ char :: word, isSpace found = false :=
            List.forall_mem_cons.mpr ⟨Bool.eq_false_iff.mpr other, spaceless⟩
          apply ih longer
          intro _
          refine ⟨List.reverse_ne_nil_iff.mpr (List.cons_ne_nil char word), ?_⟩
          intro found member
          exact longer found (List.mem_reverse.mp member)

theorem word_of_mem_fields {line word : List Char} (member : word ∈ fields line) : Word word :=
  splitFields_words (List.forall_mem_nil _) line word member

theorem word_of_mem_nameservers {lines : List (List Char)} {server : List Char}
    (member : server ∈ nameservers lines) : Word server := by
  obtain ⟨line, _, found⟩ := List.mem_filterMap.mp member
  cases words : fields line with
  | nil =>
      rw [words] at found
      cases found
  | cons keyword others =>
      cases others with
      | nil =>
          rw [words] at found
          cases found
      | cons second more =>
          rw [words] at found
          dsimp only at found
          split at found
          · cases found
            apply word_of_mem_fields
            rw [words]
            exact List.mem_cons_of_mem keyword List.mem_cons_self
          · cases found

theorem normalizeServers_words {servers : List (List Char)} (words : ∀ server ∈ servers, Word server) :
    normalizeServers servers = servers.map withPort := by
  induction servers with
  | nil => rfl
  | cons server rest ih =>
      obtain ⟨first, others⟩ := List.forall_mem_cons.mp words
      have later := ih others
      unfold normalizeServers at later ⊢
      rw [List.map_cons, trim_of_spaceless first.2, List.filterMap_cons, if_neg first.1, later,
        List.map_cons]

/-! ### Ports -/

theorem lastColon_append (before : List Char) {port : List Char} (colonless : ':' ∉ port) :
    lastColon (before ++ ':' :: port) = some (before, port) := by
  have all : ∀ char ∈ port.reverse, (char != ':') = true := by
    intro char member
    rw [bne_iff_ne]
    intro same
    exact colonless (same ▸ List.mem_reverse.mp member)
  have taken : ((before ++ ':' :: port).reverse.takeWhile (· != ':')).reverse = port := by
    rw [List.reverse_append, List.reverse_cons, List.append_assoc, List.takeWhile_append_of_pos all,
      List.singleton_append, List.takeWhile_cons_of_neg (by decide), List.append_nil,
      List.reverse_reverse]
  unfold lastColon
  rw [if_pos (List.mem_append_right before List.mem_cons_self)]
  dsimp only
  rw [taken]
  have start : (before ++ ':' :: port).length - port.length - 1 = before.length := by
    rw [List.length_append, List.length_cons]
    omega
  rw [start, List.take_left]

theorem splitHostPort_bare {before port : List Char} (colonless : ':' ∉ port)
    (noOpen : '[' ∉ before ++ ':' :: port) (noClose : ']' ∉ before ++ ':' :: port) :
    splitHostPort (before ++ ':' :: port) = if ':' ∈ before then none else some (before, port) := by
  unfold splitHostPort
  rw [lastColon_append before colonless]
  dsimp only
  split
  · next inner begins =>
      rw [begins] at noOpen
      exact absurd List.mem_cons_self noOpen
  · simp [noOpen, noClose]

theorem splitHostPort_bracketed {host port : List Char} (colonless : ':' ∉ port)
    (noOpen : '[' ∉ host ++ ']' :: ':' :: port) (noClose : ']' ∉ host) (portClose : ']' ∉ port) :
    splitHostPort ('[' :: (host ++ ']' :: ':' :: port)) = some (host, port) := by
  have inside : ∀ char ∈ host, (char != ']') = true := by
    intro char member
    rw [bne_iff_ne]
    intro same
    exact noClose (same ▸ member)
  have layout : '[' :: (host ++ ']' :: ':' :: port) = ('[' :: (host ++ [']'])) ++ ':' :: port := by
    simp
  have colon : lastColon ('[' :: (host ++ ']' :: ':' :: port)) =
      some ('[' :: (host ++ [']']), port) := by
    rw [layout]
    exact lastColon_append _ colonless
  unfold splitHostPort
  rw [colon]
  change (if (host ++ ']' :: ':' :: port).dropWhile (· != ']') = ']' :: ':' :: port ∧
      '[' ∉ host ++ ']' :: ':' :: port ∧ ']' ∉ port then
    some ((host ++ ']' :: ':' :: port).takeWhile (· != ']'), port) else none) = _
  rw [List.takeWhile_append_of_pos inside, List.dropWhile_append_of_pos inside,
    List.takeWhile_cons_of_neg (by decide), List.dropWhile_cons_of_neg (by decide), List.append_nil,
    if_pos ⟨rfl, noOpen, portClose⟩]

/-- An entry without brackets that does not name a port itself: a name, an IPv4 address
or an IPv6 address. -/
def Portless (server : List Char) : Prop :=
  '[' ∉ server ∧ ']' ∉ server ∧ server.count ':' ≠ 1

instance decidablePortless (server : List Char) : Decidable (Portless server) :=
  inferInstanceAs (Decidable (_ ∧ _ ∧ _))

def dnsPort : List Char := "53".toList

theorem exists_lastColon {text : List Char} (colon : ':' ∈ text) :
    ∃ before port, text = before ++ ':' :: port ∧ ':' ∉ port := by
  obtain ⟨last, first, same, none⟩ := List.eq_append_cons_of_mem (List.mem_reverse.mpr colon)
  refine ⟨first.reverse, last.reverse, ?_, ?_⟩
  · rw [← List.reverse_reverse text, same]
    simp
  · intro member
    exact none (List.mem_reverse.mp member)

theorem withPort_name {server : List Char} (colonless : ':' ∉ server) :
    withPort server = server ++ ':' :: dnsPort := by
  have bare : splitHostPort server = none := by
    unfold splitHostPort lastColon
    rw [if_neg colonless]
  unfold withPort
  rw [bare, Option.isSome_none, if_neg Bool.false_ne_true, if_neg (fun both => colonless both.1)]
  rfl

theorem withPort_colons {before port : List Char} (colonless : ':' ∉ port) (more : ':' ∈ before)
    (noOpen : '[' ∉ before ++ ':' :: port) (noClose : ']' ∉ before ++ ':' :: port) :
    withPort (before ++ ':' :: port) =
      '[' :: ((before ++ ':' :: port) ++ ']' :: ':' :: dnsPort) := by
  have head : (before ++ ':' :: port).head? ≠ some '[' := by
    intro begins
    exact noOpen (List.mem_of_mem_head? begins)
  unfold withPort
  rw [splitHostPort_bare colonless noOpen noClose, if_pos more, Option.isSome_none,
    if_neg Bool.false_ne_true, if_pos ⟨List.mem_append_left _ more, head⟩, List.cons_append]
  rfl

theorem splitHostPort_withPort {server : List Char} (portless : Portless server) :
    splitHostPort (withPort server) = some (server, dnsPort) := by
  obtain ⟨noOpen, noClose, colons⟩ := portless
  have port : ':' ∉ dnsPort ∧ '[' ∉ dnsPort ∧ ']' ∉ dnsPort := by decide
  by_cases colon : ':' ∈ server
  · obtain ⟨before, last, same, colonless⟩ := exists_lastColon colon
    subst same
    have more : ':' ∈ before := by
      by_contra only
      apply colons
      rw [List.count_append, List.count_cons_self, List.count_eq_zero.mpr only,
        List.count_eq_zero.mpr colonless]
    rw [withPort_colons colonless more noOpen noClose]
    apply splitHostPort_bracketed port.1 _ noClose port.2.2
    rw [List.mem_append, not_or]
    exact ⟨noOpen, by decide⟩
  · rw [withPort_name colon, splitHostPort_bare port.1, if_neg colon]
    · rw [List.mem_append, not_or]
      exact ⟨noOpen, by decide⟩
    · rw [List.mem_append, not_or]
      exact ⟨noClose, by decide⟩

/-! ### Following the file -/

/-- The file at a moment: its modification time and the lines read from it, if it can be
opened. -/
abbrev ResolvFile := Option (Version Int (Option (List (List Char))))

def nameserversOf (file : ResolvFile) : List (List Char) :=
  parseResolvConf (file.map Version.content).join

def serversOf (content : Option (Option (List (List Char)))) : List (List Char) :=
  normalizeServers (parseResolvConf content.join)

def isCached (servers : List (List Char)) : Bool := servers != []

def load (cache : Cache Int (List (List Char))) (atStat atOpen : ResolvFile) :
    List (List Char) × Cache Int (List (List Char)) :=
  StampedCache.lookup serversOf isCached cache atStat atOpen

theorem serversOf_eq (file : ResolvFile) :
    serversOf (file.map Version.content) = (nameserversOf file).map withPort := by
  apply normalizeServers_words
  intro server member
  unfold parseResolvConf at member
  split at member
  · cases member
  · exact word_of_mem_nameservers member

def newResolvConf (file : ResolvFile) : System Int (Option (List (List Char))) (List (List Char)) where
  source := file
  cache := ⟨0, []⟩

abbrev ResolvInput := Input Int (Option (List (List Char)))

/-- What a lookup finds is kept until the next one.  It finds the nameservers that the file
had while it ran, each with port 53, and if there is no file what the last one has found. -/
def Follows (system : System Int (Option (List (List Char))) (List (List Char))) :
    ResolvInput → Prop
  | .change file => (step serversOf isCached system (.change file)).cache = system.cache
  | .lookup between =>
      let found := (load system.cache system.source (between.getLastD system.source)).1
      found = (step serversOf isCached system (.lookup between)).cache.value ∧
        match system.source with
        | none => found = system.cache.value
        | some version => ∃ seen ∈ some version :: between,
            found.map splitHostPort = (nameserversOf seen).map (fun server => some (server, dnsPort))

/-- In every run in which the modification time grows with every change of the file, the
servers of every query are those of the file at that time, or the last ones while there is
no file. -/
theorem nameservers_followed (file : ResolvFile) (inputs : List ResolvInput)
    (stamped : (file :: inputs.flatMap Input.changes).Pairwise Later)
    (portless : ∀ version ∈ file :: inputs.flatMap Input.changes,
      ∀ server ∈ nameserversOf version, Portless server) :
    Throughout (step serversOf isCached) Follows (newResolvConf file) inputs := by
  have sound : Sound serversOf isCached (newResolvConf file) (inputs.flatMap Input.changes) :=
    ⟨stamped, fun keeps => by cases keeps⟩
  have fresh := lookups_fresh rfl sound
  intro before input after split
  have here := fresh before input after split
  cases input with
  | change source => exact here
  | lookup between =>
      obtain ⟨kept, fresh⟩ := here
      refine ⟨kept, ?_⟩
      have source := source_mem_run serversOf isCached (newResolvConf file) before
      cases present : (run (step serversOf isCached) (newResolvConf file) before).source with
      | none => rfl
      | some version =>
          rw [present] at fresh source
          obtain ⟨seen, member, found⟩ := fresh
          refine ⟨seen, member, ?_⟩
          have known : seen ∈ file :: inputs.flatMap Input.changes := by
            rw [split, List.flatMap_append, List.flatMap_cons]
            rcases List.mem_cons.mp member with same | during
            · rw [same, ← List.cons_append]
              exact List.mem_append_left _ source
            · exact List.mem_cons_of_mem file (List.mem_append_right _ (List.mem_append_left _ during))
          have servers : (load _ _ _).1 = _ := found
          rw [present] at servers
          rw [servers, serversOf_eq, List.map_map]
          apply List.map_congr_left
          intro server listed
          exact splitHostPort_withPort (portless seen known server listed)

def fileWith (mtime : Int) (line : String) : ResolvFile :=
  some ⟨mtime, some ["# generated".toList, line.toList]⟩

/-- The file is rewritten between `Stat` and `Open` of the first lookup, and later it is
removed. -/
def rewrittenFile : List ResolvInput :=
  [.lookup [fileWith 20 "nameserver 2001:db8::53"], .lookup [], .change none, .lookup []]

theorem nameservers_followed_rewritten :
    let start := newResolvConf (fileWith 10 "nameserver  192.0.2.53")
    Throughout (step serversOf isCached) Follows start rewrittenFile ∧
      (run (step serversOf isCached) start rewrittenFile).cache =
        ⟨20, ["[2001:db8::53]:53".toList]⟩ := by
  exact ⟨nameservers_followed _ _ (by decide +kernel) (by decide +kernel), by decide +kernel⟩

theorem same_mtime_stale :
    let first := fileWith 10 "nameserver 192.0.2.53"
    let second := fileWith 10 "nameserver 198.51.100.53"
    (load (run (step serversOf isCached) (newResolvConf first) [.lookup [], .change second]).cache
      second second).1 = ["192.0.2.53:53".toList] := by
  decide +kernel

end BridgeDhcp.Dns
