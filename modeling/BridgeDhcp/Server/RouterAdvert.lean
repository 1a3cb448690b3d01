/-
Router advertisements and the countdown of withdrawn prefixes.

The advertised prefixes are the live ones of length 64.  A prefix that was live at
the previous call and is not any more is reported a few more times, with zero
lifetimes.  The functions that range over maps take the orders as arguments.
-/

import BridgeDhcp.GoMapRange
import BridgeDhcp.Packet.Ingress
import BridgeDhcp.Server.IfaceConfig

set_option autoImplicit false

namespace BridgeDhcp.Server

open Netip GoTime GoMap Packet

def deprecateResends : Nat := 3

def allNodesIP6 : List UInt8 := [0xff, 2, 0, 0, 0, 0, 0, 0, 0, 0, 0, 0, 0, 0, 0, 1]
def allNodesMAC : List UInt8 := [0x33, 0x33, 0, 0, 0, 1]

structure RAServer where
  cfg : RAConfig
  /-- The prefixes of the previous call. -/
  last : List Prefix
  deprecating : Map Prefix Nat
  deriving DecidableEq

def newRAServer (cfg : RAConfig) : RAServer where
  cfg := cfg.normalize
  last := []
  deprecating := ∅

/-! ### The prefixes of one advertisement -/

structure PrefixOrders where
  overLive : RangeOrder (Prefix × Bool)
  overDeprecate : RangeOrder (Prefix × Nat)
  overLast : RangeOrder (Prefix × Bool)

def livePrefixes (served : List Prefix) : Map Prefix Bool :=
  (served.filter (fun net => net.bits = 64)).foldl
    (fun live net => live.insert net.masked true) ∅

def queueVanished (live : Map Prefix Bool) (last : List Prefix) (deprecating : Map Prefix Nat) :
    Map Prefix Nat :=
  last.foldl
    (fun queued net =>
      if (live.lookup net).getD false = false ∧ queued.lookup net = none then
        queued.insert net deprecateResends
      else queued)
    deprecating

def reportLive (order : RangeOrder (Prefix × Bool)) (live : Map Prefix Bool)
    (deprecating : Map Prefix Nat) : Map Prefix Bool × Map Prefix Nat :=
  (order.arrange (pairs live)).foldl
    (fun current entry => (current.1.insert entry.1 true, current.2.erase entry.1))
    (∅, deprecating)

/-- The loop changes the map it ranges over, but only at the key it visits. -/
def reportDeprecated (order : RangeOrder (Prefix × Nat)) (out : Map Prefix Bool)
    (deprecating : Map Prefix Nat) : Map Prefix Bool × Map Prefix Nat :=
  (order.arrange (pairs deprecating)).foldl
    (fun current entry =>
      (current.1.insert entry.1 false,
        if entry.2 ≤ 1 then current.2.erase entry.1
        else current.2.insert entry.1 (entry.2 - 1)))
    (out, deprecating)

/-- The locked part of `currentPrefixes`, after `v6all` returned `served`. -/
def currentPrefixes (orders : PrefixOrders) (served : List Prefix) (server : RAServer) :
    RAServer × Map Prefix Bool :=
  let live := livePrefixes served
  let queued := queueVanished live server.last server.deprecating
  let (alive, pending) := reportLive orders.overLive live queued
  let (out, deprecating) := reportDeprecated orders.overDeprecate alive pending
  ({ server with
      last := (orders.overLast.arrange (pairs live)).map Prod.fst
      deprecating := deprecating }, out)

def Live (served : List Prefix) (net : Prefix) : Prop :=
  ∃ own ∈ served, own.bits = 64 ∧ own.masked = net

instance (served : List Prefix) (net : Prefix) : Decidable (Live served net) :=
  inferInstanceAs (Decidable (∃ own ∈ served, own.bits = 64 ∧ own.masked = net))

theorem lookup_livePrefixes (served : List Prefix) (net : Prefix) :
    (livePrefixes served).lookup net = if Live served net then some true else none := by
  have loop := foldl_visits (fun (live : Map Prefix Bool) (own : Prefix) => live.insert own.masked true)
    Prefix.masked (fun live key => live.lookup key) (fun _ => some true)
    (fun live own key => lookup_insert_cases live own.masked key true)
    (served.filter (fun own => own.bits = 64)) ∅ net
  unfold livePrefixes
  rcases loop with ⟨own, member, same, seen⟩ | ⟨absent, seen⟩
  · have live : Live served net := by
      obtain ⟨present, long⟩ := List.mem_filter.mp member
      exact ⟨own, present, by simpa using long, same⟩
    rw [seen, if_pos live]
  · have notLive : ¬ Live served net := by
      rintro ⟨own, present, long, same⟩
      exact absent own (List.mem_filter.mpr ⟨present, by simpa using long⟩) same
    rw [seen, if_neg notLive, AList.lookup_empty]

theorem mem_pairs_livePrefixes (served : List Prefix) (net : Prefix) (alive : Bool) :
    (net, alive) ∈ pairs (livePrefixes served) ↔ Live served net ∧ alive = true := by
  rw [mem_pairs_iff, lookup_livePrefixes]
  by_cases live : Live served net
  · simp [live, eq_comm]
  · simp [live]

/-- How often the prefix is still to be reported, given that it is not live. -/
def awaiting (server : RAServer) (net : Prefix) : Option Nat :=
  if net ∈ server.last then some ((server.deprecating.lookup net).getD deprecateResends)
  else server.deprecating.lookup net

theorem lookup_queueVanished (live : Map Prefix Bool) (last : List Prefix)
    (deprecating : Map Prefix Nat) (net : Prefix) :
    (queueVanished live last deprecating).lookup net =
      if net ∈ last ∧ (live.lookup net).getD false = false then
        some ((deprecating.lookup net).getD deprecateResends)
      else deprecating.lookup net := by
  unfold queueVanished
  induction last generalizing deprecating with
  | nil => simp
  | cons first rest ih =>
      rw [List.foldl_cons, ih]
      by_cases vanished : (live.lookup first).getD false = false ∧ deprecating.lookup first = none
      · rw [if_pos vanished, lookup_insert_cases]
        by_cases here : net = first
        · subst here
          simp [vanished.1, vanished.2]
        · simp [here]
      · rw [if_neg vanished]
        by_cases here : net = first
        · subst here
          by_cases dead : (live.lookup net).getD false = false
          · -- Then the prefix was pending already, and keeps its count.
            have pending : deprecating.lookup net ≠ none := fun none => vanished ⟨dead, none⟩
            obtain ⟨count, counted⟩ := Option.ne_none_iff_exists'.mp pending
            simp [dead, counted]
          · simp [dead]
        · simp [here]

theorem lookup_reportLive (order : RangeOrder (Prefix × Bool)) (served : List Prefix)
    (deprecating : Map Prefix Nat) (net : Prefix) :
    ((reportLive order (livePrefixes served) deprecating).1.lookup net =
      if Live served net then some true else none) ∧
    ((reportLive order (livePrefixes served) deprecating).2.lookup net =
      if Live served net then none else deprecating.lookup net) := by
  have loop := foldl_visits
    (fun (current : Map Prefix Bool × Map Prefix Nat) (entry : Prefix × Bool) =>
      (current.1.insert entry.1 true, current.2.erase entry.1))
    Prod.fst (fun current key => (current.1.lookup key, current.2.lookup key))
    (fun _ => (some true, none))
    (fun current entry key => by
      rw [lookup_insert_cases, lookup_erase_cases]
      split <;> rfl)
    (order.arrange (pairs (livePrefixes served))) (∅, deprecating) net
  change _ ∨ (_ ∧ ((reportLive order (livePrefixes served) deprecating).1.lookup net,
    (reportLive order (livePrefixes served) deprecating).2.lookup net) = _) at loop
  rcases loop with ⟨entry, member, same, seen⟩ | ⟨absent, seen⟩
  · rw [order.mem_arrange] at member
    have live : Live served net := by
      rw [← same]
      exact ((mem_pairs_livePrefixes served entry.1 entry.2).mp member).1
    obtain ⟨first, second⟩ := Prod.mk.inj seen
    rw [if_pos live, if_pos live]
    exact ⟨first, second⟩
  · have notLive : ¬ Live served net := by
      intro live
      refine absent (net, true) ?_ rfl
      rw [order.mem_arrange]
      exact (mem_pairs_livePrefixes served net true).mpr ⟨live, rfl⟩
    obtain ⟨first, second⟩ := Prod.mk.inj seen
    rw [if_neg notLive, if_neg notLive]
    exact ⟨first, second⟩

theorem lookup_reportDeprecated (order : RangeOrder (Prefix × Nat)) (out : Map Prefix Bool)
    (deprecating : Map Prefix Nat) (net : Prefix) :
    (reportDeprecated order out deprecating).1.lookup net =
        (match deprecating.lookup net with
          | some _ => some false
          | none => out.lookup net) ∧
      (reportDeprecated order out deprecating).2.lookup net =
        (deprecating.lookup net).bind (fun left => if left ≤ 1 then none else some (left - 1)) := by
  have loop := foldl_visits
    (fun (current : Map Prefix Bool × Map Prefix Nat) (entry : Prefix × Nat) =>
      (current.1.insert entry.1 false,
        if entry.2 ≤ 1 then current.2.erase entry.1
        else current.2.insert entry.1 (entry.2 - 1)))
    Prod.fst (fun current key => (current.1.lookup key, current.2.lookup key))
    (fun entry => (some false, if entry.2 ≤ 1 then none else some (entry.2 - 1)))
    (fun current entry key => by
      by_cases done : entry.2 ≤ 1
      · simp only [if_pos done, lookup_insert_cases, lookup_erase_cases]
        split <;> rfl
      · simp only [if_neg done, lookup_insert_cases]
        split <;> rfl)
    (order.arrange (pairs deprecating)) (out, deprecating) net
  change _ ∨ (_ ∧ ((reportDeprecated order out deprecating).1.lookup net,
    (reportDeprecated order out deprecating).2.lookup net) = _) at loop
  rcases loop with ⟨entry, member, same, seen⟩ | ⟨absent, seen⟩
  · rw [order.mem_arrange] at member
    have counted : deprecating.lookup net = some entry.2 := by
      rw [← same]
      exact (mem_pairs_iff deprecating entry.1 entry.2).mp member
    obtain ⟨first, second⟩ := Prod.mk.inj seen
    rw [counted]
    exact ⟨first, second⟩
  · have uncounted : deprecating.lookup net = none := by
      cases found : deprecating.lookup net with
      | none => rfl
      | some left =>
          refine absurd rfl (absent (net, left) ?_)
          rw [order.mem_arrange]
          exact (mem_pairs_iff deprecating net left).mpr found
    obtain ⟨first, second⟩ := Prod.mk.inj seen
    rw [uncounted] at second ⊢
    exact ⟨first, second⟩

section Specification

variable (orders : PrefixOrders) (served : List Prefix) (server : RAServer) (net : Prefix)

theorem lookup_queued :
    (queueVanished (livePrefixes served) server.last server.deprecating).lookup net =
      if Live served net then server.deprecating.lookup net else awaiting server net := by
  rw [lookup_queueVanished, lookup_livePrefixes]
  unfold awaiting
  by_cases live : Live served net
  · simp [live]
  · simp [live]

theorem lookup_currentPrefixes :
    (currentPrefixes orders served server).2.lookup net =
        (match if Live served net then none else awaiting server net with
          | some _ => some false
          | none => if Live served net then some true else none) ∧
      (currentPrefixes orders served server).1.deprecating.lookup net =
        (if Live served net then none else awaiting server net).bind
          (fun left => if left ≤ 1 then none else some (left - 1)) := by
  have queued := lookup_queued served server net
  have reported := lookup_reportLive orders.overLive served
    (queueVanished (livePrefixes served) server.last server.deprecating) net
  have loop := lookup_reportDeprecated orders.overDeprecate
    (reportLive orders.overLive (livePrefixes served)
      (queueVanished (livePrefixes served) server.last server.deprecating)).1
    (reportLive orders.overLive (livePrefixes served)
      (queueVanished (livePrefixes served) server.last server.deprecating)).2 net
  rw [reported.1, reported.2, queued] at loop
  by_cases live : Live served net
  · simp only [if_pos live] at loop ⊢
    exact loop
  · simp only [if_neg live] at loop ⊢
    exact loop

theorem currentPrefixes_reports :
    (currentPrefixes orders served server).2.lookup net =
      if Live served net then some true else (awaiting server net).map (fun _ => false) := by
  rw [(lookup_currentPrefixes orders served server net).1]
  by_cases live : Live served net
  · simp [live]
  · cases awaiting server net <;> simp [live]

theorem currentPrefixes_deprecate :
    (currentPrefixes orders served server).1.deprecating.lookup net =
      if Live served net then none
      else (awaiting server net).bind (fun left => if left ≤ 1 then none else some (left - 1)) := by
  rw [(lookup_currentPrefixes orders served server net).2]
  by_cases live : Live served net
  · simp [live]
  · simp [live]

theorem mem_currentPrefixes_last :
    net ∈ (currentPrefixes orders served server).1.last ↔ Live served net := by
  change net ∈ (orders.overLast.arrange (pairs (livePrefixes served))).map Prod.fst ↔ _
  constructor
  · intro member
    obtain ⟨entry, visited, same⟩ := List.mem_map.mp member
    rw [orders.overLast.mem_arrange] at visited
    rw [← same]
    exact ((mem_pairs_livePrefixes served entry.1 entry.2).mp visited).1
  · intro live
    refine List.mem_map.mpr ⟨(net, true), ?_, rfl⟩
    rw [orders.overLast.mem_arrange]
    exact (mem_pairs_livePrefixes served net true).mpr ⟨live, rfl⟩

end Specification

/-! ### Destinations and contents -/

structure Destination where
  mac : List UInt8
  ip : List UInt8
  deriving DecidableEq, Repr

def allNodes : Destination where
  mac := allNodesMAC
  ip := allNodesIP6

def icmpv6TypeRouterSolicit : UInt8 := 133

/-- `net.IP.IsUnspecified`: zero in one of the three forms the package compares with. -/
def isUnspecifiedIP (ip : List UInt8) : Bool :=
  ip = List.replicate 4 0 || ip = List.replicate 16 0 ||
    ip = List.replicate 10 0 ++ [0xff, 0xff] ++ List.replicate 4 0

/-- Whether `handleFrame` takes the frame, and to whom it then sends. -/
def handleSolicit (cfg : RAConfig) (pkt : Ingress) : Bool × Option Destination :=
  if pkt.isICMP6 = false ∨ pkt.icmpTyp ≠ icmpv6TypeRouterSolicit then (false, none)
  else if cfg.enabled = false then (true, none)
  else if isUnspecifiedIP pkt.srcIP then (true, some allNodes)
  else (true, some { mac := pkt.srcMAC, ip := pkt.srcIP })

/-- A prefix information option; the on-link flag is always set. -/
structure PrefixInfo where
  net : Prefix
  autonomous : Bool
  validLifetime : UInt32
  preferredLifetime : UInt32
  deriving DecidableEq, Repr

structure Advert where
  srcMAC : List UInt8
  dst : Destination
  srcIP : Addr
  managed : Bool
  other : Bool
  routerLifetime : UInt16
  prefixes : List PrefixInfo
  dns : List Addr
  dnsLifetime : UInt32
  deriving DecidableEq, Repr

/-- Go's conversion of a quotient of durations to a fixed width keeps the low bits. -/
def seconds16 (duration : Duration) : UInt16 := UInt16.ofInt (Int.tdiv duration second)
def seconds32 (duration : Duration) : UInt32 := UInt32.ofInt (Int.tdiv duration second)

def wholeSeconds (duration : Duration) : Nat := (Int.tdiv duration second).toNat

theorem tdiv_second {duration : Duration} (positive : 0 ≤ duration) :
    Int.tdiv duration second = wholeSeconds duration :=
  (Int.toNat_of_nonneg (Int.tdiv_nonneg positive (by decide))).symm

theorem toNat_seconds16 {duration : Duration} (positive : 0 ≤ duration) :
    (seconds16 duration).toNat = wholeSeconds duration % 2 ^ 16 := by
  unfold seconds16 UInt16.ofInt
  rw [tdiv_second positive, UInt16.toNat_ofNat']
  omega

theorem toNat_seconds32 {duration : Duration} (positive : 0 ≤ duration) :
    (seconds32 duration).toNat = wholeSeconds duration % 2 ^ 32 := by
  unfold seconds32 UInt32.ofInt
  rw [tdiv_second positive, UInt32.toNat_ofNat']
  omega

theorem wholeSeconds_bounds {duration : Int} {low high : Nat}
    (above : (low : Int) * second ≤ duration) (below : duration ≤ (high : Int) * second) :
    low ≤ wholeSeconds duration ∧ wholeSeconds duration ≤ high := by
  unfold wholeSeconds
  unfold second at *
  rw [Int.tdiv_eq_ediv_of_nonneg (by omega)]
  omega

def prefixInfo (cfg : RAConfig) (entry : Prefix × Bool) : PrefixInfo where
  net := entry.1
  autonomous := cfg.autonomous
  validLifetime := if entry.2 then seconds32 cfg.validLifetime else 0
  preferredLifetime := if entry.2 then seconds32 cfg.preferredLife else 0

/-- The advertisement that `transmitRA` passes to `write`, if there is an address to
send from. -/
def transmitRA (cfg : RAConfig) (linkLocal : Addr) (mac : List UInt8)
    (order : RangeOrder (Prefix × Bool)) (dst : Destination) (prefixes : Map Prefix Bool)
    (routerLifetime : UInt16) : Option Advert :=
  if linkLocal.isValid then
    some
      { srcMAC := mac
        dst := dst
        srcIP := linkLocal
        managed := cfg.managed
        other := cfg.other
        routerLifetime := routerLifetime
        prefixes := (order.arrange (pairs prefixes)).map (prefixInfo cfg)
        dns := cfg.dns
        dnsLifetime := seconds32 cfg.routerLifetime }
  else none

def finalPrefixes (served : List Prefix) : Map Prefix Bool :=
  (served.filter (fun net => net.bits = 64)).foldl
    (fun prefixes net => prefixes.insert net.masked false) ∅

def Deprecates (advert : Advert) (net : Prefix) : Prop :=
  ∃ info ∈ advert.prefixes,
    info.net = net ∧ info.validLifetime = 0 ∧ info.preferredLifetime = 0

def Advertises (advert : Advert) (net : Prefix) : Prop :=
  ∃ info ∈ advert.prefixes,
    info.net = net ∧ ¬ (info.validLifetime = 0 ∧ info.preferredLifetime = 0)

instance (advert : Advert) (net : Prefix) : Decidable (Deprecates advert net) :=
  inferInstanceAs (Decidable (∃ info ∈ advert.prefixes, _ ∧ _ ∧ _))

instance (advert : Advert) (net : Prefix) : Decidable (Advertises advert net) :=
  inferInstanceAs (Decidable (∃ info ∈ advert.prefixes, _ ∧ ¬ (_ ∧ _)))

theorem transmitRA_deprecates {cfg : RAConfig} {linkLocal : Addr} (mac : List UInt8)
    (order : RangeOrder (Prefix × Bool)) (dst : Destination) {prefixes : Map Prefix Bool}
    (routerLifetime : UInt16) {net : Prefix} (valid : linkLocal.isValid = true)
    (dead : prefixes.lookup net = some false) :
    ∃ advert, transmitRA cfg linkLocal mac order dst prefixes routerLifetime = some advert ∧
      advert.dst = dst ∧ Deprecates advert net := by
  refine ⟨_, if_pos valid, rfl, prefixInfo cfg (net, false), ?_, rfl, rfl, rfl⟩
  refine List.mem_map.mpr ⟨(net, false), ?_, rfl⟩
  rw [order.mem_arrange]
  exact (mem_pairs_iff prefixes net false).mpr dead

end BridgeDhcp.Server
