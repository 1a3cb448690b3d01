/-
The goroutines that send router advertisements.

The loop sends periodically and when it is kicked; the reader answers solicitations.
Both go through `send`: they ask for the served prefixes, update the countdown under
the server's lock, and then transmit.  Everything else may happen between these
steps: the served prefixes change, the other goroutine runs, an address to send from
or the socket is missing.
-/

import BridgeDhcp.Server.RouterAdvert
import BridgeDhcp.StepRun

set_option autoImplicit false

namespace BridgeDhcp.Server

open Netip GoMap Packet StepRun

inductive Advertiser where
  | loop
  | reader
  deriving DecidableEq, Repr

inductive AdvertStage where
  /-- The loop's `select`, or the reader's next frame. -/
  | waiting
  | called (dst : Destination)
  /-- `v6all` has returned, the lock is not taken yet. -/
  | looked (dst : Destination) (served : List Prefix)
  /-- `currentPrefixes` has returned. -/
  | ready (dst : Destination) (prefixes : Map Prefix Bool) (routerLifetime : UInt16)
  | calledFinal
  | readyFinal (prefixes : Map Prefix Bool)
  | returned

inductive AdvertEvent where
  /-- From here on `v6all` returns these prefixes. -/
  | served (prefixes : List Prefix)
  | wrote (advert : Advert) (succeeded : Bool)
  deriving DecidableEq

structure AdvertWorld where
  server : RAServer
  /-- What `v6all` returns. -/
  served : List Prefix
  kicked : Bool
  done : Bool
  stage : Advertiser → AdvertStage
  /-- The newest event first. -/
  trace : List AdvertEvent

inductive Wake where
  | done
  | kick
  | timer
  deriving DecidableEq, Repr

inductive AdvertInput where
  | serve (prefixes : List Prefix)
  | kick
  | close
  | select (wake : Wake)
  | frame (pkt : Ingress)
  | look (who : Advertiser)
  | update (who : Advertiser) (orders : PrefixOrders)
  | transmit (who : Advertiser) (linkLocal : Addr) (mac : List UInt8)
      (order : RangeOrder (Prefix × Bool)) (written : Bool)

def loopTurn (cfg : RAConfig) : AdvertStage := if cfg.enabled then .called allNodes else .waiting

namespace AdvertWorld

def start (cfg : RAConfig) (served : List Prefix) : AdvertWorld where
  server := newRAServer cfg
  served := served
  kicked := false
  done := false
  stage
    | .loop => loopTurn cfg.normalize
    | .reader => .waiting
  trace := []

def move (world : AdvertWorld) (who : Advertiser) (next : AdvertStage) : AdvertWorld :=
  { world with stage := Function.update world.stage who next }

theorem move_stage_of_ne (world : AdvertWorld) {who other : Advertiser} (different : other ≠ who)
    (next : AdvertStage) : (world.move who next).stage other = world.stage other := by
  unfold move
  exact Function.update_of_ne different next world.stage

def wake (world : AdvertWorld) : Wake → AdvertWorld
  | .done =>
      if world.done then
        world.move .loop (if world.server.cfg.enabled then .calledFinal else .returned)
      else world
  | .kick =>
      if world.kicked then
        { world with kicked := false }.move .loop (loopTurn world.server.cfg)
      else world
  | .timer => world.move .loop (loopTurn world.server.cfg)

theorem wake_server (world : AdvertWorld) (wake : Wake) :
    (world.wake wake).server = world.server ∧ (world.wake wake).served = world.served := by
  cases wake with
  | done =>
      unfold wake
      by_cases done : world.done = true
      · simp only [done, if_true]
        exact ⟨rfl, rfl⟩
      · simp only [done]
        exact ⟨rfl, rfl⟩
  | kick =>
      unfold wake
      by_cases kicked : world.kicked = true
      · simp only [kicked, if_true]
        exact ⟨rfl, rfl⟩
      · simp only [kicked]
        exact ⟨rfl, rfl⟩
  | timer => exact ⟨rfl, rfl⟩

/-- Pass an advertisement to `write`; the error is ignored. -/
def write (world : AdvertWorld) (advert : Option Advert) (written : Bool) : AdvertWorld :=
  match advert with
  | none => world
  | some advert => { world with trace := .wrote advert written :: world.trace }

section Writing

variable (world : AdvertWorld) (advert : Option Advert) (written : Bool)

@[simp] theorem write_server : (world.write advert written).server = world.server := by
  cases advert <;> rfl

@[simp] theorem write_served : (world.write advert written).served = world.served := by
  cases advert <;> rfl

@[simp] theorem write_stage : (world.write advert written).stage = world.stage := by
  cases advert <;> rfl

end Writing

/-- A goroutine that is not at the step leaves the world as it is. -/
def step (world : AdvertWorld) : AdvertInput → AdvertWorld
  | .serve prefixes =>
      { world with served := prefixes, trace := .served prefixes :: world.trace }
  | .kick => { world with kicked := true }
  | .close => { world with done := true }
  | .select wake =>
      match world.stage .loop with
      | .waiting => world.wake wake
      | _ => world
  | .frame pkt =>
      match world.stage .reader, (handleSolicit world.server.cfg pkt).2 with
      | .waiting, some dst => world.move .reader (.called dst)
      | _, _ => world
  | .look who =>
      match world.stage who with
      | .called dst => world.move who (.looked dst world.served)
      | .calledFinal => world.move who (.readyFinal (finalPrefixes world.served))
      | _ => world
  | .update who orders =>
      match world.stage who with
      | .looked dst served =>
          let (server, prefixes) := currentPrefixes orders served world.server
          { world with server := server }.move who
            (.ready dst prefixes (seconds16 world.server.cfg.routerLifetime))
      | _ => world
  | .transmit who linkLocal mac order written =>
      match world.stage who with
      | .ready dst prefixes routerLifetime =>
          (world.write (transmitRA world.server.cfg linkLocal mac order dst prefixes routerLifetime)
            written).move who .waiting
      | .readyFinal prefixes =>
          (world.write (transmitRA world.server.cfg linkLocal mac order allNodes prefixes 0)
            written).move who .returned
      | _ => world

theorem step_server {world : AdvertWorld} {input : AdvertInput}
    (quiet : ∀ who orders, input ≠ .update who orders) :
    (world.step input).server = world.server := by
  cases input with
  | update who orders => exact absurd rfl (quiet who orders)
  | select wake =>
      simp only [step]
      split
      · exact (world.wake_server wake).1
      · rfl
  | transmit who linkLocal mac order written =>
      simp only [step]
      split
      · exact world.write_server _ written
      · exact world.write_server _ written
      · rfl
  | frame pkt =>
      simp only [step]
      split <;> rfl
  | look who =>
      simp only [step]
      split <;> rfl
  | _ => rfl

theorem step_update {world : AdvertWorld} {who : Advertiser} {dst : Destination}
    {served : List Prefix} (looked : world.stage who = .looked dst served) (orders : PrefixOrders) :
    (world.step (.update who orders)).server = (currentPrefixes orders served world.server).1 ∧
      (world.step (.update who orders)).stage who =
        .ready dst (currentPrefixes orders served world.server).2
          (seconds16 world.server.cfg.routerLifetime) := by
  simp only [step, looked]
  exact ⟨rfl, Function.update_self who _ world.stage⟩

end AdvertWorld

end BridgeDhcp.Server
