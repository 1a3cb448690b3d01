/-
Parts of DHCPv6 messages that the server and the prefix-delegation client share
or read from the wire: message types, network masks and delegated prefixes.
-/

import BridgeDhcp.GoTime
import BridgeDhcp.NetipAddress

set_option autoImplicit false

namespace BridgeDhcp.Packet

open Netip GoTime

inductive MessageType6 where
  | solicit
  | advertise
  | request
  | confirm
  | renew
  | rebind
  | reply
  | release
  | decline
  | reconfigure
  | informationRequest
  | other (code : UInt8)
  deriving DecidableEq, Repr

/-! ### Networks -/

/-- A `net.IPNet` as the decoder makes it: the mask has sixteen bytes or none. -/
structure IPNet where
  ip : List UInt8
  mask : List UInt8
  maskFits : mask.length ≤ 16
  deriving DecidableEq, Repr

def byteBits (byte : UInt8) : List Bool :=
  [7, 6, 5, 4, 3, 2, 1, 0].map (fun index => byte.toNat.testBit index)

/-- The ones that `net.IPMask.Size` reports: the leading ones of the mask, or zero
if another one follows later. -/
def maskOnes (mask : List UInt8) : Nat :=
  let bits := mask.flatMap byteBits
  let leading := bits.takeWhile id
  if (bits.drop leading.length).any id then 0 else leading.length

theorem maskOnes_le (mask : List UInt8) : maskOnes mask ≤ 8 * mask.length := by
  have total : (mask.flatMap byteBits).length = 8 * mask.length := by
    induction mask with
    | nil => rfl
    | cons byte rest ih =>
        rw [List.flatMap_cons, List.length_append, ih, List.length_cons]
        change 8 + 8 * rest.length = _
        omega
  have leading := (List.takeWhile_sublist (l := mask.flatMap byteBits) id).length_le
  unfold maskOnes
  dsimp only
  split
  · exact Nat.zero_le _
  · omega

/-- The masked prefix of a network, if its address has four or sixteen bytes. -/
def IPNet.toPrefix (net : IPNet) : Option Prefix :=
  if (to16 net.ip).length = 16 then
    some
      (Prefix.masked
        { addr := .v6 (BitVec.ofNat 128 (natOfBytes (to16 net.ip)))
          bits := maskOnes net.mask
          addrValid := rfl
          bitsFit := by
            have bound := maskOnes_le net.mask
            have fits := net.maskFits
            change maskOnes net.mask ≤ 128
            omega })
  else none

def maskByte (ones : Nat) : UInt8 := UInt8.ofNat (256 - 2 ^ (8 - ones))

def cidrMask (ones : Nat) : List UInt8 :=
  (List.range 16).map (fun index => maskByte (ones - 8 * index))

def IPNet.ofPrefix (net : Prefix) : IPNet where
  ip := net.masked.addr.asSlice
  mask := cidrMask net.bits
  maskFits := by
    unfold cidrMask
    rw [List.length_map, List.length_range]

/-! ### Delegations -/

/-- One prefix of an IA_PD.  Lifetimes travel as seconds. -/
structure IAPrefix where
  validSeconds : UInt32
  net : Option IPNet
  deriving DecidableEq, Repr

def IAPrefix.validLifetime (delegated : IAPrefix) : Duration :=
  delegated.validSeconds.toNat * second

structure IAPD where
  status : Option UInt16
  prefixes : List IAPrefix
  deriving DecidableEq, Repr

structure Answer6 where
  messageType : MessageType6
  transactionID : BitVec 24
  serverID : Option (List UInt8)
  iapd : Option IAPD
  deriving DecidableEq, Repr

end BridgeDhcp.Packet
