/-
The dissected inbound frame that the protocol servers dispatch on.
-/

import Mathlib.Tactic.Common

set_option autoImplicit false

namespace BridgeDhcp.Packet

/-- A parsed inbound frame.  Ports are set for UDP, `icmpTyp` for ICMPv6. -/
structure Ingress where
  srcMAC : List UInt8
  isUDP4 : Bool
  isUDP6 : Bool
  isICMP6 : Bool
  srcIP : List UInt8
  dstIP : List UInt8
  srcPort : UInt16
  dstPort : UInt16
  icmpTyp : UInt8
  payload : List UInt8
  deriving DecidableEq, Repr

end BridgeDhcp.Packet
