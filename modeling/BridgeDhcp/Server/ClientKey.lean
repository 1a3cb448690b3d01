/-
The texts that client keys are made of.

Hardware addresses, client identifiers and DUIDs are printed as hexadecimal
digits, so the slash of a key separates its two halves without ambiguity, and no
client has the key of the placeholder for declined addresses.
-/

import BridgeDhcp.Server.LeaseTable
import Mathlib.Data.List.Basic

set_option autoImplicit false

namespace BridgeDhcp.Server

def hexDigits : List Char :=
  ['0', '1', '2', '3', '4', '5', '6', '7', '8', '9', 'a', 'b', 'c', 'd', 'e', 'f']

def HexText (text : String) : Prop := ∀ char ∈ text.toList, char ∈ ':' :: hexDigits

theorem digitChar_mem_hexDigits (digit : Nat) (small : digit < 16) :
    Nat.digitChar digit ∈ hexDigits := by
  have all : ∀ value : Fin 16, Nat.digitChar value.val ∈ hexDigits := by decide
  exact all ⟨digit, small⟩

theorem mem_hexDigits_of_mem_hexByte {byte : UInt8} {char : Char} (member : char ∈ hexByte byte) :
    char ∈ hexDigits := by
  have bound := byte.toNat_lt
  unfold hexByte at member
  rcases List.mem_cons.mp member with high | low
  · rw [high]
    exact digitChar_mem_hexDigits _ (by omega)
  · rw [List.mem_singleton.mp low]
    exact digitChar_mem_hexDigits _ (by omega)

theorem hexText_hexEncode (bytes : List UInt8) : HexText (hexEncode bytes) := by
  intro char member
  unfold hexEncode at member
  rw [String.toList_ofList] at member
  obtain ⟨byte, _, inByte⟩ := List.mem_flatMap.mp member
  exact List.mem_cons_of_mem ':' (mem_hexDigits_of_mem_hexByte inByte)

theorem hexText_hardwareAddrString (bytes : List UInt8) :
    HexText (hardwareAddrString bytes) := by
  intro char member
  unfold hardwareAddrString at member
  rw [String.toList_ofList] at member
  induction bytes with
  | nil => cases member
  | cons byte rest ih =>
      have inByte (here : char ∈ hexByte byte) : char ∈ ':' :: hexDigits :=
        List.mem_cons_of_mem ':' (mem_hexDigits_of_mem_hexByte here)
      cases rest with
      | nil =>
          rw [List.map_cons, List.map_nil, List.intercalate_singleton] at member
          exact inByte member
      | cons next others =>
          rw [List.map_cons, List.map_cons, List.intercalate_cons_cons] at member
          rcases List.mem_append.mp member with front | later
          · rcases List.mem_append.mp front with here | colon
            · exact inByte here
            · rw [List.mem_singleton.mp colon]
              exact List.mem_cons_self
          · exact ih later

theorem toLower_of_hexText {text : String} (hex : HexText text) : toLower text = text := by
  have fixed : (':' :: hexDigits).all (fun char => char.toLower == char) = true := by decide
  have same : text.toList.map Char.toLower = text.toList.map id := by
    apply List.map_congr_left
    intro char member
    exact eq_of_beq (List.all_eq_true.mp fixed char (hex char member))
  unfold toLower
  rw [same, List.map_id, String.ofList_toList]

theorem toList_clientKey {mac clientID : String} (macHex : HexText mac)
    (clientHex : HexText clientID) :
    (clientKey mac clientID).toList = mac.toList ++ '/' :: clientID.toList := by
  unfold clientKey
  rw [toLower_of_hexText macHex, toLower_of_hexText clientHex, String.toList_append,
    String.toList_append, List.append_assoc]
  rfl

theorem slash_notMem {text : String} (hex : HexText text) : '/' ∉ text.toList := by
  intro member
  exact absurd (hex '/' member) (by decide)

theorem clientKey_injective {mac clientID otherMac otherID : String} (macHex : HexText mac)
    (clientHex : HexText clientID) (otherMacHex : HexText otherMac)
    (otherHex : HexText otherID) (same : clientKey mac clientID = clientKey otherMac otherID) :
    mac = otherMac ∧ clientID = otherID := by
  have lists := congrArg String.toList same
  rw [toList_clientKey macHex clientHex, toList_clientKey otherMacHex otherHex,
    List.append_cons_inj_of_notMem (slash_notMem macHex) (slash_notMem clientHex)] at lists
  exact ⟨String.toList_injective lists.1, String.toList_injective lists.2.2⟩

theorem clientKey_ne_declined {mac clientID : String} (macHex : HexText mac)
    (clientHex : HexText clientID) : clientKey mac clientID ≠ clientKey "declined" "" := by
  intro same
  have lists := congrArg String.toList same
  rw [toList_clientKey macHex clientHex] at lists
  have member : 'l' ∈ mac.toList ++ '/' :: clientID.toList := by
    rw [lists]
    decide
  rcases List.mem_append.mp member with inMac | later
  · exact absurd (macHex 'l' inMac) (by decide)
  · rcases List.mem_cons.mp later with slash | inClient
    · exact absurd slash (by decide)
    · exact absurd (clientHex 'l' inClient) (by decide)

end BridgeDhcp.Server
