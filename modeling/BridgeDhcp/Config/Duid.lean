/-
The texts that are taken for DUIDs.

`parseDUID` checks the number of bytes of the text and leaves the digits to a scanner,
which passes over white space and stops at the first character that is no digit.  A
text whose digits break off after a whole byte is taken for a shorter DUID.
-/

import BridgeDhcp.Config.File
import BridgeDhcp.Server.ComposePd

set_option autoImplicit false

namespace BridgeDhcp.Config

open GoText HexText Server

def duidDigits (text : String) : String := without (without (trimSpace text) ':') '-'

def WholeBytes (digits : String) : Prop :=
  4 ≤ digits.utf8ByteSize ∧ digits.utf8ByteSize % 2 = 0

instance (digits : String) : Decidable (WholeBytes digits) :=
  inferInstanceAs (Decidable (_ ∧ _))

def OnlyHex (digits : String) : Prop := ∀ digit ∈ digits.toList, isHex digit = true

instance (digits : String) : Decidable (OnlyHex digits) :=
  decidable_of_iff (digits.toList.all isHex = true) List.all_eq_true

/-- The text is accepted exactly if it is hexadecimal, and then all of it is decoded. -/
structure DecodesExactly (text : String) : Prop where
  accepts : (∃ bytes, parseDUID text = .ok bytes) ↔
    WholeBytes (duidDigits text) ∧ OnlyHex (duidDigits text)
  decodes : ∀ bytes, parseDUID text = .ok bytes →
    bytes.length = (duidDigits text).utf8ByteSize / 2 ∧
      hexEncode bytes = toLower (duidDigits text)

theorem parseDUID_ok_iff {text : String} (bytes : List UInt8) :
    parseDUID text = .ok bytes ↔
      WholeBytes (duidDigits text) ∧ scanHex (duidDigits text) = some bytes := by
  unfold parseDUID duidDigits WholeBytes
  dsimp only
  generalize without (without (trimSpace text) ':') '-' = digits
  split
  · next refused =>
      simp only [reduceCtorEq, false_iff]
      omega
  · next passed =>
      have whole : 4 ≤ digits.utf8ByteSize ∧ digits.utf8ByteSize % 2 = 0 := by omega
      rw [and_iff_right whole]
      cases scanHex digits with
      | none => simp
      | some read => simp

theorem isSpace_eq_false_of_isHex {digit : Char} (hex : isHex digit = true) :
    isSpace digit = false := by
  obtain ⟨value, found⟩ := Option.isSome_iff_exists.mp hex
  obtain ⟨entry, listed, _⟩ := Option.map_eq_some_iff.mp found
  have same : (entry.1 == digit) = true :=
    @List.find?_some _ (fun other : Char × Nat => other.1 == digit) _ _ listed
  rw [← beq_iff_eq.mp same]
  exact (by decide : ∀ entry ∈ digitTable, isSpace entry.1 = false) entry
    (List.mem_of_find?_eq_some listed)

theorem OnlyHex.hexRun_eq {digits : String} (hex : OnlyHex digits) :
    hexRun digits = digits.toList := by
  have bare : digits.toList.dropWhile isSpace = digits.toList := by
    rw [List.dropWhile_eq_self_iff]
    intro nonempty
    rw [isSpace_eq_false_of_isHex (hex _ (List.getElem_mem nonempty))]
    exact Bool.false_ne_true
  unfold hexRun
  rw [bare, List.takeWhile_eq_self_iff]
  exact hex

theorem OnlyHex.size_eq {digits : String} (hex : OnlyHex digits) :
    digits.utf8ByteSize = digits.toList.length := by
  conv_lhs => rw [← @String.ofList_toList digits]
  rw [String.utf8ByteSize_ofList, utf8Len_of_hex hex]

/-- All of a hexadecimal text is read. -/
theorem scanHex_of_onlyHex {digits : String} (whole : WholeBytes digits) (hex : OnlyHex digits) :
    ∃ bytes, scanHex digits = some bytes ∧ bytes.length = digits.utf8ByteSize / 2 ∧
      hexEncode bytes = toLower digits := by
  obtain ⟨long, even⟩ := whole
  rw [hex.size_eq] at long even ⊢
  rcases scanHex_cases digits with ⟨fails, _⟩ | ⟨_, bytes, read, length, written⟩
  · unfold ScanFails at fails
    rw [hex.hexRun_eq] at fails
    rcases fails with newline | odd | empty
    · have digit := hex '\n' (List.takeWhile_subset _ newline)
      exact absurd digit (by decide)
    · omega
    · rw [empty, List.length_nil] at long
      omega
  · rw [hex.hexRun_eq] at length written
    refine ⟨bytes, read, by omega, ?_⟩
    exact congrArg String.ofList written

/-- For every text, `parseDUID` accepts exactly hexadecimal DUIDs and decodes all of
them, unless the text has the right number of bytes, is not hexadecimal, and begins with
a whole number of bytes in hexadecimal. -/
theorem parseDUID_exact_iff (text : String) :
    DecodesExactly text ↔
      ¬ WholeBytes (duidDigits text) ∨ OnlyHex (duidDigits text) ∨
        ScanFails (duidDigits text) := by
  have scanned := scanHex_cases (duidDigits text)
  constructor
  · intro exactly
    by_contra condition
    rw [not_or, not_or, not_not] at condition
    obtain ⟨whole, notHex, reads⟩ := condition
    rcases scanned with ⟨fails, _⟩ | ⟨_, bytes, read, _⟩
    · exact reads fails
    · exact notHex (exactly.accepts.mp ⟨bytes, (parseDUID_ok_iff bytes).mpr ⟨whole, read⟩⟩).2
  · intro condition
    -- What is accepted was scanned, so only the second of the three cases is left.
    have hex_of_accepted : ∀ bytes, parseDUID text = .ok bytes →
        WholeBytes (duidDigits text) ∧ OnlyHex (duidDigits text) := by
      intro bytes accepted
      obtain ⟨whole, read⟩ := (parseDUID_ok_iff bytes).mp accepted
      rcases condition with odd | hex | fails
      · exact absurd whole odd
      · exact ⟨whole, hex⟩
      · rcases scanned with ⟨_, failed⟩ | ⟨reads, _⟩
        · rw [failed] at read
          cases read
        · exact absurd fails reads
    refine ⟨⟨?_, ?_⟩, ?_⟩
    · intro ⟨bytes, accepted⟩
      exact hex_of_accepted bytes accepted
    · intro ⟨whole, hex⟩
      obtain ⟨bytes, read, _⟩ := scanHex_of_onlyHex whole hex
      exact ⟨bytes, (parseDUID_ok_iff bytes).mpr ⟨whole, read⟩⟩
    · intro bytes accepted
      obtain ⟨whole, hex⟩ := hex_of_accepted bytes accepted
      obtain ⟨other, same, length, written⟩ := scanHex_of_onlyHex whole hex
      cases same.symm.trans ((parseDUID_ok_iff bytes).mp accepted).2
      exact ⟨length, written⟩

/-- A digit that breaks off within a byte is noticed, blanks before the digits are not. -/
example : parseDUID "00:03:0z" = .error "bad duid \"00030z\"" ∧
    parseDUID ":  00:03" = .ok [0, 3] := by
  decide +kernel

def mistypedFile : File where
  interfaces :=
    [{ sampleFileIface "br0" 64 0 with
        pd := some { sampleFilePD 64 0 with duid := "00:03:00:01:O2:ab:cd:ef:00:01" } }]

/-- The file is accepted, and the client runs with the four bytes before the mistake,
which name no machine. -/
theorem mistyped_duid_truncated :
    parseDUID "00:03:00:01:O2:ab:cd:ef:00:01" = .ok [0, 3, 0, 1] ∧
    (mistypedFile.buildIfaceConfigs sampleParsing).toOption.map
        (List.map (fun cfg => cfg.normalize.toOption.bind (fun ready => ready.pd.map (·.duid)))) =
      some [some [0, 3, 0, 1]] ∧
    ¬ DecodesExactly "00:03:00:01:O2:ab:cd:ef:00:01" := by
  have accepted : parseDUID "00:03:00:01:O2:ab:cd:ef:00:01" = .ok [0, 3, 0, 1] := by
    decide +kernel
  refine ⟨accepted, by decide +kernel, ?_⟩
  intro exactly
  exact absurd (exactly.accepts.mp ⟨_, accepted⟩).2 (by decide +kernel)

end BridgeDhcp.Config
