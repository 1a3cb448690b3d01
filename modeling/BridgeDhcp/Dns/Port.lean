/-
The port of the DNS listener as a text.

The listener's own `itoa` writes the digits of the port backwards into eight bytes.
The settings bound the port from below only, so a port of nine digits is written
before the first byte.
-/

import BridgeDhcp.GoBytes
import BridgeDhcp.PositionalText
import BridgeDhcp.Server.ComposePd

set_option autoImplicit false

namespace BridgeDhcp.Dns

open GoBytes PositionalText Server

/-! ### The formatter -/

def digitByte (value : Nat) : UInt8 := UInt8.ofNat (48 + value % 10)

/-- The loop of `itoa`, with the index it has come down to.  None is the panic of an
index out of range. -/
def itoaLoop (buffer : List UInt8) (value : Nat) : Nat → Option (List UInt8 × Nat)
  | 0 => if value = 0 then some (buffer, 0) else none
  | index + 1 =>
      if value = 0 then some (buffer, index + 1)
      else itoaLoop (setByte index (digitByte value) buffer) (value / 10) index

def asciiChars (bytes : List UInt8) : List Char := bytes.map (fun byte => Char.ofNat byte.toNat)

def itoa (value : Int) : Option String :=
  if value = 0 then some "0"
  else
    (itoaLoop (List.replicate 8 0) value.toNat 8).map
      (fun result => String.ofList (asciiChars (result.1.drop result.2)))

theorem asciiChars_digitByte (value : Nat) :
    Char.ofNat (digitByte value).toNat = Nat.digitChar (value % 10) := by
  have table : ∀ digit < 10, Char.ofNat (UInt8.ofNat (48 + digit)).toNat = Nat.digitChar digit := by
    decide
  exact table (value % 10) (Nat.mod_lt _ (by decide))

theorem drop_setByte {index : Nat} {buffer : List UInt8} (byte : UInt8)
    (within : index < buffer.length) :
    (setByte index byte buffer).drop index = byte :: buffer.drop (index + 1) := by
  have inside : index < (buffer.set index byte).length := by
    rw [List.length_set]
    exact within
  unfold setByte
  rw [List.drop_eq_getElem_cons inside, List.getElem_set_self, List.drop_set_of_lt (by omega)]

theorem itoaLoop_fits (index : Nat) (buffer : List UInt8) (value : Nat)
    (within : index ≤ buffer.length) (fits : value < 10 ^ index) :
    ∃ written start, itoaLoop buffer value index = some (written, start) ∧
      asciiChars (written.drop start) = decimal value ++ asciiChars (buffer.drop index) := by
  induction index generalizing buffer value with
  | zero =>
      have zero : value = 0 := by
        rw [Nat.pow_zero] at fits
        omega
      refine ⟨buffer, 0, ?_, ?_⟩
      · unfold itoaLoop
        rw [if_pos zero]
      · rw [zero, decimal_zero]
        rfl
  | succ index ih =>
      unfold itoaLoop
      rcases Nat.eq_zero_or_pos value with zero | positive
      · refine ⟨buffer, index + 1, ?_, ?_⟩
        · rw [if_pos zero]
        · rw [zero, decimal_zero]
          rfl
      · have front : value / 10 < 10 ^ index := by
          rw [Nat.pow_succ] at fits
          omega
        obtain ⟨written, start, ended, text⟩ := ih (setByte index (digitByte value) buffer)
          (value / 10) (by unfold setByte; rw [List.length_set]; omega) front
        refine ⟨written, start, ?_, ?_⟩
        · rw [if_neg (by omega)]
          exact ended
        · rw [text, drop_setByte _ (by omega), decimal_of_pos positive, List.append_assoc,
            ← asciiChars_digitByte value]
          rfl

theorem itoaLoop_panics (index : Nat) (buffer : List UInt8) (value : Nat)
    (overflows : 10 ^ index ≤ value) : itoaLoop buffer value index = none := by
  induction index generalizing buffer value with
  | zero =>
      unfold itoaLoop
      rw [Nat.pow_zero] at overflows
      rw [if_neg (by omega)]
  | succ index ih =>
      have front : 10 ^ index ≤ value / 10 := by
        rw [Nat.pow_succ] at overflows
        omega
      have positive : 0 < value := Nat.lt_of_lt_of_le (Nat.pow_pos (by decide)) overflows
      unfold itoaLoop
      rw [if_neg (by omega)]
      exact ih _ _ front

theorem itoa_of_lt {value : Int} (positive : 0 < value) (fits : value < 100000000) :
    itoa value = some (String.ofList (decimal value.toNat)) := by
  have places : value.toNat < 10 ^ 8 := by omega
  obtain ⟨written, start, ended, text⟩ :=
    itoaLoop_fits 8 (List.replicate 8 0) value.toNat (by decide) places
  unfold itoa
  rw [if_neg (by omega), ended, Option.map_some, text]
  change some (String.ofList (decimal value.toNat ++ [])) = _
  rw [List.append_nil]

theorem itoa_of_le {value : Int} (large : 100000000 ≤ value) : itoa value = none := by
  have places : 10 ^ 8 ≤ value.toNat := by omega
  unfold itoa
  rw [if_neg (by omega), itoaLoop_panics 8 _ _ places]
  rfl

/-! ### Admitted ports -/

/-- The formatter stays within its buffer and returns the only decimal text of the
port. -/
def Formats (port : Int) : Prop :=
  ∃ text, itoa port = some text ∧ IsDecimal text.toList port.toNat ∧
    ∀ other : String, IsDecimal other.toList port.toNat → other = text

theorem formats_iff {port : Int} (positive : 0 < port) : Formats port ↔ port < 100000000 := by
  have number : 0 < port.toNat := by omega
  constructor
  · intro formats
    obtain ⟨text, returned, _⟩ := formats
    by_contra large
    rw [itoa_of_le (not_lt.mp large)] at returned
    cases returned
  · intro fits
    refine ⟨String.ofList (decimal port.toNat), itoa_of_lt positive fits, ?_, ?_⟩
    · rw [String.toList_ofList]
      exact isDecimal_decimal number
    · intro other isDecimal
      rw [← isDecimal.eq_decimal number, String.ofList_toList]

theorem normalize_port_pos (dns : DNSConfig) : 0 < dns.normalize.port := by
  unfold DNSConfig.normalize
  dsimp only
  split
  · decide
  · omega

/-- For every port that the settings admit, `itoa` is decimal formatting exactly if
the port has at most eight digits. -/
theorem itoa_formats_iff (cfg ready : IfaceConfig) (dns : DNSConfig)
    (completed : cfg.normalize = .ok ready) (serves : ready.dns = some dns) :
    Formats dns.port ↔ dns.port < 100000000 := by
  rw [(IfaceConfig.completedFrom completed).dns] at serves
  obtain ⟨raw, _, normal⟩ := Option.map_eq_some_iff.mp serves
  apply formats_iff
  rw [← normal]
  exact normalize_port_pos raw

def portFile (port : Int) : Config.File where
  interfaces :=
    [{ sampleFileIface "br0" 64 0 with
        pd := none
        dns := some { port := port, redirect53 := false, upstream := "", upstreams := [] } }]

def portDNS (port : Int) : DNSConfig where
  port := port
  redirect53 := false
  upstream := ""
  upstreams := []

def portIface (port : Int) : IfaceConfig :=
  { sampleIface 64 with pd := none, dns := some (portDNS port) }

def portReady (port : Int) : IfaceConfig :=
  { portIface port with ra := (portIface port).advertised }

theorem itoa_formats_5335 :
    (portFile 5335).buildIfaceConfigs sampleParsing = .ok [portIface 5335] ∧
    (portIface 5335).normalize = .ok (portReady 5335) ∧
    itoa 5335 = some "5335" ∧ Formats 5335 := by
  have completed : (portIface 5335).normalize = .ok (portReady 5335) := by decide +kernel
  refine ⟨by decide +kernel, completed, by decide +kernel, ?_⟩
  exact (itoa_formats_iff (portIface 5335) (portReady 5335) (portDNS 5335) completed rfl).mpr
    (by decide)

/-- A port of nine digits is admitted and makes the formatter panic. -/
theorem itoa_panics_at_nine_digits :
    (portFile 100000000).buildIfaceConfigs sampleParsing = .ok [portIface 100000000] ∧
    (portIface 100000000).normalize = .ok (portReady 100000000) ∧
    itoa 100000000 = none ∧ ¬ Formats 100000000 := by
  have panics : itoa 100000000 = none := by decide +kernel
  refine ⟨by decide +kernel, by decide +kernel, panics, ?_⟩
  rintro ⟨text, returned, _⟩
  rw [panics] at returned
  cases returned

end BridgeDhcp.Dns
