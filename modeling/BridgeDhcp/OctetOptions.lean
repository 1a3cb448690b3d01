/-
Lists of options whose lengths count units of eight bytes.

An option is a type byte, a length byte and a value; the length includes the two
bytes before the value.  A reader finds the next option from the length of the one
before it, and gives up at a length of zero and at one that passes the end.  What it
reads is exactly what was written, option by option.
-/

import Mathlib.Tactic.Common

set_option autoImplicit false

namespace BridgeDhcp.OctetOptions

structure RawOption where
  code : UInt8
  value : List UInt8
  deriving DecidableEq, Repr

/-! ### Writing and walking -/

structure RawOption.Fits (option : RawOption) : Prop where
  whole : (option.value.length + 2) % 8 = 0
  short : option.value.length + 2 < 8 * 256

def RawOption.encode (option : RawOption) : List UInt8 :=
  option.code :: UInt8.ofNat ((option.value.length + 2) / 8) :: option.value

/-- Every option takes one unit of fuel, and is not empty. -/
def walkFrom : Nat → List UInt8 → Option (List RawOption)
  | _, [] => some []
  | fuel + 1, code :: units :: rest =>
      if 8 * units.toNat = 0 ∨ rest.length + 2 < 8 * units.toNat then none
      else
        (walkFrom fuel (rest.drop (8 * units.toNat - 2))).map
          (fun later => { code := code, value := rest.take (8 * units.toNat - 2) } :: later)
  | _, _ => none

def walk (bytes : List UInt8) : Option (List RawOption) := walkFrom bytes.length bytes

theorem walkFrom_nil (fuel : Nat) : walkFrom fuel [] = some [] := by
  cases fuel <;> rfl

theorem RawOption.Fits.units {option : RawOption} (fits : option.Fits) :
    8 * (UInt8.ofNat ((option.value.length + 2) / 8)).toNat = option.value.length + 2 := by
  have whole := fits.whole
  have short := fits.short
  rw [UInt8.toNat_ofNat']
  omega

theorem walkFrom_encode {option : RawOption} (fits : option.Fits) (fuel : Nat)
    (rest : List UInt8) :
    walkFrom (fuel + 1) (option.encode ++ rest) =
      (walkFrom fuel rest).map (fun later => option :: later) := by
  have inside : ¬ (option.value.length + 2 = 0 ∨
      (option.value ++ rest).length + 2 < option.value.length + 2) := by
    rw [List.length_append]
    omega
  rw [RawOption.encode, List.cons_append, List.cons_append, walkFrom]
  simp only [fits.units, if_neg inside, Nat.add_sub_cancel, List.take_left, List.drop_left]

theorem walkFrom_flatMap {options : List RawOption} (fits : ∀ option ∈ options, option.Fits)
    {fuel : Nat} (enough : options.length ≤ fuel) :
    walkFrom fuel (options.flatMap RawOption.encode) = some options := by
  induction options generalizing fuel with
  | nil => exact walkFrom_nil fuel
  | cons option rest ih =>
      obtain ⟨more, rfl⟩ : ∃ more, fuel = more + 1 :=
        Nat.exists_eq_succ_of_ne_zero (by rw [List.length_cons] at enough; omega)
      have later := ih (fun other member => fits other (List.mem_cons_of_mem option member))
        (Nat.le_of_succ_le_succ enough)
      rw [List.flatMap_cons, walkFrom_encode (fits option List.mem_cons_self), later]
      rfl

theorem encode_of_walkFrom {fuel : Nat} {bytes : List UInt8} {options : List RawOption}
    (walked : walkFrom fuel bytes = some options) :
    (∀ option ∈ options, option.Fits) ∧ options.flatMap RawOption.encode = bytes := by
  induction fuel, bytes using walkFrom.induct generalizing options with
  | case1 fuel =>
      rw [walkFrom_nil] at walked
      cases walked
      simp
  | case2 fuel code units rest outside =>
      rw [walkFrom] at walked
      simp only [if_pos outside] at walked
      cases walked
  | case3 fuel code units rest inside ih =>
      rw [walkFrom] at walked
      simp only [if_neg inside] at walked
      obtain ⟨later, walkedLater, same⟩ := Option.map_eq_some_iff.mp walked
      obtain ⟨fits, encoded⟩ := ih walkedLater
      subst same
      have bound := units.toNat_lt
      have length : (rest.take (8 * units.toNat - 2)).length + 2 = 8 * units.toNat := by
        rw [List.length_take]
        omega
      constructor
      · intro option member
        rcases List.mem_cons.mp member with here | there
        · rw [here]
          exact ⟨by simp only [length]; omega, by simp only [length]; omega⟩
        · exact fits option there
      · rw [List.flatMap_cons, encoded]
        simp only [RawOption.encode, length, Nat.mul_div_cancel_left _ (Nat.succ_pos 7),
          UInt8.ofNat_toNat, List.cons_append, List.take_append_drop]
  | case4 fuel bytes notEmpty notOption =>
      rw [walkFrom] at walked
      · cases walked
      · exact notEmpty
      · exact notOption

theorem length_le_flatMap_encode (options : List RawOption) :
    options.length ≤ (options.flatMap RawOption.encode).length := by
  induction options with
  | nil => exact Nat.le_refl 0
  | cons option rest ih =>
      rw [List.flatMap_cons, List.length_append, List.length_cons]
      simp only [RawOption.encode, List.length_cons]
      omega

theorem walk_eq_some_iff (bytes : List UInt8) (options : List RawOption) :
    walk bytes = some options ↔
      (∀ option ∈ options, option.Fits) ∧ options.flatMap RawOption.encode = bytes := by
  constructor
  · exact encode_of_walkFrom
  · rintro ⟨fits, rfl⟩
    exact walkFrom_flatMap fits (length_le_flatMap_encode options)

/-! ### Values made of blocks -/

def blocks (width : Nat) : Nat → List UInt8 → List (List UInt8)
  | 0, _ => []
  | count + 1, bytes => bytes.take width :: blocks width count (bytes.drop width)

theorem blocks_flatMap {Item : Type} {width : Nat} (bytesOf : Item → List UInt8)
    (wide : ∀ item, (bytesOf item).length = width) (items : List Item) :
    blocks width items.length (items.flatMap bytesOf) = items.map bytesOf := by
  induction items with
  | nil => rfl
  | cons item rest ih =>
      rw [List.length_cons, blocks, List.flatMap_cons, List.take_left' (wide item),
        List.drop_left' (wide item), ih, List.map_cons]

end BridgeDhcp.OctetOptions
