/-
Texts as Go's standard library sees them: white space, quoting, and the white space
that a scan with a format passes over.
-/

import Mathlib.Data.List.DropRight
import Mathlib.Data.String.Basic

set_option autoImplicit false

namespace BridgeDhcp.GoText

/-! ### White space -/

/-- `unicode.IsSpace`, and the table of the package `fmt`. -/
def isSpace (char : Char) : Bool :=
  char.toNat ∈ [0x09, 0x0A, 0x0B, 0x0C, 0x0D, 0x20, 0x85, 0xA0, 0x1680, 0x2028, 0x2029, 0x202F,
    0x205F, 0x3000] || (0x2000 ≤ char.toNat && char.toNat ≤ 0x200A)

def trim (chars : List Char) : List Char := (chars.dropWhile isSpace).rdropWhile isSpace

def trimSpace (text : String) : String := String.ofList (trim text.toList)

theorem dropWhile_trim (chars : List Char) : (trim chars).dropWhile isSpace = trim chars := by
  unfold trim
  rw [List.dropWhile_eq_self_iff]
  intro nonempty
  have initial := List.rdropWhile_prefix isSpace (chars.dropWhile isSpace)
  have longer : 0 < (chars.dropWhile isSpace).length :=
    Nat.lt_of_lt_of_le nonempty initial.length_le
  rw [initial.getElem nonempty]
  exact List.dropWhile_eq_self_iff.mp (List.dropWhile_idempotent isSpace chars) longer

@[simp] theorem trimSpace_trimSpace (text : String) :
    trimSpace (trimSpace text) = trimSpace text := by
  unfold trimSpace
  rw [String.toList_ofList]
  have again : trim (trim text.toList) = trim text.toList := by
    conv_lhs => rw [trim, dropWhile_trim]
    exact List.rdropWhile_idempotent isSpace _
  rw [again]

theorem trim_of_spaceless {chars : List Char} (spaceless : ∀ char ∈ chars, isSpace char = false) :
    trim chars = chars := by
  have kept : chars.dropWhile isSpace = chars := by
    rw [List.dropWhile_eq_self_iff]
    intro nonempty
    rw [spaceless _ (List.getElem_mem nonempty)]
    exact Bool.false_ne_true
  unfold trim
  rw [kept, List.rdropWhile_eq_self_iff]
  intro nonempty
  rw [spaceless _ (List.getLast_mem nonempty)]
  exact Bool.false_ne_true

/-- `SkipSpace` of a scan with a format, for which the end of a line is an error.  A
carriage return before it makes no difference. -/
def skipSpace : List Char → Option (List Char)
  | [] => some []
  | char :: rest =>
      if char = '\n' then none
      else if isSpace char then skipSpace rest
      else some (char :: rest)

theorem skipSpace_eq (chars : List Char) :
    skipSpace chars =
      if '\n' ∈ chars.takeWhile isSpace then none else some (chars.dropWhile isSpace) := by
  induction chars with
  | nil => rfl
  | cons char rest ih =>
      unfold skipSpace
      by_cases newline : char = '\n'
      · rw [newline, if_pos rfl, List.takeWhile_cons_of_pos (by decide), if_pos List.mem_cons_self]
      · rw [if_neg newline]
        by_cases space : isSpace char = true
        · have later : '\n' ∈ char :: rest.takeWhile isSpace ↔ '\n' ∈ rest.takeWhile isSpace := by
            rw [List.mem_cons, or_iff_right (fun same => newline same.symm)]
          simp only [space, if_true, ih, List.takeWhile_cons_of_pos, List.dropWhile_cons_of_pos, later]
        · rw [if_neg space, List.takeWhile_cons_of_neg space, List.dropWhile_cons_of_neg space,
            if_neg (List.not_mem_nil)]

/-! ### Quoting -/

/-- `strconv.IsPrint` up to Latin-1; characters beyond it are taken to be printable. -/
def isPrint (char : Char) : Bool :=
  (0x20 ≤ char.toNat && char.toNat < 0x7f) || (0xa1 ≤ char.toNat && char.toNat != 0xad)

def escapeDigits (count value : Nat) : List Char :=
  (List.range count).reverse.map (fun place => Nat.digitChar (value / 16 ^ place % 16))

def escapeLetters : List (Nat × Char) :=
  [(0x07, 'a'), (0x08, 'b'), (0x09, 't'), (0x0a, 'n'), (0x0b, 'v'), (0x0c, 'f'), (0x0d, 'r')]

def quoteChar (char : Char) : List Char :=
  if char = '"' ∨ char = '\\' then ['\\', char]
  else if isPrint char then [char]
  else
    match escapeLetters.lookup char.toNat with
    | some letter => ['\\', letter]
    | none =>
        if char.toNat < 0x20 ∨ char.toNat = 0x7f then '\\' :: 'x' :: escapeDigits 2 char.toNat
        else '\\' :: 'u' :: escapeDigits 4 char.toNat

/-- The verb `%q`. -/
def quote (text : String) : String :=
  String.ofList ('"' :: text.toList.flatMap quoteChar ++ ['"'])

end BridgeDhcp.GoText
