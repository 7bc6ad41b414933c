/-
# Triage.Text.Decimal -- numbers in decimal digits

Numbers are written in the ten ASCII digits without leading zeros, and read from any number of
digits, leading zeros included. Main statement: `readDecimal_decimal`, reading what was written
gives the number back.
-/

namespace Triage.Text

set_option autoImplicit false

/-- The digits of a number, without leading zeros. -/
def decimal (n : Nat) : List Char := Nat.toDigits 10 n

/-- The digits of a number, with zeros in front up to the width. -/
def padded (width n : Nat) : List Char :=
  List.replicate (width - (decimal n).length) '0' ++ decimal n

/-- The number that a text of digits spells; `none` for the empty text and any other character. -/
def readDecimal (text : List Char) : Option Nat :=
  if text ≠ [] ∧ text.all Char.isDigit then some (Nat.ofDigitChars 10 text 0) else none

/-- A 64-bit number: digits, with a plus sign allowed in front, and below `2 ^ 64`. -/
def readWord (text : List Char) : Option UInt64 :=
  let digits := match text with
    | '+' :: rest => rest
    | _ => text
  match readDecimal digits with
  | some n => if h : n < UInt64.size then some (UInt64.ofNatLT n h) else none
  | none => none

theorem decimal_ne_nil (n : Nat) : decimal n ≠ [] := Nat.toDigits_ne_nil

theorem isDigit_of_mem_decimal {n : Nat} {c : Char} (h : c ∈ decimal n) : c.isDigit = true :=
  Nat.isDigit_of_mem_toDigits (by omega) (by omega) h

@[simp] theorem readDecimal_decimal (n : Nat) : readDecimal (decimal n) = some n := by
  have digits : (decimal n).all Char.isDigit = true :=
    List.all_eq_true.mpr fun _ h => isDigit_of_mem_decimal h
  rw [readDecimal, if_pos ⟨decimal_ne_nil n, digits⟩, decimal,
    Nat.ofDigitChars_toDigits (by omega) (by omega)]

end Triage.Text
