/-
# Triage.Proofs.Digits -- numbers in a fixed number of digits

A number that fits its width is written in exactly so many digits, and a field of that width reads
it back and leaves the rest of the text alone (`digitsUpTo?_padded`, `field?_padded`).  A number
that does not fit is written all the same, in more digits than the width (`le_length_padded`), but a
field never reads more digits than its width (`digitsUpTo?_lt`).
-/
import Triage.Calendar.Field

namespace Triage

open Triage.Text

set_option autoImplicit false

namespace Text

theorem isDigit_of_mem_padded {width n : Nat} {c : Char} (member : c ∈ padded width n) :
    c.isDigit = true := by
  rcases List.mem_append.mp member with zeros | digits
  · rw [List.eq_of_mem_replicate zeros]
    rfl
  · exact isDigit_of_mem_decimal digits

theorem padded_ne_nil (width n : Nat) : padded width n ≠ [] := by
  intro empty
  exact decimal_ne_nil n (List.append_eq_nil_iff.mp empty).2

/-- What begins with a padded number begins with a digit. -/
theorem isDigit_of_padded_append {width n : Nat} {c : Char} {rest tail : List Char}
    (same : padded width n ++ rest = c :: tail) : c.isDigit = true := by
  cases digits : padded width n with
  | nil => exact absurd digits (padded_ne_nil width n)
  | cons d more =>
      rw [digits, List.cons_append, List.cons.injEq] at same
      exact isDigit_of_mem_padded (by rw [digits, same.1]; simp)

theorem le_length_padded (width n : Nat) : width ≤ (padded width n).length := by
  simp only [padded, List.length_append, List.length_replicate]
  omega

theorem length_padded {width n : Nat} (positive : 0 < width) (fits : n < Nat.pow 10 width) :
    (padded width n).length = width := by
  have short : (decimal n).length ≤ width :=
    (Nat.length_toDigits_le_iff (by omega) positive).mpr fits
  simp only [padded, List.length_append, List.length_replicate]
  omega

/-- The zeros in front do not count. -/
theorem readDecimal_padded (width n : Nat) : readDecimal (padded width n) = some n := by
  have digits : (padded width n).all Char.isDigit = true :=
    List.all_eq_true.mpr fun _ member => isDigit_of_mem_padded member
  rw [readDecimal, if_pos ⟨padded_ne_nil width n, digits⟩, padded, Nat.ofDigitChars_append,
    Nat.ofDigitChars_replicate_zero, Nat.mul_zero, decimal,
    Nat.ofDigitChars_toDigits (by omega) (by omega)]

/-- What some digits add to a number in front of them. -/
theorem ofDigitChars_lt {text : List Char} (digits : ∀ c ∈ text, c.isDigit = true) (front : Nat) :
    Nat.ofDigitChars 10 text front < (front + 1) * Nat.pow 10 text.length := by
  induction text generalizing front with
  | nil => simp
  | cons c rest ih =>
      have digit : 48 ≤ c.toNat ∧ c.toNat ≤ 57 :=
        Char.isDigit_iff_toNat.mp (digits c List.mem_cons_self)
      have zero : '0'.toNat = 48 := rfl
      have behind := ih (fun d member => digits d (List.mem_cons_of_mem c member))
        (10 * front + (c.toNat - '0'.toNat))
      rw [Nat.ofDigitChars_cons, List.length_cons]
      calc
        _ < (10 * front + (c.toNat - '0'.toNat) + 1) * Nat.pow 10 rest.length := behind
        _ ≤ ((front + 1) * 10) * Nat.pow 10 rest.length := Nat.mul_le_mul_right _ (by omega)
        _ = (front + 1) * (Nat.pow 10 rest.length * 10) := by
            rw [Nat.mul_assoc, Nat.mul_comm 10]

/-- A number is bounded by the count of the digits it is read from. -/
theorem readDecimal_lt {text : List Char} {n : Nat} (read : readDecimal text = some n) :
    n < Nat.pow 10 text.length := by
  unfold readDecimal at read
  split at read
  · next spelled =>
      cases read
      have bound := ofDigitChars_lt (List.all_eq_true.mp spelled.2) 0
      rwa [Nat.zero_add, Nat.one_mul] at bound
  · cases read

/-- No digit is blank. -/
theorem isBlank_eq_false_of_isDigit {c : Char} (digit : c.isDigit = true) : isBlank c = false := by
  have range : 48 ≤ c.toNat ∧ c.toNat ≤ 57 := Char.isDigit_iff_toNat.mp digit
  exact isBlank_eq_false_of_visible (by omega)

/-- The bytes of a text of ASCII characters are its characters. -/
theorem byteLength_eq_length {text : List Char} (ascii : ∀ c ∈ text, c.toNat < 128) :
    byteLength text = text.length := by
  induction text with
  | nil => rfl
  | cons c text ih =>
      have size : c.utf8Size = 1 := by
        have small := ascii c (by simp)
        rw [Char.utf8Size_eq_one_iff, UInt32.le_iff_toNat_le]
        exact Nat.lt_succ_iff.mp small
      rw [byteLength_cons, size, ih fun d member => ascii d (by simp [member]), List.length_cons,
        Nat.add_comm]

end Text

namespace Calendar

/-- A number that fills its width is read up to its last digit. -/
theorem digitsUpTo?_padded {width n : Nat} (positive : 0 < width) (fits : n < Nat.pow 10 width)
    (rest : List Char) : digitsUpTo? width (padded width n ++ rest) = some (n, rest) := by
  have whole : ((padded width n ++ rest).take width).takeWhile Char.isDigit = padded width n := by
    have all : ∀ c ∈ padded width n, c.isDigit = true :=
      fun _ member => isDigit_of_mem_padded member
    have run : (padded width n ++ []).takeWhile Char.isDigit = padded width n ++ [] :=
      List.takeWhile_append_of_pos all
    rw [List.take_left' (length_padded positive fits)]
    simpa using run
  simp only [digitsUpTo?, whole, readDecimal_padded, List.drop_left, Option.map_some]

/-- A field of a width holds a number of so many digits. -/
theorem digitsUpTo?_lt {width n : Nat} {text rest : List Char}
    (read : digitsUpTo? width text = some (n, rest)) : n < Nat.pow 10 width := by
  simp only [digitsUpTo?, Option.map_eq_some_iff, Prod.mk.injEq] at read
  obtain ⟨_, spelled, rfl, -⟩ := read
  have short : ((text.take width).takeWhile Char.isDigit).length ≤ width :=
    Nat.le_trans (List.takeWhile_sublist _).length_le (List.length_take_le width text)
  exact Nat.lt_of_lt_of_le (readDecimal_lt spelled) (Nat.pow_le_pow_right (by omega) short)

theorem trimLeft_padded (width n : Nat) (rest : List Char) :
    trimLeft (padded width n ++ rest) = padded width n ++ rest := by
  cases same : padded width n ++ rest with
  | nil => rfl
  | cons c tail =>
      have digit : c.isDigit = true := isDigit_of_padded_append same
      rw [trimLeft, List.dropWhile_cons_of_neg (by simp [isBlank_eq_false_of_isDigit digit])]

theorem field?_padded {width n : Nat} (positive : 0 < width) (fits : n < Nat.pow 10 width)
    (rest : List Char) : field? width (padded width n ++ rest) = some (n, rest) := by
  rw [field?, trimLeft_padded, digitsUpTo?_padded positive fits]

end Calendar

end Triage
