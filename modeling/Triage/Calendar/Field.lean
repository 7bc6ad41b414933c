/-
# Triage.Calendar.Field -- reading the fields of a written date

A field is a number with blanks allowed in front of it and fewer digits than its width allowed in
it. A year has four digits at most, or a sign and then any number of digits. Every reader takes
the text that is left and gives back what it read with the text after it.
-/
import Triage.Text.Blank
import Triage.Text.Bytes
import Triage.Calendar.Date

namespace Triage.Calendar

open Triage.Text

set_option autoImplicit false

/-- Digits at the front of a text, at least one of them. -/
def digits? (text : List Char) : Option (Nat × List Char) :=
  (readDecimal (text.takeWhile Char.isDigit)).map (·, text.dropWhile Char.isDigit)

/-- One digit or more at the front of a text, but no more than `width` of them. -/
def digitsUpTo? (width : Nat) (text : List Char) : Option (Nat × List Char) :=
  let run := (text.take width).takeWhile Char.isDigit
  (readDecimal run).map (·, text.drop run.length)

/-- A number field of a width. -/
def field? (width : Nat) (text : List Char) : Option (Nat × List Char) :=
  digitsUpTo? width (trimLeft text)

/-- A year field. -/
def yearField? (text : List Char) : Option (Int × List Char) :=
  match trimLeft text with
  | '-' :: rest => (digits? rest).map fun (n, rest) => (-(n : Int), rest)
  | '+' :: rest => (digits? rest).map fun (n, rest) => ((n : Int), rest)
  | rest => (digitsUpTo? 4 rest).map fun (n, rest) => ((n : Int), rest)

/-- A fixed character. -/
def mark? (mark : Char) (text : List Char) : Option (List Char) :=
  match text with
  | c :: rest => if c = mark then some rest else none
  | [] => none

end Triage.Calendar

namespace Triage.Date

open Triage.Calendar

set_option autoImplicit false

/-- A date literal: ten bytes of text that hold a year, a month and a day, a hyphen right after
the first two, and nothing else. -/
def read? (text : List Char) : Option Date := do
  guard (Text.byteLength text = 10)
  let (year, rest) ← yearField? text
  let rest ← mark? '-' rest
  let (month, rest) ← field? 2 rest
  let rest ← mark? '-' rest
  let (day, rest) ← field? 2 rest
  guard (rest = [])
  of? year month day

end Triage.Date
