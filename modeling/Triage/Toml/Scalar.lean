/-
# Triage.Toml.Scalar -- values without quotes

Booleans, whole numbers in four bases, numbers with a fraction or an exponent, dates and times.
Digits may be set apart by single underscores; a decimal number has no leading zero. Main
definition: `Value.ofWord?`, the value that an unquoted word spells.
-/
import Triage.Calendar.Instant
import Triage.Json.Magnitude
import Triage.Json.Spelling
import Triage.Toml.Basic

namespace Triage.Toml

open Triage.Calendar Triage.Text

set_option autoImplicit false

/-! ## Numbers -/

/-- Digits without the underscores between them. -/
def ungroup (isDigit : Char → Bool) : List Char → Option (List Char)
  | [] => none
  | [c] => if isDigit c then some [c] else none
  | c :: '_' :: rest => if isDigit c then (ungroup isDigit rest).map (c :: ·) else none
  | c :: d :: rest => if isDigit c then (ungroup isDigit (d :: rest)).map (c :: ·) else none

/-- The sign in front of a number, and the rest of it. -/
def splitSign : List Char → Bool × List Char
  | '-' :: rest => (true, rest)
  | '+' :: rest => (false, rest)
  | text => (false, text)

/-- Decimal digits without a leading zero. -/
def wholeDigits? (text : List Char) : Option (List Char) :=
  match ungroup Char.isDigit text with
  | some ('0' :: _ :: _) => none
  | digits => digits

/-- The value of digits in a base. -/
def valueIn (base : Nat) (digits : List Char) : Nat :=
  digits.foldl (fun n c => n * base + (Json.hexValue? c).getD 0) 0

/-- A whole number in a base, after its mark. -/
def inBase? (base : Nat) (text : List Char) : Option Value :=
  let isDigit (c : Char) : Bool := (Json.hexValue? c).any fun value => decide (value < base)
  (ungroup isDigit text).map fun digits => .integer false (valueIn base digits)

def integer? (text : List Char) : Option Value :=
  match text with
  | '0' :: 'x' :: rest => inBase? 16 rest
  | '0' :: 'o' :: rest => inBase? 8 rest
  | '0' :: 'b' :: rest => inBase? 2 rest
  | _ =>
    let (isNegative, digits) := splitSign text
    (wholeDigits? digits).map fun digits => .integer isNegative (valueIn 10 digits)

/-- Whether digits times a power of ten stay below the bound of the finite doubles. Only sizes near
the bound are worked out. -/
def staysFinite (digits : List Char) (power : Int) : Bool :=
  let significand := valueIn 10 digits
  let size := (decimal significand).length + power
  if significand = 0 ∨ size < 300 then true
  else if 320 < size then false
  else if 0 ≤ power then decide (significand * Nat.pow 10 power.toNat < Json.infinityBound)
  else decide (significand < Json.infinityBound * Nat.pow 10 power.natAbs)

/-- The digits after a point, if there is one. -/
def fractionDigits? : List Char → Option (List Char)
  | [] => some []
  | '.' :: digits => ungroup Char.isDigit digits
  | _ => none

/-- The exponent after its mark, if there is one. -/
def exponent? : List Char → Option Int
  | [] => some 0
  | _ :: text =>
    let (isNegative, digits) := splitSign text
    (ungroup Char.isDigit digits).map fun digits =>
      let size : Int := valueIn 10 digits
      if isNegative then -size else size

def float? (text : List Char) : Option Value := do
  let (_, unsigned) := splitSign text
  if unsigned = ['i', 'n', 'f'] ∨ unsigned = ['n', 'a', 'n'] then return .float true
  let isMark (c : Char) : Bool := c = 'e' || c = 'E'
  let mantissa := unsigned.takeWhile (!isMark ·)
  let tail := unsigned.dropWhile (!isMark ·)
  let fraction := mantissa.dropWhile (· ≠ '.')
  guard (fraction ≠ [] ∨ tail ≠ [])
  let whole ← wholeDigits? (mantissa.takeWhile (· ≠ '.'))
  let digits ← fractionDigits? fraction
  let exponent ← exponent? tail
  return .float (staysFinite (whole ++ digits) (exponent - digits.length))

/-! ## Dates and times -/

/-- A day `YYYY-MM-DD`, and the text after it. -/
def day? (text : List Char) : Option (List Char) := do
  let (century, rest) ← pair? text
  let (year, rest) ← pair? rest
  let (month, rest) ← pair? (← mark? '-' rest)
  let (day, rest) ← pair? (← mark? '-' rest)
  let _ ← Date.of? (century * 100 + year) month day
  return rest

/-- A time of day `HH:MM`, perhaps with seconds and a fraction, and the text after it. -/
def time? (text : List Char) : Option (List Char) := do
  let (hour, rest) ← pair? text
  let (minute, rest) ← pair? (← mark? ':' rest)
  guard (hour < 24 ∧ minute < 60)
  match rest with
  | ':' :: rest =>
    let (second, rest) ← pair? rest
    guard (second ≤ 60)
    match rest with
    | '.' :: rest => return (← digits? rest).2
    | _ => return rest
  | _ => return rest

/-- Whether a text is an offset from universal time: less than a day, in hours and minutes. -/
def isOffset (text : List Char) : Bool :=
  match text with
  | ['Z'] | ['z'] => true
  | sign :: a :: b :: ':' :: c :: d :: [] =>
    (sign = '+' || sign = '-') &&
      match pair? [a, b], pair? [c, d] with
      | some (hours, _), some (minutes, _) => decide (hours < 24) && decide (minutes < 60)
      | _, _ => false
  | _ => false

/-- A day, a time of day, or a day and a time of day with or without an offset. -/
def moment? (text : List Char) : Option Value :=
  let isMoment : Bool := match day? text with
    | some [] => true
    | some (separator :: rest) =>
      (separator = 'T' || separator = 't' || separator = ' ') &&
        (time? rest).any fun rest => rest.isEmpty || isOffset rest
    | none => decide (time? text = some [])
  if isMoment then some .moment else none

/-! ## Words -/

/-- The value that a word spells. -/
def Value.ofWord? (word : List Char) : Option Value :=
  if word = ['t', 'r', 'u', 'e'] then some (.bool true)
  else if word = ['f', 'a', 'l', 's', 'e'] then some (.bool false)
  else (integer? word).or ((float? word).or (moment? word))

end Triage.Toml
