/-
# Triage.Json.Magnitude -- numbers within the range of a double

A number that nobody asks for may have any size, but one that is read as a value must be near a
finite double. Its digits count as long as they fit into 64 bits together, and every digit of the
integer part after that only raises the power of ten. The number is the product of both, each
rounded to 53 bits; it is out of range where that product would round to infinity.
-/
import Triage.Text.Decimal

namespace Triage.Json

set_option autoImplicit false

/-- Rounds a number to so many significant bits, a tie to the even neighbour. -/
def roundBits (bits n : Nat) : Nat :=
  let unit := Nat.pow 2 (n.log2 + 1 - bits)
  let quotient := n / unit
  let twice := 2 * (n % unit)
  if twice < unit ∨ (twice = unit ∧ quotient % 2 = 0) then quotient * unit
  else (quotient + 1) * unit

/-- The least number that rounds to infinity: half a unit above the greatest double. -/
def infinityBound : Nat := (Nat.pow 2 54 - 1) * Nat.pow 2 970

/-- The exponent of the greatest power of ten that is a finite double. -/
def greatestPower : Nat := 308

/-- The greatest exponent that is taken at its word. The JSON library, release 1, holds an exponent
in a signed number of 32 bits; a greater one makes a number zero or puts it out of range, by its
sign. -/
def greatestExponent : Nat := 2147483647

/-- Appends digits to a number as long as the result fits into 64 bits; gives the number of digits
left over as well. -/
def appendDigits (n : Nat) : List Char → Nat × Nat
  | [] => (n, 0)
  | c :: rest =>
    let next := n * 10 + (c.toNat - 0x30)
    if next < UInt64.size then appendDigits next rest else (n, rest.length + 1)

/-- Whether a significand times a power of ten is within range. -/
def inRange (significand : Nat) (power : Int) : Bool :=
  significand = 0 || decide (power < 0) ||
    (decide (power ≤ greatestPower) &&
      decide (roundBits 53 significand * roundBits 53 (Nat.pow 10 power.toNat) < infinityBound))

/-- Whether a spelled number is within the range of a double. -/
def isFinite (spelling : List Char) : Bool :=
  let unsigned := match spelling with
    | '-' :: rest => rest
    | _ => spelling
  let (start, raised) := appendDigits 0 (unsigned.takeWhile Char.isDigit)
  let afterWhole := unsigned.dropWhile Char.isDigit
  let (fraction, rest) := match afterWhole with
    | '.' :: rest => (rest.takeWhile Char.isDigit, rest.dropWhile Char.isDigit)
    | _ => ([], afterWhole)
  let (significand, ignored) := appendDigits start fraction
  let power := (raised : Int) - (fraction.length - ignored : Nat)
  match rest with
  | _ :: '-' :: digits =>
    let exponent := Nat.ofDigitChars 10 digits 0
    decide (greatestExponent < exponent) || inRange significand (power - exponent)
  | _ :: digits =>
    let exponent := Nat.ofDigitChars 10 (digits.filter Char.isDigit) 0
    if greatestExponent < exponent then significand = 0 else inRange significand (power + exponent)
  | [] => inRange significand power

end Triage.Json
