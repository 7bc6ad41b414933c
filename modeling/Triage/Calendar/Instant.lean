/-
# Triage.Calendar.Instant -- points in time

An instant is a date and a time of day in universal time, to the nanosecond. Any minute may hold a
leap second, the second 60. Instants are read from RFC 3339 texts at any offset, with some freedom
in spacing and digits, and written in universal time with `Z` and as few groups of three fraction
digits as hold the fraction.
-/
import Triage.Calendar.Field

namespace Triage

open Triage.Text Triage.Calendar

set_option autoImplicit false

/-- A time of day. -/
structure Clock where
  hour : Nat
  minute : Nat
  second : Nat
  nanosecond : Nat
  real : hour < 24 ∧ minute < 60 ∧ second ≤ 60 ∧ nanosecond < 1000000000
deriving DecidableEq

/-- A point in time. -/
structure Instant where
  date : Date
  clock : Clock
deriving DecidableEq

namespace Clock

def of? (hour minute second nanosecond : Nat) : Option Clock :=
  if real : hour < 24 ∧ minute < 60 ∧ second ≤ 60 ∧ nanosecond < 1000000000 then
    some ⟨hour, minute, second, nanosecond, real⟩
  else none

/-- The fraction of a second: a point and three, six or nine digits, or nothing for zero. -/
def fractionChars (nanosecond : Nat) : List Char :=
  if nanosecond = 0 then []
  else if nanosecond % 1000000 = 0 then '.' :: padded 3 (nanosecond / 1000000)
  else if nanosecond % 1000 = 0 then '.' :: padded 6 (nanosecond / 1000)
  else '.' :: padded 9 nanosecond

def chars (clock : Clock) : List Char :=
  padded 2 clock.hour ++ ':' :: padded 2 clock.minute ++ ':' :: padded 2 clock.second ++
    fractionChars clock.nanosecond

end Clock

namespace Calendar

/-- A fraction of a second: a point, at least one digit, and only the first nine digits count.
Without a point the fraction is zero. -/
def fraction? (text : List Char) : Option (Nat × List Char) :=
  match text with
  | '.' :: rest =>
    (digitsUpTo? 9 rest).map fun (n, after) =>
      (n * Nat.pow 10 (9 - (rest.length - after.length)), after.dropWhile Char.isDigit)
  | _ => some (0, text)

/-- A time of day in which blanks may stand around the colons. -/
def clock? (text : List Char) : Option (Clock × List Char) := do
  let (hour, rest) ← field? 2 text
  let rest ← mark? ':' (trimLeft rest)
  let (minute, rest) ← field? 2 rest
  let rest ← mark? ':' (trimLeft rest)
  let (second, rest) ← field? 2 rest
  let (nanosecond, rest) ← fraction? rest
  return (← Clock.of? hour minute second nanosecond, rest)

/-- Two digits. -/
def pair? (text : List Char) : Option (Nat × List Char) :=
  match text with
  | a :: b :: rest => (readDecimal [a, b]).map (·, rest)
  | _ => none

/-- Hours and minutes of an offset after its sign, with any colons and blanks between them. -/
def offsetMinutes? (text : List Char) : Option (Nat × List Char) := do
  let (hours, rest) ← pair? text
  let (minutes, rest) ← pair? (rest.dropWhile fun c => c = ':' || isBlank c)
  guard (hours < 24 ∧ minutes < 60)
  return (hours * 60 + minutes, rest)

/-- The sign that MINUS SIGN, U+2212, stands for in an offset. -/
def minusSign : Char := Char.ofNat 0x2212

/-- An offset from universal time in minutes: `Z` or `UTC` in any case, or a sign, hours and
minutes. -/
def offset? (text : List Char) : Option (Int × List Char) :=
  match text with
  | c :: rest =>
    if c = 'Z' ∨ c = 'z' then some (0, rest)
    else if c = '+' then (offsetMinutes? rest).map fun (n, rest) => ((n : Int), rest)
    else if c = '-' ∨ c = minusSign then
      (offsetMinutes? rest).map fun (n, rest) => (-(n : Int), rest)
    else if (text.take 3).map Char.toUpper = ['U', 'T', 'C'] then some (0, text.drop 3)
    else none
  | [] => none

end Calendar

namespace Instant

/-- The same point in time, given as a date and a time of day that are ahead of universal time by
`offset` minutes; no offset reaches a whole day. -/
def ofLocal? (date : Date) (clock : Clock) (offset : Int) : Option Instant := do
  let minutes := (clock.hour * 60 + clock.minute : Int) - offset
  let date ←
    if minutes < 0 then date.previous?
    else if minutes < 1440 then some date
    else date.next?
  let minute := (minutes % 1440).toNat
  let clock ← Clock.of? (minute / 60) (minute % 60) clock.second clock.nanosecond
  return ⟨date, clock⟩

/-- Reads an RFC 3339 text. Blanks may stand before every number, hyphen and colon and before the
offset, and after it; the date ends with `T`, `t` or a space. -/
def read? (text : String) : Option Instant := do
  let (year, rest) ← yearField? text.toList
  let rest ← mark? '-' (trimLeft rest)
  let (month, rest) ← field? 2 rest
  let rest ← mark? '-' (trimLeft rest)
  let (day, rest) ← field? 2 rest
  let date ← Date.of? year month day
  match rest with
  | c :: rest =>
    guard (c = 'T' ∨ c = 't' ∨ c = ' ')
    let (clock, rest) ← clock? rest
    let (offset, rest) ← offset? (trimLeft rest)
    guard (trimLeft rest = [])
    ofLocal? date clock offset
  | [] => none

def chars (instant : Instant) : List Char :=
  instant.date.chars ++ 'T' :: instant.clock.chars ++ ['Z']

def text (instant : Instant) : String := String.ofList instant.chars

end Instant

end Triage
