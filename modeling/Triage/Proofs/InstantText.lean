/-
# Triage.Proofs.InstantText -- a written instant is read back

An instant is written with as many digits as it needs: a sign in front of a year that four digits do
not hold, and groups of three digits for the fraction of its second.  Every part is read back and
leaves the rest of the text alone: a year in front of its hyphen (`yearField?_yearText`), a fraction
in front of anything but a digit or a point (`fraction?_fractionChars`), a time of day
(`clock?_chars`).
Main statement: `read?_text`.
-/
import Triage.Calendar.Instant
import Triage.Proofs.DateText

namespace Triage

open Triage.Text Triage.Calendar

set_option autoImplicit false

namespace Calendar

/-- The text does not go on with a digit. -/
def EndsDigits (rest : List Char) : Prop := ∀ c ∈ rest.head?, c.isDigit = false

theorem takeWhile_padded {width n : Nat} {rest : List Char} (ends : EndsDigits rest) :
    (padded width n ++ rest).takeWhile Char.isDigit = padded width n := by
  rw [List.takeWhile_append_of_pos fun _ member => isDigit_of_mem_padded member]
  cases rest with
  | nil => simp
  | cons c rest => simp [ends c rfl]

theorem dropWhile_padded {width n : Nat} {rest : List Char} (ends : EndsDigits rest) :
    (padded width n ++ rest).dropWhile Char.isDigit = rest := by
  rw [List.dropWhile_append_of_pos fun _ member => isDigit_of_mem_padded member]
  cases rest with
  | nil => rfl
  | cons c rest => simp [ends c rfl]

theorem digits?_padded {width n : Nat} {rest : List Char} (ends : EndsDigits rest) :
    digits? (padded width n ++ rest) = some (n, rest) := by
  rw [digits?, takeWhile_padded ends, dropWhile_padded ends, readDecimal_padded]
  rfl

/-- A number with fewer digits than a field holds is read up to its last digit. -/
theorem digitsUpTo?_short {width count n : Nat} (positive : 0 < count) (room : count ≤ width)
    (fits : n < Nat.pow 10 count) {rest : List Char} (ends : EndsDigits rest) :
    digitsUpTo? width (padded count n ++ rest) = some (n, rest) := by
  have length : (padded count n).length = count := length_padded positive fits
  have ends' : EndsDigits (rest.take (width - count)) := by
    intro c first
    apply ends c
    cases rest with
    | nil => simp at first
    | cons d rest =>
        cases left : width - count with
        | zero => simp [left] at first
        | succ => simpa [left] using first
  have front : (padded count n ++ rest).take width =
      padded count n ++ rest.take (width - count) := by
    rw [List.take_append, List.take_of_length_le (by omega), length]
  simp only [digitsUpTo?, front, takeWhile_padded ends', readDecimal_padded, List.drop_left,
    Option.map_some]

/-- A written year is read in front of its hyphen, whatever sign and however many digits it has. -/
theorem yearField?_yearText (year : Int) (rest : List Char) :
    yearField? (Date.yearText year ++ '-' :: rest) = some (year, '-' :: rest) := by
  have ends : EndsDigits ('-' :: rest) := by simp [EndsDigits]
  unfold Date.yearText
  split
  · next within =>
      have fits : year.toNat < 10000 := by omega
      rw [Date.yearField?_padded fits, Int.toNat_of_nonneg within.1]
  · split
    · next negative =>
        have value : -(year.natAbs : Int) = year := by omega
        have shown : trimLeft ('-' :: padded 4 year.natAbs ++ '-' :: rest) =
            '-' :: (padded 4 year.natAbs ++ '-' :: rest) := rfl
        rw [yearField?, shown]
        simp only [digits?_padded ends, Option.map_some, value]
    · next outside =>
        have value : (year.natAbs : Int) = year := by omega
        have shown : trimLeft ('+' :: padded 4 year.natAbs ++ '-' :: rest) =
            '+' :: (padded 4 year.natAbs ++ '-' :: rest) := rfl
        rw [yearField?, shown]
        simp only [digits?_padded ends, Option.map_some, value]

/-- A fraction in groups of three digits counts as many nanoseconds as all nine of its digits. -/
theorem fraction?_padded {count n : Nat} (positive : 0 < count) (room : count ≤ 9)
    (fits : n < Nat.pow 10 count) {rest : List Char} (ends : EndsDigits rest) :
    fraction? ('.' :: padded count n ++ rest) = some (n * Nat.pow 10 (9 - count), rest) := by
  have length : (padded count n).length = count := length_padded positive fits
  have used : (padded count n ++ rest).length - rest.length = count := by
    rw [List.length_append, length]
    omega
  have after : rest.dropWhile Char.isDigit = rest := by
    cases rest with
    | nil => rfl
    | cons c rest => simp [ends c rfl]
  rw [List.cons_append, fraction?, digitsUpTo?_short positive room fits ends]
  simp only [Option.map_some, used, after]

theorem fraction?_fractionChars {nanosecond : Nat} (real : nanosecond < 1000000000)
    {rest : List Char} (ends : EndsDigits rest) (blunt : rest.head? ≠ some '.') :
    fraction? (Clock.fractionChars nanosecond ++ rest) = some (nanosecond, rest) := by
  unfold Clock.fractionChars
  split
  · next zero =>
      rw [List.nil_append, fraction?]
      · rw [zero]
      · rintro after rfl
        exact blunt rfl
  · split
    · next whole =>
        rw [fraction?_padded (by omega) (by omega) (show _ < 1000 by omega) ends]
        simp only [Option.some.injEq, Prod.mk.injEq, and_true]
        exact Nat.div_mul_cancel (Nat.dvd_of_mod_eq_zero whole)
    · split
      · next whole =>
          rw [fraction?_padded (by omega) (by omega) (show _ < 1000000 by omega) ends]
          simp only [Option.some.injEq, Prod.mk.injEq, and_true]
          exact Nat.div_mul_cancel (Nat.dvd_of_mod_eq_zero whole)
      · rw [fraction?_padded (by omega) (by omega) (show _ < 1000000000 by omega) ends]
        simp

theorem mark?_trimLeft {mark : Char} (shown : isBlank mark = false) (rest : List Char) :
    mark? mark (trimLeft (mark :: rest)) = some rest := by
  rw [trimLeft, List.dropWhile_cons_of_neg (by simp [shown])]
  simp [mark?]

theorem clock?_chars (clock : Clock) {rest : List Char} (ends : EndsDigits rest)
    (blunt : rest.head? ≠ some '.') : clock? (clock.chars ++ rest) = some (clock, rest) := by
  obtain ⟨hour, minute, second, nanosecond, real⟩ := clock
  have shape : Clock.chars ⟨hour, minute, second, nanosecond, real⟩ ++ rest =
      padded 2 hour ++ ':' :: (padded 2 minute ++ ':' :: (padded 2 second ++
        (Clock.fractionChars nanosecond ++ rest))) := by
    simp [Clock.chars]
  rw [shape, clock?]
  simp only [field?_padded Nat.two_pos (show hour < 100 by omega),
    field?_padded Nat.two_pos (show minute < 100 by omega),
    field?_padded Nat.two_pos (show second < 100 by omega),
    mark?_trimLeft (show isBlank ':' = false from rfl),
    fraction?_fractionChars real.2.2.2 ends blunt, Option.bind_eq_bind, Option.bind_some, Clock.of?,
    dif_pos real]
  rfl

end Calendar

namespace Instant

/-- Universal time is no time ahead of itself. -/
theorem ofLocal?_zero (date : Date) (clock : Clock) :
    ofLocal? date clock 0 = some ⟨date, clock⟩ := by
  obtain ⟨hour, minute, second, nanosecond, real⟩ := clock
  have future : ¬ (hour * 60 + minute : Int) < 0 := by omega
  have today : (hour * 60 + minute : Int) < 1440 := by omega
  have hours : ((hour * 60 + minute : Int) % 1440).toNat / 60 = hour := by omega
  have minutes : ((hour * 60 + minute : Int) % 1440).toNat % 60 = minute := by omega
  simp only [ofLocal?, Int.sub_zero, future, today, if_true, if_false, Option.bind_eq_bind,
    Option.bind_some, hours, minutes, Clock.of?, dif_pos real]
  rfl

/-- A text whose parts can be read one after another is the point in time of these parts. -/
theorem read?_of_parts {text : String} {year offset : Int} {month day : Nat} {date : Date}
    {clock : Clock} {behindYear months behindMonth days time zone behind : List Char}
    (years : yearField? text.toList = some (year, behindYear))
    (firstMark : mark? '-' (trimLeft behindYear) = some months)
    (monthRead : field? 2 months = some (month, behindMonth))
    (secondMark : mark? '-' (trimLeft behindMonth) = some days)
    (dayRead : field? 2 days = some (day, 'T' :: time))
    (real : Date.of? year month day = some date) (clocks : clock? time = some (clock, zone))
    (zoneRead : offset? (trimLeft zone) = some (offset, behind))
    (ended : trimLeft behind = []) : read? text = ofLocal? date clock offset := by
  have complete : (guard (trimLeft behind = []) : Option Unit) = some () := if_pos ended
  rw [read?, years]
  show (mark? '-' (trimLeft behindYear)).bind _ = _
  rw [firstMark]
  show (field? 2 months).bind _ = _
  rw [monthRead]
  show (mark? '-' (trimLeft behindMonth)).bind _ = _
  rw [secondMark]
  show (field? 2 days).bind _ = _
  rw [dayRead]
  show (Date.of? year month day).bind _ = _
  rw [real]
  show (clock? time).bind _ = _
  rw [clocks]
  show (offset? (trimLeft zone)).bind _ = _
  rw [zoneRead]
  show (do guard (trimLeft behind = []); ofLocal? date clock offset) = _
  rw [complete]
  rfl

/-- A written instant is read back. -/
theorem read?_text (instant : Instant) : read? instant.text = some instant := by
  obtain ⟨date, clock⟩ := instant
  have shape : (text ⟨date, clock⟩).toList =
      Date.yearText date.year ++ '-' :: (padded 2 date.month ++ '-' :: (padded 2 date.day ++
        'T' :: (clock.chars ++ ['Z']))) := by
    simp [text, Instant.chars, Date.chars]
  have years := yearField?_yearText date.year
    (padded 2 date.month ++ '-' :: (padded 2 date.day ++ 'T' :: (clock.chars ++ ['Z'])))
  rw [← shape] at years
  have real : Date.of? date.year date.month date.day = some date := dif_pos date.real
  have clocks : clock? (clock.chars ++ ['Z']) = some (clock, ['Z']) :=
    clock?_chars clock (by simp [EndsDigits]) (by simp)
  have monthRead := field?_padded Nat.two_pos date.month_lt
    ('-' :: (padded 2 date.day ++ 'T' :: (clock.chars ++ ['Z'])))
  have dayRead := field?_padded Nat.two_pos date.day_lt ('T' :: (clock.chars ++ ['Z']))
  have zoneRead : offset? (trimLeft ['Z']) = some (0, []) := rfl
  rw [read?_of_parts years (mark?_trimLeft rfl _) monthRead (mark?_trimLeft rfl _) dayRead real
    clocks zoneRead rfl, ofLocal?_zero]

end Instant

end Triage
