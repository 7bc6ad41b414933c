/-
# Triage.Proofs.DateText -- which written dates are date literals

A date is written with four digits for its year, unless the year is negative or too large for
them: then the year takes a sign and the whole text more than ten bytes.  A date literal has ten
bytes, so exactly the dates of the years 0 to 9999 are read back from their text
(`read?_chars_iff`).  A date literal may itself give its year a sign, and with it a year that no
date literal of the canonical form has; without a sign it cannot (`inFourDigits_of_unsigned`).
-/
import Triage.Proofs.Digits

namespace Triage

open Triage.Text Triage.Calendar

set_option autoImplicit false

namespace Date

/-- The year is written in four digits. -/
def InFourDigits (date : Date) : Prop := 0 ≤ date.year ∧ date.year ≤ 9999

instance (date : Date) : Decidable date.InFourDigits := inferInstanceAs (Decidable (_ ∧ _))

theorem month_lt (date : Date) : date.month < 100 := by
  have := date.real.2.2.2.1
  omega

theorem day_lt (date : Date) : date.day < 100 := by
  have := date.real.2.2.2.2.2
  have := daysIn_le date.year date.month
  omega

/-- A written date has digits, hyphens and perhaps a plus sign. -/
theorem digit_or_sign_of_mem_chars {date : Date} {c : Char} (member : c ∈ date.chars) :
    c.isDigit = true ∨ c = '-' ∨ c = '+' := by
  rw [chars, List.append_assoc, List.mem_append, List.cons_append, List.mem_cons,
    List.mem_append, List.mem_cons] at member
  rcases member with year | rfl | month | rfl | day
  · rw [yearText] at year
    split at year
    · exact .inl (isDigit_of_mem_padded year)
    · rcases List.mem_cons.mp year with rfl | digits
      · split
        · exact .inr (.inl rfl)
        · exact .inr (.inr rfl)
      · exact .inl (isDigit_of_mem_padded digits)
  · exact .inr (.inl rfl)
  · exact .inl (isDigit_of_mem_padded month)
  · exact .inr (.inl rfl)
  · exact .inl (isDigit_of_mem_padded day)

theorem chars_ne_nil (date : Date) : date.chars ≠ [] := by simp [chars]

theorem byteLength_chars (date : Date) : byteLength date.chars = date.chars.length := by
  apply byteLength_eq_length
  intro c member
  rcases digit_or_sign_of_mem_chars member with digit | rfl | rfl
  · have : 48 ≤ c.toNat ∧ c.toNat ≤ 57 := Char.isDigit_iff_toNat.mp digit
    omega
  · decide
  · decide

theorem length_chars (date : Date) :
    date.chars.length = (yearText date.year).length + 6 := by
  have month : (padded 2 date.month).length = 2 := length_padded Nat.two_pos date.month_lt
  have day : (padded 2 date.day).length = 2 := length_padded Nat.two_pos date.day_lt
  simp only [chars, List.length_append, List.length_cons, month, day]

/-- The text fills ten bytes exactly if the year takes no sign. -/
theorem length_chars_eq_ten_iff (date : Date) :
    date.chars.length = 10 ↔ date.InFourDigits := by
  rw [length_chars, yearText, InFourDigits]
  split
  · next within =>
      have fits : date.year.toNat < 10000 := by omega
      have : (padded 4 date.year.toNat).length = 4 := length_padded (by omega) fits
      simp [this, within]
  · next outside =>
      have := le_length_padded 4 date.year.natAbs
      simp only [List.length_cons, outside, iff_false]
      omega

/-- A year without a sign is read by the year field. -/
theorem yearField?_padded {year : Nat} (fits : year < 10000) (rest : List Char) :
    yearField? (padded 4 year ++ rest) = some ((year : Int), rest) := by
  rw [yearField?, trimLeft_padded]
  split
  · next tail same => cases isDigit_of_padded_append same
  · next tail same => cases isDigit_of_padded_append same
  · rw [digitsUpTo?_padded (by omega) fits]
    rfl

/-- A text of ten bytes whose three fields can be read is a date if the day exists. -/
theorem read?_of_fields {text first second : List Char} {year : Int} {month day : Nat}
    (ten : byteLength text = 10) (years : yearField? text = some (year, '-' :: first))
    (months : field? 2 first = some (month, '-' :: second))
    (days : field? 2 second = some (day, [])) : read? text = of? year month day := by
  have tenBytes : (guard (byteLength text = 10) : Option Unit) = some () := if_pos ten
  rw [read?, tenBytes, years]
  show (field? 2 first).bind _ = _
  rw [months]
  show (field? 2 second).bind _ = _
  rw [days]
  rfl

theorem read?_chars {date : Date} (within : date.InFourDigits) : read? date.chars = some date := by
  have ten : byteLength date.chars = 10 := by
    rw [byteLength_chars, length_chars_eq_ten_iff]
    exact within
  obtain ⟨year, same⟩ := Int.eq_ofNat_of_zero_le within.1
  have fits : year < 10000 := by
    have := within.2
    omega
  have written : date.chars =
      padded 4 year ++ '-' :: (padded 2 date.month ++ '-' :: (padded 2 date.day ++ [])) := by
    rw [chars, yearText, if_pos (show 0 ≤ date.year ∧ date.year ≤ 9999 from within), same,
      Int.toNat_natCast]
    simp
  have years := yearField?_padded fits
    ('-' :: (padded 2 date.month ++ '-' :: (padded 2 date.day ++ [])))
  rw [← written, ← same] at years
  rw [read?_of_fields ten years (field?_padded Nat.two_pos date.month_lt _)
    (field?_padded Nat.two_pos date.day_lt _)]
  exact dif_pos date.real

/-- A date literal has ten bytes. -/
theorem byteLength_of_read? {text : List Char} {date : Date} (read : read? text = some date) :
    byteLength text = 10 := by
  by_cases ten : byteLength text = 10
  · exact ten
  · have refused : (guard (byteLength text = 10) : Option Unit) = none := if_neg ten
    rw [read?, refused] at read
    cases read

/-- Exactly the dates whose year takes four digits are read back from their text. -/
theorem read?_chars_iff {date other : Date} :
    read? date.chars = some other ↔ date.InFourDigits ∧ other = date := by
  constructor
  · intro read
    have within : date.InFourDigits := by
      have ten := byteLength_of_read? read
      rwa [byteLength_chars, length_chars_eq_ten_iff] at ten
    rw [read?_chars within] at read
    exact ⟨within, (Option.some.inj read).symm⟩
  · rintro ⟨within, rfl⟩
    exact read?_chars within

/-! ## Years with a sign -/

/-- The text begins, after blanks, with a sign. -/
def isSigned (text : List Char) : Bool := (trimLeft text).head?.any fun c => c = '-' || c = '+'

/-- A year without a sign has four digits at most. -/
theorem yearField?_of_unsigned {text rest : List Char} {year : Int}
    (unsigned : isSigned text = false) (read : yearField? text = some (year, rest)) :
    0 ≤ year ∧ year ≤ 9999 := by
  unfold yearField? at read
  split at read
  · next front => simp [isSigned, front] at unsigned
  · next front => simp [isSigned, front] at unsigned
  · simp only [Option.map_eq_some_iff, Prod.mk.injEq] at read
    obtain ⟨⟨n, _⟩, digits, rfl, -⟩ := read
    have bound : n < 10000 := digitsUpTo?_lt digits
    omega

/-- The year of a date literal is what its first field says. -/
theorem yearField?_of_read? {text : List Char} {date : Date} (read : read? text = some date) :
    ∃ rest, yearField? text = some (date.year, rest) := by
  unfold read? at read
  obtain ⟨_, -, read⟩ := Option.bind_eq_some_iff.mp read
  obtain ⟨⟨year, rest⟩, years, read⟩ := Option.bind_eq_some_iff.mp read
  obtain ⟨_, -, read⟩ := Option.bind_eq_some_iff.mp read
  obtain ⟨⟨month, _⟩, -, read⟩ := Option.bind_eq_some_iff.mp read
  obtain ⟨_, -, read⟩ := Option.bind_eq_some_iff.mp read
  obtain ⟨⟨day, _⟩, -, read⟩ := Option.bind_eq_some_iff.mp read
  obtain ⟨_, -, found⟩ := Option.bind_eq_some_iff.mp read
  unfold of? at found
  split at found
  · cases found
    exact ⟨rest, years⟩
  · cases found

/-- Only a sign takes the year of a date literal out of the four digits. -/
theorem inFourDigits_of_unsigned {text : List Char} {date : Date}
    (unsigned : isSigned text = false) (read : read? text = some date) : date.InFourDigits := by
  obtain ⟨_, years⟩ := yearField?_of_read? read
  exact yearField?_of_unsigned unsigned years

end Date

end Triage
