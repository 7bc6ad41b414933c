/-
# Triage.Proofs.DateSpellings -- every spelling of a date literal

The documented spelling has four digits, two and two, with a hyphen between them (`IsStrict`), which
is the written form of a date whose year takes four digits (`isStrict_iff`).  The reader allows more
for each number, blanks in front, fewer digits than its width, a sign before the year and then any
number of digits, and asks for ten bytes in all.  A number is read up to the mark or the end behind
it, so what a field takes is known exactly (`field?_eq_some_iff`, `yearField?_eq_some_iff`) and with
it what a literal is (`read?_eq_some_iff`).  Ten bytes are just enough for a strict spelling, so a
loose one needs blanks or a sign (`isStrict_iff_isSpelled`).  Main statement: `read?_spellings`.
-/
import Mathlib.Data.Option.Basic
import Triage.Proofs.InstantText
import Triage.Proofs.SecondReading

namespace Triage

open Triage.Text Triage.Calendar

set_option autoImplicit false

/-! ## Digits of one number -/

namespace Text

/-- Digits of the same count that go on to the same number are the same digits behind the same
number. -/
theorem eq_of_ofDigitChars_eq {one other : List Char} (digits : ∀ c ∈ one, c.isDigit = true)
    (digits' : ∀ c ∈ other, c.isDigit = true) (count : one.length = other.length) {n m : Nat}
    (same : Nat.ofDigitChars 10 one n = Nat.ofDigitChars 10 other m) : n = m ∧ one = other := by
  induction one generalizing other n m with
  | nil =>
      obtain rfl := List.length_eq_zero_iff.mp count.symm
      exact ⟨by simpa using same, rfl⟩
  | cons c one ih =>
      cases other with
      | nil => cases count
      | cons d other =>
          obtain ⟨first, others⟩ := List.forall_mem_cons.mp digits
          obtain ⟨first', others'⟩ := List.forall_mem_cons.mp digits'
          rw [Nat.ofDigitChars_cons, Nat.ofDigitChars_cons] at same
          obtain ⟨front, rfl⟩ := ih others others' (Nat.succ.inj count) same
          have low : 48 ≤ c.toNat ∧ c.toNat ≤ 57 := Char.isDigit_iff_toNat.mp first
          have low' : 48 ≤ d.toNat ∧ d.toNat ≤ 57 := Char.isDigit_iff_toNat.mp first'
          have zero : '0'.toNat = 48 := rfl
          have value : n = m ∧ c.toNat = d.toNat := by omega
          exact ⟨value.1, by rw [Char.toNat_inj.mp value.2]⟩

theorem isDigit_of_readDecimal {text : List Char} {n : Nat} (read : readDecimal text = some n) :
    text ≠ [] ∧ ∀ c ∈ text, c.isDigit = true := by
  unfold readDecimal at read
  split at read
  · next spelled => exact ⟨spelled.1, List.all_eq_true.mp spelled.2⟩
  · cases read

/-- A number is written in a given count of digits in one way. -/
theorem eq_padded_of_readDecimal {text : List Char} {n : Nat} (read : readDecimal text = some n) :
    text = padded text.length n := by
  obtain ⟨some_, digits⟩ := isDigit_of_readDecimal read
  have written := readDecimal_padded text.length n
  have count : (padded text.length n).length = text.length :=
    length_padded (List.length_pos_iff.mpr some_) (readDecimal_lt read)
  have value : Nat.ofDigitChars 10 text 0 = Nat.ofDigitChars 10 (padded text.length n) 0 := by
    unfold readDecimal at read written
    split at read
    · split at written
      · exact Option.some.inj (read.trans written.symm)
      · cases written
    · cases read
  exact (eq_of_ofDigitChars_eq digits (fun _ member => isDigit_of_mem_padded member) count.symm
    value).2

end Text

/-! ## What a field takes -/

namespace Calendar

/-- Blanks, and then digits that spell the number, `width` of them at most. -/
def IsFieldText (width n : Nat) (text : List Char) : Prop :=
  ∃ blanks digits, text = blanks ++ digits ∧ (∀ c ∈ blanks, isBlank c = true) ∧
    digits.length ≤ width ∧ readDecimal digits = some n

/-- A year is spelled in four digits at most, or behind a sign in any number of digits. -/
inductive IsYearSpelling : Int → List Char → Prop
  | plain {digits : List Char} {n : Nat} :
      digits.length ≤ 4 → readDecimal digits = some n → IsYearSpelling n digits
  | plus {digits : List Char} {n : Nat} :
      readDecimal digits = some n → IsYearSpelling n ('+' :: digits)
  | minus {digits : List Char} {n : Nat} :
      readDecimal digits = some n → IsYearSpelling (-n) ('-' :: digits)

/-- Blanks, and then a spelling of the year. -/
def IsYearText (year : Int) (text : List Char) : Prop :=
  ∃ blanks spelling, text = blanks ++ spelling ∧ (∀ c ∈ blanks, isBlank c = true) ∧
    IsYearSpelling year spelling

variable {width n : Nat} {year : Int} {text rest : List Char}

theorem digits?_eq_some_iff (ends : EndsDigits rest) :
    digits? text = some (n, rest) ↔
      ∃ digits, text = digits ++ rest ∧ readDecimal digits = some n := by
  constructor
  · intro read
    simp only [digits?, Option.map_eq_some_iff, Prod.mk.injEq] at read
    obtain ⟨_, spelled, rfl, rfl⟩ := read
    exact ⟨_, List.takeWhile_append_dropWhile.symm, spelled⟩
  · rintro ⟨digits, rfl, spelled⟩
    have inside := (isDigit_of_readDecimal spelled).2
    rw [digits?, takeWhile_append_stop inside ends, dropWhile_append_stop inside ends, spelled]
    rfl

theorem digitsUpTo?_eq_some_iff (ends : EndsDigits rest) :
    digitsUpTo? width text = some (n, rest) ↔
      ∃ digits, text = digits ++ rest ∧ digits.length ≤ width ∧ readDecimal digits = some n := by
  constructor
  · intro read
    simp only [digitsUpTo?, Option.map_eq_some_iff, Prod.mk.injEq] at read
    obtain ⟨_, spelled, rfl, rfl⟩ := read
    have front : (text.take width).takeWhile Char.isDigit <+: text :=
      (List.takeWhile_prefix _).trans (List.take_prefix width text)
    exact ⟨_, (List.prefix_iff_eq_append.mp front).symm,
      Nat.le_trans (List.takeWhile_sublist _).length_le (List.length_take_le width text), spelled⟩
  · rintro ⟨digits, rfl, room, spelled⟩
    have written := eq_padded_of_readDecimal spelled
    have some_ := List.length_pos_iff.mpr (isDigit_of_readDecimal spelled).1
    rw [written]
    exact digitsUpTo?_short some_ room (readDecimal_lt spelled) ends

/-- The digits of a number end the blanks in front of it. -/
theorem trimLeft_append {blanks behind : List Char} (blank : ∀ c ∈ blanks, isBlank c = true)
    (solid : ∀ c ∈ behind.head?, isBlank c = false) : trimLeft (blanks ++ behind) = behind :=
  dropWhile_append_stop blank solid

theorem isBlank_eq_false_of_readDecimal {digits : List Char}
    (spelled : readDecimal digits = some n) : ∀ c ∈ digits, isBlank c = false := fun c member =>
  isBlank_eq_false_of_isDigit ((isDigit_of_readDecimal spelled).2 c member)

theorem solid_of_readDecimal {digits : List Char} (spelled : readDecimal digits = some n) :
    ∀ c ∈ (digits ++ rest).head?, isBlank c = false := by
  obtain ⟨d, more, rfl⟩ := List.exists_cons_of_ne_nil (isDigit_of_readDecimal spelled).1
  rintro c ⟨⟩
  exact isBlank_eq_false_of_readDecimal spelled _ List.mem_cons_self

theorem takeWhile_isBlank (text : List Char) : ∀ c ∈ text.takeWhile isBlank, isBlank c = true :=
  fun _ member => List.all_eq_true.mp List.all_takeWhile _ member

theorem eq_blanks_append_trimLeft (text : List Char) :
    text = text.takeWhile isBlank ++ trimLeft text := List.takeWhile_append_dropWhile.symm

/-- A number field takes blanks and digits up to what is no digit. -/
theorem field?_eq_some_iff (ends : EndsDigits rest) :
    field? width text = some (n, rest) ↔
      ∃ taken, text = taken ++ rest ∧ IsFieldText width n taken := by
  rw [field?, digitsUpTo?_eq_some_iff ends]
  constructor
  · rintro ⟨digits, same, room, spelled⟩
    refine ⟨text.takeWhile isBlank ++ digits, ?_, _, _, rfl, takeWhile_isBlank text, room, spelled⟩
    rw [List.append_assoc, ← same]
    exact eq_blanks_append_trimLeft text
  · rintro ⟨_, rfl, blanks, digits, rfl, blank, room, spelled⟩
    refine ⟨digits, ?_, room, spelled⟩
    rw [List.append_assoc, trimLeft_append blank (solid_of_readDecimal spelled)]

/-- A year field takes blanks and a spelling of the year up to what is no digit. -/
theorem yearField?_eq_some_iff (ends : EndsDigits rest) :
    yearField? text = some (year, rest) ↔
      ∃ taken, text = taken ++ rest ∧ IsYearText year taken := by
  constructor
  · intro read
    -- the sign, if there is one, is the first character behind the blanks
    have whole := eq_blanks_append_trimLeft text
    suffices ∃ spelling, trimLeft text = spelling ++ rest ∧ IsYearSpelling year spelling by
      obtain ⟨spelling, behind, spells⟩ := this
      refine ⟨text.takeWhile isBlank ++ spelling, ?_, _, _, rfl, takeWhile_isBlank text, spells⟩
      rw [List.append_assoc, ← behind]
      exact whole
    unfold yearField? at read
    split at read
    · next front =>
        simp only [Option.map_eq_some_iff, Prod.exists, Prod.mk.injEq] at read
        obtain ⟨n, _, digits, rfl, rfl⟩ := read
        obtain ⟨digits, rfl, spelled⟩ := (digits?_eq_some_iff ends).mp digits
        exact ⟨_, front, .minus spelled⟩
    · next front =>
        simp only [Option.map_eq_some_iff, Prod.exists, Prod.mk.injEq] at read
        obtain ⟨n, _, digits, rfl, rfl⟩ := read
        obtain ⟨digits, rfl, spelled⟩ := (digits?_eq_some_iff ends).mp digits
        exact ⟨_, front, .plus spelled⟩
    · simp only [Option.map_eq_some_iff, Prod.exists, Prod.mk.injEq] at read
      obtain ⟨n, _, digits, rfl, rfl⟩ := read
      obtain ⟨digits, same, room, spelled⟩ := (digitsUpTo?_eq_some_iff ends).mp digits
      exact ⟨_, same, .plain room spelled⟩
  · rintro ⟨_, rfl, blanks, spelling, rfl, blank, spells⟩
    rw [List.append_assoc]
    cases spells with
    | @plain _ n room spelled =>
        have read := (digitsUpTo?_eq_some_iff ends).mpr ⟨spelling, rfl, room, spelled⟩
        rw [yearField?, trimLeft_append blank (solid_of_readDecimal spelled)]
        have unsigned {c : Char} {tail : List Char} (same : spelling ++ rest = c :: tail) :
            c.isDigit = true := by
          rw [eq_padded_of_readDecimal spelled] at same
          exact isDigit_of_padded_append same
        split
        · next same => cases unsigned same
        · next same => cases unsigned same
        · simp only [read, Option.map_some]
    | @plus digits n spelled =>
        have read := (digits?_eq_some_iff ends).mpr ⟨digits, rfl, spelled⟩
        rw [yearField?, trimLeft_append blank (by rintro c ⟨⟩; decide)]
        simp only [List.cons_append, read, Option.map_some]
    | @minus digits n spelled =>
        have read := (digits?_eq_some_iff ends).mpr ⟨digits, rfl, spelled⟩
        rw [yearField?, trimLeft_append blank (by rintro c ⟨⟩; decide)]
        simp only [List.cons_append, read, Option.map_some]

end Calendar

namespace Date

variable {text : List Char} {date : Date}

/-- Ten bytes of text that hold a year, a month and a day, with a hyphen right behind the first
two. -/
def IsSpelled (date : Date) (text : List Char) : Prop :=
  byteLength text = 10 ∧ ∃ year month day, text = year ++ '-' :: (month ++ '-' :: day) ∧
    IsYearText date.year year ∧ IsFieldText 2 date.month month ∧ IsFieldText 2 date.day day

/-- Four digits, two and two, with a hyphen between them. -/
def IsStrict (date : Date) (text : List Char) : Prop :=
  ∃ year month day, text = year ++ '-' :: (month ++ '-' :: day) ∧
    (year.length = 4 ∧ (readDecimal year).map Int.ofNat = some date.year) ∧
    (month.length = 2 ∧ readDecimal month = some date.month) ∧
    (day.length = 2 ∧ readDecimal day = some date.day)

/-- There are blanks in the text, or a sign in front of it. -/
def IsLoose (text : List Char) : Prop := (∃ c ∈ text, isBlank c = true) ∨ isSigned text = true

theorem of?_eq_some_iff {year : Int} {month day : Nat} :
    of? year month day = some date ↔ date.year = year ∧ date.month = month ∧ date.day = day := by
  unfold of?
  constructor
  · intro found
    split at found
    · cases found
      exact ⟨rfl, rfl, rfl⟩
    · cases found
  · rintro ⟨rfl, rfl, rfl⟩
    exact dif_pos date.real

theorem mark?_eq_some_iff {mark : Char} {rest : List Char} :
    mark? mark text = some rest ↔ text = mark :: rest := by
  cases text with
  | nil => simp [mark?]
  | cons c tail =>
      by_cases same : c = mark
      · simp [mark?, same]
      · simp [mark?, same]

/-- A literal is ten bytes with three fields and two hyphens. -/
theorem read?_eq_some_iff_fields :
    read? text = some date ↔ byteLength text = 10 ∧ ∃ first second,
      yearField? text = some (date.year, '-' :: first) ∧
      field? 2 first = some (date.month, '-' :: second) ∧
      field? 2 second = some (date.day, []) := by
  constructor
  · intro read
    have ten := byteLength_of_read? read
    unfold read? at read
    obtain ⟨_, -, read⟩ := Option.bind_eq_some_iff.mp read
    obtain ⟨⟨year, _⟩, years, read⟩ := Option.bind_eq_some_iff.mp read
    obtain ⟨first, hyphen, read⟩ := Option.bind_eq_some_iff.mp read
    obtain ⟨⟨month, _⟩, months, read⟩ := Option.bind_eq_some_iff.mp read
    obtain ⟨second, hyphen', read⟩ := Option.bind_eq_some_iff.mp read
    obtain ⟨⟨day, rest⟩, days, read⟩ := Option.bind_eq_some_iff.mp read
    obtain ⟨_, empty, found⟩ := Option.bind_eq_some_iff.mp read
    obtain rfl := mark?_eq_some_iff.mp hyphen
    obtain rfl := mark?_eq_some_iff.mp hyphen'
    obtain ⟨rfl, rfl, rfl⟩ := of?_eq_some_iff.mp found
    obtain rfl := (Option.guard_eq_some' _).mp empty
    exact ⟨ten, first, second, years, months, days⟩
  · rintro ⟨ten, first, second, years, months, days⟩
    rw [read?_of_fields ten years months days]
    exact of?_eq_some_iff.mpr ⟨rfl, rfl, rfl⟩

/-- A literal is read as the date that it spells, and nothing else is read. -/
theorem read?_eq_some_iff : read? text = some date ↔ date.IsSpelled text := by
  have hyphen (rest : List Char) : EndsDigits ('-' :: rest) := by rintro c ⟨⟩; rfl
  have nothing : EndsDigits [] := by rintro c ⟨⟩
  rw [read?_eq_some_iff_fields, IsSpelled]
  refine and_congr_right fun _ => ?_
  simp only [yearField?_eq_some_iff (hyphen _), field?_eq_some_iff (hyphen _),
    field?_eq_some_iff nothing, List.append_nil, exists_eq_left']
  constructor
  · rintro ⟨_, day, ⟨year, rfl, years⟩, ⟨month, rfl, months⟩, days⟩
    exact ⟨year, month, day, rfl, years, months, days⟩
  · rintro ⟨year, month, day, rfl, years, months, days⟩
    exact ⟨_, day, ⟨year, rfl, years⟩, ⟨month, rfl, months⟩, days⟩

/-! ## Strict and loose -/

/-- The strict spelling is the written form of a date whose year takes four digits. -/
theorem isStrict_iff : date.IsStrict text ↔ text = date.chars ∧ date.InFourDigits := by
  constructor
  · rintro ⟨year, month, day, rfl, ⟨four, years⟩, ⟨two, months⟩, ⟨two', days⟩⟩
    obtain ⟨n, spelled, same⟩ := Option.map_eq_some_iff.mp years
    have small : n < 10000 := by
      have bound := readDecimal_lt spelled
      rwa [four] at bound
    have within : 0 ≤ date.year ∧ date.year ≤ 9999 := by
      have : (n : Int) = date.year := same
      omega
    have written : yearText date.year = padded 4 n := by
      rw [yearText, if_pos within, ← same]
      rfl
    refine ⟨?_, within⟩
    rw [chars, written, eq_padded_of_readDecimal spelled, eq_padded_of_readDecimal months,
      eq_padded_of_readDecimal days, four, two, two']
    simp
  · rintro ⟨rfl, within⟩
    have fits : date.year.toNat < 10000 := by
      have := within.2
      omega
    have written : yearText date.year = padded 4 date.year.toNat := if_pos within
    refine ⟨padded 4 date.year.toNat, padded 2 date.month, padded 2 date.day, ?_,
      ⟨length_padded (by omega) fits, ?_⟩,
      ⟨length_padded Nat.two_pos date.month_lt, readDecimal_padded 2 _⟩,
      ⟨length_padded Nat.two_pos date.day_lt, readDecimal_padded 2 _⟩⟩
    · rw [chars, written]
      simp
    · rw [readDecimal_padded, Option.map_some]
      exact congrArg some (Int.toNat_of_nonneg within.1)

/-- A strict spelling has neither blanks nor a sign in front. -/
theorem IsStrict.not_isLoose (strict : date.IsStrict text) : ¬ IsLoose text := by
  obtain ⟨year, month, day, rfl, ⟨-, years⟩, ⟨-, months⟩, ⟨-, days⟩⟩ := strict
  obtain ⟨n, spelled, -⟩ := Option.map_eq_some_iff.mp years
  rintro (⟨c, member, blank⟩ | signed)
  · have unlike : isBlank c = false := by
      simp only [List.mem_append, List.mem_cons] at member
      rcases member with digit | rfl | digit | rfl | digit
      · exact isBlank_eq_false_of_readDecimal spelled c digit
      · decide
      · exact isBlank_eq_false_of_readDecimal months c digit
      · decide
      · exact isBlank_eq_false_of_readDecimal days c digit
    rw [unlike] at blank
    cases blank
  · obtain ⟨some_, digits⟩ := isDigit_of_readDecimal spelled
    obtain ⟨d, more, rfl⟩ := List.exists_cons_of_ne_nil some_
    have digit := digits d List.mem_cons_self
    rw [isSigned, List.cons_append, trimLeft,
      List.dropWhile_cons_of_neg (by simp [isBlank_eq_false_of_isDigit digit])] at signed
    have sign : d = '-' ∨ d = '+' := by simpa using signed
    rcases sign with rfl | rfl <;> cases digit

theorem blanks_eq_nil {blanks behind : List Char} (blank : ∀ c ∈ blanks, isBlank c = true)
    (solid : ∀ c ∈ blanks ++ behind, isBlank c = false) : blanks = [] := by
  refine List.eq_nil_iff_forall_not_mem.mpr fun c member => ?_
  have unlike := solid c (List.mem_append_left behind member)
  rw [blank c member] at unlike
  cases unlike

/-- Without blanks a field is its digits. -/
theorem digits_of_isFieldText {width n : Nat} {field : List Char}
    (spelled : IsFieldText width n field) (solid : ∀ c ∈ field, isBlank c = false) :
    field.length ≤ width ∧ readDecimal field = some n := by
  obtain ⟨blanks, digits, rfl, blank, room, read⟩ := spelled
  obtain rfl := blanks_eq_nil blank solid
  exact ⟨room, read⟩

/-- Without blanks and without a sign a year is four digits at most. -/
theorem digits_of_isYearText {year : Int} {field behind : List Char}
    (spelled : IsYearText year field) (solid : ∀ c ∈ field, isBlank c = false)
    (unsigned : isSigned (field ++ behind) = false) :
    field.length ≤ 4 ∧ (readDecimal field).map Int.ofNat = some year := by
  obtain ⟨blanks, spelling, rfl, blank, spells⟩ := spelled
  obtain rfl := blanks_eq_nil blank solid
  cases spells with
  | plain room read => exact ⟨room, by rw [List.nil_append, read]; rfl⟩
  | plus => cases unsigned
  | minus => cases unsigned

theorem byteLength_of_readDecimal {digits : List Char} {n : Nat}
    (read : readDecimal digits = some n) : byteLength digits = digits.length := by
  refine byteLength_eq_length fun c member => ?_
  have : 48 ≤ c.toNat ∧ c.toNat ≤ 57 :=
    Char.isDigit_iff_toNat.mp ((isDigit_of_readDecimal read).2 c member)
  omega

/-- The ten bytes are used up by a spelling without blanks and signs exactly if it is strict. -/
theorem isStrict_iff_isSpelled : date.IsStrict text ↔ date.IsSpelled text ∧ ¬ IsLoose text := by
  constructor
  · intro strict
    have loose := strict.not_isLoose
    obtain ⟨rfl, within⟩ := isStrict_iff.mp strict
    exact ⟨read?_eq_some_iff.mp (read?_chars within), loose⟩
  · rintro ⟨⟨ten, year, month, day, rfl, years, months, days⟩, tight⟩
    have solid : ∀ c ∈ year ++ '-' :: (month ++ '-' :: day), isBlank c = false := fun c member =>
      Bool.eq_false_iff.mpr fun blank => tight (.inl ⟨c, member, blank⟩)
    simp only [List.forall_mem_append, List.forall_mem_cons] at solid
    obtain ⟨solidYear, -, solidMonth, -, solidDay⟩ := solid
    obtain ⟨four, spelled⟩ := digits_of_isYearText years solidYear
      (Bool.eq_false_iff.mpr fun signed => tight (.inr signed))
    obtain ⟨two, spelledMonth⟩ := digits_of_isFieldText months solidMonth
    obtain ⟨two', spelledDay⟩ := digits_of_isFieldText days solidDay
    obtain ⟨n, digits, -⟩ := Option.map_eq_some_iff.mp spelled
    have hyphen : Char.utf8Size '-' = 1 := rfl
    rw [byteLength_append, byteLength_cons, byteLength_append, byteLength_cons, hyphen,
      byteLength_of_readDecimal digits, byteLength_of_readDecimal spelledMonth,
      byteLength_of_readDecimal spelledDay] at ten
    exact ⟨year, month, day, rfl, ⟨by omega, spelled⟩, ⟨by omega, spelledMonth⟩,
      ⟨by omega, spelledDay⟩⟩

/-- A text is read as a date exactly if it spells the date, strictly or loosely: ten bytes with
blanks in front of a number, or a sign in front of the year, take the place of digits.  A spelling
with neither is the strict one.  The dates of an expression are those that its tokens spell. -/
theorem read?_spellings (text : List Char) (date : Date) :
    (read? text = some date ↔ date.IsSpelled text) ∧
    (date.IsStrict text ↔ date.IsSpelled text ∧ ¬ IsLoose text) ∧
    ∀ source expr tokens, Expr.read source = .ok expr → Token.ofText source = .ok tokens →
      ∀ q ∈ expr.qualifiers, date ∈ q.literal.dates →
        ∃ located ∈ tokens, located.token.leaf? = some q ∧
          ∃ part ∈ located.token.dateTexts, date.IsSpelled part := by
  refine ⟨read?_eq_some_iff, isStrict_iff_isSpelled,
    fun source expr tokens parsed cut q member named => ?_⟩
  obtain ⟨located, here, leaf⟩ := Expr.exists_token_of_read parsed cut q member
  obtain ⟨part, offered, read⟩ := Token.exists_dateText_of_leaf? leaf date named
  exact ⟨located, here, leaf, part, offered, read?_eq_some_iff.mp read⟩

/-- A blank stands for the zero of a month, and a sign for that of a year. -/
theorem read?_spellings_loose :
    let recent : Date := ⟨2024, 1, 1, by decide⟩
    let past : Date := ⟨-1, 1, 1, by decide⟩
    let q : Qualifier := ⟨.created, .date (.between past recent)⟩
    let source := "created:\"-001-01-01..2024- 1-01\""
    let located : Located := ⟨.qualifier "created" "-001-01-01..2024- 1-01" true, 0⟩
    (Token.ofText source = .ok [located] ∧ Expr.read source = .ok (.qualifier q)) ∧
      (recent.IsSpelled "2024- 1-01".toList ∧ ¬ recent.IsStrict "2024- 1-01".toList) ∧
      (past.IsSpelled "-001-01-01".toList ∧ ¬ past.IsStrict "-001-01-01".toList) ∧
      (∃ part ∈ located.token.dateTexts, past.IsSpelled part) ∧
      recent.IsStrict "2024-01-01".toList := by
  intro recent past q source located
  obtain ⟨spelled, strict, -⟩ := read?_spellings "2024- 1-01".toList recent
  obtain ⟨spelled', strict', filters⟩ := read?_spellings "-001-01-01".toList past
  have cut : Token.ofText source = .ok [located] := toOption_eq_some_iff.mp (by decide +kernel)
  have parsed : Expr.read source = .ok (.qualifier q) := Expr.read_of_single cut (by decide +kernel)
  refine ⟨⟨cut, parsed⟩, ⟨spelled.mp (by decide +kernel), fun tight => ?_⟩,
    ⟨spelled'.mp (by decide +kernel), fun tight => ?_⟩, ?_, isStrict_iff.mpr (by decide)⟩
  · exact (strict.mp tight).2 (.inl ⟨' ', by decide, by decide⟩)
  · exact (strict'.mp tight).2 (.inr (by decide))
  · obtain ⟨one, member, -, offered⟩ := filters source _ _ parsed cut q List.mem_cons_self
      List.mem_cons_self
    rwa [List.mem_singleton.mp member] at offered

end Date

end Triage
