/-
# Triage.Proofs.LeafText -- the token that spells a qualifier

The canonical text of a qualifier is one token: a word, a quoted text or `name:value`.  That token
is named here (`Qualifier.token`) beside the qualifier that a token spells (`Token.leaf?`).  Main
statement: `leaf?_token_iff`, the token of a qualifier whose literal has the right type spells
that qualifier and no other, and does so exactly if every date in it has a year of four digits.
-/
import Triage.Expr.Reading
import Triage.Proofs.DateText

namespace Triage

open Triage.Text

set_option autoImplicit false

/-! ## Comparisons -/

/-- The characters in which a number or a date is written. -/
def isNumeral (c : Char) : Bool := c.isDigit || c = '-' || c = '+'

theorem isNumeral_iff {c : Char} :
    isNumeral c = true ↔ c.isDigit = true ∨ c = '-' ∨ c = '+' := by
  simp [isNumeral, or_assoc]

namespace Operator

/-- The operator in front of a value is told apart from the value. -/
theorem split_symbol (operator : Operator) {value : List Char}
    (numeral : ∀ c ∈ value, isNumeral c = true) :
    split (operator.symbol ++ value) = (operator, value) := by
  cases value with
  | nil => cases operator <;> rfl
  | cons c rest =>
      have mark : c ≠ '<' ∧ c ≠ '>' ∧ c ≠ '=' := by
        have := numeral c (by simp)
        refine ⟨?_, ?_, ?_⟩ <;>
        · rintro rfl
          cases this
      cases operator <;> simp [split, symbol, mark.1, mark.2.1, mark.2.2]

theorem mem_symbol {operator : Operator} {c : Char} (member : c ∈ operator.symbol) :
    c = '<' ∨ c = '>' ∨ c = '=' := by
  cases operator <;> grind [Operator.symbol]

end Operator

namespace Comparison

variable {α : Type}

/-- The values that a comparison names. -/
def values : Comparison α → List α
  | .compare _ value => [value]
  | .between low high => [low, high]

theorem splitRange_eq_none {text : List Char} (absent : '.' ∉ text) : splitRange text = none := by
  induction text with
  | nil => rfl
  | cons c rest ih =>
      have parts : '.' ≠ c ∧ '.' ∉ rest := by simpa using absent
      rw [splitRange, ih parts.2, Option.map_none]
      rintro tail rfl
      exact absurd rfl parts.1

theorem splitRange_append {low : List Char} (absent : '.' ∉ low) (high : List Char) :
    splitRange (low ++ '.' :: '.' :: high) = some (low, high) := by
  induction low with
  | nil => rfl
  | cons c rest ih =>
      have parts : '.' ≠ c ∧ '.' ∉ rest := by simpa using absent
      rw [List.cons_append, splitRange, ih parts.2]
      · rfl
      · rintro tail rfl
        exact absurd rfl parts.1

variable {write : α → List Char} {read : List Char → Option α} {Good : α → Prop}

/-- A written comparison is read back exactly if its values are. -/
theorem read?_chars_iff (numeral : ∀ value, ∀ c ∈ write value, isNumeral c = true)
    (written : ∀ value other, read (write value) = some other ↔ Good value ∧ other = value)
    (comparison other : Comparison α) :
    read? read (comparison.chars write) = some other ↔
      (∀ value ∈ comparison.values, Good value) ∧ other = comparison := by
  have noPoint (value : α) : '.' ∉ write value := by
    intro member
    cases numeral value '.' member
  cases comparison with
  | compare operator value =>
      have noRange : splitRange (operator.symbol ++ write value) = none := by
        apply splitRange_eq_none
        intro member
        rcases List.mem_append.mp member with front | back
        · rcases Operator.mem_symbol front with same | same | same <;> cases same
        · exact noPoint value back
      simp only [chars, read?, noRange, Operator.split_symbol operator (numeral value), values,
        Option.bind_eq_bind, Option.pure_def, Option.bind_eq_some_iff, written, Option.some.injEq,
        List.forall_mem_singleton]
      constructor
      · rintro ⟨_, ⟨good, rfl⟩, rfl⟩
        exact ⟨good, rfl⟩
      · rintro ⟨good, rfl⟩
        exact ⟨value, ⟨good, rfl⟩, rfl⟩
  | between low high =>
      simp only [chars, read?, splitRange_append (noPoint low), values, Option.bind_eq_bind,
        Option.pure_def, Option.bind_eq_some_iff, written, Option.some.injEq,
        List.forall_mem_cons, List.not_mem_nil, false_implies, implies_true, and_true]
      constructor
      · rintro ⟨_, ⟨goodLow, rfl⟩, _, ⟨goodHigh, rfl⟩, rfl⟩
        exact ⟨⟨goodLow, goodHigh⟩, rfl⟩
      · rintro ⟨⟨goodLow, goodHigh⟩, rfl⟩
        exact ⟨low, ⟨goodLow, rfl⟩, high, ⟨goodHigh, rfl⟩, rfl⟩

/-- The texts of the values in the text of a comparison. -/
def parts (text : List Char) : List (List Char) :=
  match splitRange text with
  | some (low, high) => [low, high]
  | none => [(Operator.split text).2]

/-- Every value of a comparison that is read is read from a part of the text. -/
theorem exists_part_of_read? {text : List Char} {comparison : Comparison α}
    (spelled : read? read text = some comparison) :
    ∀ value ∈ comparison.values, ∃ part ∈ parts text, read part = some value := by
  unfold read? at spelled
  split at spelled
  · next low high range =>
      simp only [Option.bind_eq_bind, Option.pure_def, Option.bind_eq_some_iff,
        Option.some.injEq] at spelled
      obtain ⟨a, first, b, second, rfl⟩ := spelled
      simp [parts, range, values, first, second]
  · next single =>
      simp only [Option.bind_eq_bind, Option.pure_def, Option.bind_eq_some_iff,
        Option.some.injEq] at spelled
      obtain ⟨value, found, rfl⟩ := spelled
      simp [parts, single, values, found]

end Comparison

theorem isNumeral_of_mem_decimal {n : Nat} {c : Char} (member : c ∈ decimal n) :
    isNumeral c = true := isNumeral_iff.mpr (.inl (isDigit_of_mem_decimal member))

/-- Every 64-bit number is read back from its digits. -/
theorem readWord_decimal (n : UInt64) : readWord (decimal n.toNat) = some n := by
  cases digits : decimal n.toNat with
  | nil => exact absurd digits (decimal_ne_nil n.toNat)
  | cons c rest =>
      have noSign : c ≠ '+' := by
        rintro rfl
        cases isDigit_of_mem_decimal (n := n.toNat) (c := '+') (by rw [digits]; simp)
      have whole := readDecimal_decimal n.toNat
      rw [digits] at whole
      simp [readWord, noSign, whole, n.toNat_lt]

theorem readWord_decimal_iff (n other : UInt64) :
    readWord (decimal n.toNat) = some other ↔ True ∧ other = n := by
  rw [readWord_decimal, Option.some.injEq, true_and, eq_comm]

/-! ## Literals -/

namespace Literal

/-- The dates that a literal names. -/
def dates : Literal → List Date
  | .date comparison => comparison.values
  | _ => []

/-- The text after the colon, without quotes around it. -/
def value : Literal → String
  | .text s => s
  | .number comparison => String.ofList (comparison.chars fun n => decimal n.toNat)
  | .date comparison => String.ofList (comparison.chars Date.chars)

/-- Whether the text after the colon stands in quotes. -/
def quotes : Literal → Bool
  | .text s => needsQuotes s.toList
  | _ => false

theorem chars_eq (literal : Literal) :
    literal.chars = quotedIf literal.quotes literal.value.toList := by
  cases literal with
  | text s => rfl
  | number comparison => simp [chars, quotes, value, quotedIf]
  | date comparison => simp [chars, quotes, value, quotedIf]

end Literal

namespace Qualifier

/-- Every date that the qualifier names has a year of four digits. -/
def IsLegible (qualifier : Qualifier) : Prop :=
  ∀ date ∈ qualifier.literal.dates, date.InFourDigits

/-- The text of the qualifier, if it has one, holds no quote. -/
def IsQuotable (qualifier : Qualifier) : Prop :=
  ∀ text, qualifier.text? = some text → '"' ∉ text.toList

instance (qualifier : Qualifier) : Decidable qualifier.IsLegible :=
  inferInstanceAs (Decidable (∀ date ∈ qualifier.literal.dates, date.InFourDigits))

instance (qualifier : Qualifier) : Decidable qualifier.IsQuotable :=
  match found : qualifier.text? with
  | none => .isTrue (by simp [IsQuotable, found])
  | some text => decidable_of_iff ('"' ∉ text.toList) (by simp [IsQuotable, found])

/-- The token that spells the qualifier. -/
def token (qualifier : Qualifier) : Token :=
  match qualifier with
  | ⟨.keyword, .text s⟩ => if keywordNeedsQuotes s.toList then .quoted s else .word s
  | ⟨kind, literal⟩ => .qualifier kind.name literal.value literal.quotes

/-- A keyword is written by itself, every other qualifier behind the name of its kind. -/
theorem keyword_or_named (qualifier : Qualifier) :
    (∃ s, qualifier = .ofText .keyword s) ∨
      (qualifier.chars = qualifier.kind.name.toList ++ ':' :: qualifier.literal.chars ∧
        qualifier.token =
          .qualifier qualifier.kind.name qualifier.literal.value qualifier.literal.quotes) := by
  obtain ⟨kind, literal⟩ := qualifier
  by_cases keyword : kind = .keyword
  · subst keyword
    cases literal with
    | text s => exact .inl ⟨s, rfl⟩
    | number | date => exact .inr ⟨rfl, rfl⟩
  · right
    constructor
    · cases kind <;> first | rfl | exact absurd rfl keyword
    · cases kind <;> first | rfl | exact absurd rfl keyword

end Qualifier

theorem toOption_eq_some_iff {ε α : Type} {result : Except ε α} {a : α} :
    result.toOption = some a ↔ result = .ok a := by
  cases result <;> simp [Except.toOption]

/-- The qualifier that a token spells by itself. -/
def Token.leaf? : Token → Option Qualifier
  | .word text | .quoted text => some (.ofText .keyword text)
  | .qualifier name value quotes => (Qualifier.read name value quotes).toOption
  | _ => none

theorem Comparison.chars_ne_nil {α : Type} {write : α → List Char}
    (nonempty : ∀ value, write value ≠ []) (comparison : Comparison α) :
    comparison.chars write ≠ [] := by
  cases comparison <;> simp [Comparison.chars, nonempty]

/-- A literal is read back from what is written for it, if its type is that of the kind. -/
theorem Literal.read_value_iff {kind : Kind} {literal other : Literal}
    (typed : literal.valueType = kind.valueType) :
    Literal.read kind literal.value = .ok other ↔
      (∀ date ∈ literal.dates, date.InFourDigits) ∧ other = literal := by
  cases literal with
  | text text =>
      have kindType : kind.valueType = .text := typed.symm
      simp [Literal.read, kindType, dates, value, eq_comm]
  | number comparison =>
      have kindType : kind.valueType = .number := typed.symm
      have back := Comparison.read?_chars_iff
        (fun n : UInt64 => fun _ => isNumeral_of_mem_decimal) readWord_decimal_iff
      have read := (back comparison comparison).mpr ⟨fun _ _ => trivial, rfl⟩
      simp [Literal.read, kindType, dates, value, read, eq_comm]
  | date comparison =>
      have kindType : kind.valueType = .date := typed.symm
      have numeral (date : Date) : ∀ c ∈ date.chars, isNumeral c = true := fun _ member =>
        isNumeral_iff.mpr (Date.digit_or_sign_of_mem_chars member)
      have back := Comparison.read?_chars_iff numeral (fun _ _ => Date.read?_chars_iff) comparison
      simp only [Literal.read, kindType, value, dates, String.toList_ofList]
      cases read : Comparison.read? Date.read? (comparison.chars Date.chars) with
      | none =>
          have unread := fun legible => (back comparison).mpr ⟨legible, rfl⟩
          simp only [read, reduceCtorEq, imp_false] at unread
          simp [unread]
      | some found =>
          obtain ⟨legible, rfl⟩ := (back found).mp read
          simp only [Except.ok.injEq]
          exact ⟨fun same => ⟨legible, same.symm⟩, fun both => both.2.symm⟩

/-- A qualifier is read back from its canonical name and what is written for its literal. -/
theorem Qualifier.read_value_iff {kind : Kind} {literal : Literal} {other : Qualifier}
    (typed : literal.valueType = kind.valueType) :
    Qualifier.read kind.name literal.value literal.quotes = .ok other ↔
      (∀ date ∈ literal.dates, date.InFourDigits) ∧ other = ⟨kind, literal⟩ := by
  have present : (literal.value.isEmpty && !literal.quotes) = false := by
    cases literal with
    | text text =>
        cases empty : text.isEmpty <;>
          simp_all [Literal.value, Literal.quotes, needsQuotes]
    | number comparison =>
        have := Comparison.chars_ne_nil (fun n : UInt64 => decimal_ne_nil n.toNat) comparison
        simp [Literal.value, this]
    | date comparison =>
        have := Comparison.chars_ne_nil Date.chars_ne_nil comparison
        simp [Literal.value, this]
  have back (other : Literal) : Literal.read kind literal.value = .ok other ↔
      (∀ date ∈ literal.dates, date.InFourDigits) ∧ other = literal := Literal.read_value_iff typed
  rw [Qualifier.read, Kind.ofName?_name]
  simp only [present, Bool.false_eq_true, if_false]
  cases read : Literal.read kind literal.value with
  | error fault =>
      have unread := fun legible => (back literal).mpr ⟨legible, rfl⟩
      simp only [read, reduceCtorEq, imp_false] at unread
      simp [unread]
  | ok found =>
      obtain ⟨legible, rfl⟩ := (back found).mp read
      simp only [Except.ok.injEq]
      exact ⟨fun same => ⟨legible, same.symm⟩, fun both => both.2.symm⟩

/-- The token of a qualifier spells that qualifier and no other, if its dates can be read. -/
theorem Qualifier.leaf?_token_iff {qualifier other : Qualifier} (typed : qualifier.isTyped = true) :
    qualifier.token.leaf? = some other ↔ qualifier.IsLegible ∧ other = qualifier := by
  have agree : qualifier.literal.valueType = qualifier.kind.valueType := by
    simpa [isTyped] using typed
  rcases qualifier.keyword_or_named with ⟨s, rfl⟩ | ⟨-, spelled⟩
  · have legible : IsLegible (.ofText .keyword s) := by simp [IsLegible, ofText, Literal.dates]
    have spelled : (Qualifier.ofText .keyword s).token.leaf? = some (.ofText .keyword s) := by
      simp only [ofText, token]
      split <;> rfl
    rw [spelled, Option.some.injEq, eq_comm]
    exact ⟨fun same => ⟨legible, same⟩, fun both => both.2⟩
  · rw [spelled, Token.leaf?, toOption_eq_some_iff, Qualifier.read_value_iff agree]
    rfl

end Triage
