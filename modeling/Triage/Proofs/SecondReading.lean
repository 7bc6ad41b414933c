/-
# Triage.Proofs.SecondReading -- reading the canonical text of what was read

Whatever spelling an expression is read from, aliases, quotes, spare brackets, short numbers, its
canonical text is never misread, and it is read back unless a date lies outside the years of four
digits.  Such a date can be read, though not from the form in which it is written: a literal of ten
bytes leaves room for a sign in front of the year when month or day are short, or the year is.  Main
statement: `read_text_of_read`; without a sign in front of a year the canonical text is read back.
-/
import Triage.Proofs.GrammarReading
import Triage.Proofs.RoundTrip

namespace Triage

open Triage.Text

set_option autoImplicit false

/-- The texts that a token offers as dates. -/
def Token.dateTexts : Token → List (List Char)
  | .qualifier name value _ =>
    match Kind.ofName? name with
    | some kind => if kind.valueType = .date then Comparison.parts value.toList else []
    | none => []
  | _ => []

/-- The kind of a qualifier that is read is the kind that its name means. -/
theorem Qualifier.kind_of_read {name value : String} {quotes : Bool} {q : Qualifier}
    (read : Qualifier.read name value quotes = .ok q) : Kind.ofName? name = some q.kind := by
  unfold Qualifier.read at read
  split at read
  · cases read
  · next kind named =>
      split at read
      · cases read
      · split at read
        · cases read
          exact named
        · cases read

/-- Every date of a qualifier is read from a text that its token offers. -/
theorem Token.exists_dateText_of_leaf? {token : Token} {q : Qualifier}
    (leaf : token.leaf? = some q) :
    ∀ date ∈ q.literal.dates, ∃ part ∈ token.dateTexts, Date.read? part = some date := by
  cases token with
  | word text | quoted text =>
      cases leaf
      intro date member
      cases member
  | opening | closing | and | or | not => cases leaf
  | qualifier name value quotes =>
      have read := toOption_eq_some_iff.mp leaf
      have named := Qualifier.kind_of_read read
      have spelled := Qualifier.literal_of_read read
      intro date member
      unfold Literal.read at spelled
      split at spelled
      · next type =>
          rw [← Except.ok.inj spelled] at member
          cases member
      · next type =>
          split at spelled
          · rw [← Except.ok.inj spelled] at member
            cases member
          · cases spelled
      · next type =>
          split at spelled
          · next comparison found =>
              rw [← Except.ok.inj spelled] at member
              simp only [dateTexts, named, type, if_true]
              exact Comparison.exists_part_of_read? found date member
          · cases spelled

namespace Expr

variable {source : String} {expr : Expr}

/-- The qualifiers of an expression that is read are spelled by tokens of its text. -/
theorem exists_token_of_read {tokens : List Located} (parsed : read source = .ok expr)
    (cut : Token.ofText source = .ok tokens) :
    ∀ q ∈ expr.qualifiers, ∃ located ∈ tokens, located.token.leaf? = some q := by
  rw [read, cut] at parsed
  intro q member
  rw [(derives_of_ofTokens parsed).1.qualifiers_eq, List.mem_filterMap] at member
  obtain ⟨token, present, leaf⟩ := member
  obtain ⟨located, here, rfl⟩ := List.mem_map.mp present
  exact ⟨located, here, leaf⟩

/-- The dates of an expression are legible if no year in its text has a sign. -/
theorem isLegible_of_unsigned {tokens : List Located} (parsed : read source = .ok expr)
    (cut : Token.ofText source = .ok tokens)
    (unsigned : ∀ located ∈ tokens, ∀ part ∈ located.token.dateTexts,
      Date.isSigned part = false) : expr.IsLegible := by
  intro q member date named
  obtain ⟨located, here, leaf⟩ := exists_token_of_read parsed cut q member
  obtain ⟨part, offered, read⟩ := Token.exists_dateText_of_leaf? leaf date named
  exact Date.inFourDigits_of_unsigned (unsigned located here part offered) read

/-- The canonical text of an expression that was read is read as that expression, or not at all: it
is refused exactly if a date takes more than four digits for its year.  No date does if the text
that was read first gives no year a sign. -/
theorem read_text_of_read (parsed : read source = .ok expr) :
    (∀ other, read expr.text = .ok other → other = expr) ∧
    (read expr.text = .ok expr ↔ expr.IsLegible) ∧
    (∀ tokens, Token.ofText source = .ok tokens →
      (∀ located ∈ tokens, ∀ part ∈ located.token.dateTexts, Date.isSigned part = false) →
      read expr.text = .ok expr) := by
  obtain ⟨whole, fits, typed, quotable⟩ := shape_of_read parsed
  have back : read expr.text = .ok expr ↔ expr.IsLegible := by
    rw [read_text_eq_self_iff]
    constructor
    · rintro ⟨-, -, leaves⟩ q member
      exact (leaves q member).2.2
    · intro legible
      exact ⟨whole, fits, fun q member => ⟨typed q member, quotable q member, legible q member⟩⟩
  refine ⟨fun other read => ?_, back, fun tokens cut unsigned => ?_⟩
  · obtain ⟨same, -⟩ := (read_text_eq_ok_iff typed quotable).mp read
    rw [reread_of_whole whole] at same
    exact (Option.some.inj same).symm
  · exact back.mpr (isLegible_of_unsigned parsed cut unsigned)

/-- A text of one operand token is read as its qualifier. -/
theorem read_of_single {token : Token} {position : Nat} {q : Qualifier}
    (cut : Token.ofText source = .ok [⟨token, position⟩]) (leaf : token.leaf? = some q) :
    read source = .ok (.qualifier q) := by
  rw [read, cut]
  exact ofTokens_eq_ok_iff_derives.mpr ⟨.disjunct (.conjunct (.leaf leaf)), by show 1 ≤ 256; omega⟩

/-- A sign in front of the year one is read, but its canonical text has eleven bytes.  Blanks in
front of a year do no harm. -/
theorem read_text_of_read_signed :
    let past : Expr := .qualifier ⟨.created, .date (.compare .eq ⟨-1, 1, 1, by decide⟩)⟩
    let recent : Expr := .qualifier ⟨.created, .date (.compare .ge ⟨2024, 1, 1, by decide⟩)⟩
    (read "created:-001-01-01" = .ok past ∧ past.text = "created:-0001-01-01" ∧
      ∀ other, read past.text ≠ .ok other) ∧
    read "date:\">=  2024-1-1\"" = .ok recent ∧ recent.text = "created:>=2024-01-01" ∧
      read recent.text = .ok recent := by
  intro past recent
  have cut : Token.ofText "date:\">=  2024-1-1\"" =
      .ok [⟨.qualifier "date" ">=  2024-1-1" true, 0⟩] :=
    toOption_eq_some_iff.mp (by decide +kernel)
  have signed : Token.ofText "created:-001-01-01" =
      .ok [⟨.qualifier "created" "-001-01-01" false, 0⟩] :=
    toOption_eq_some_iff.mp (by decide +kernel)
  have parsed : read "created:-001-01-01" = .ok past := read_of_single signed (by decide +kernel)
  have also : read "date:\">=  2024-1-1\"" = .ok recent := read_of_single cut (by decide +kernel)
  obtain ⟨only, legible, -⟩ := read_text_of_read parsed
  obtain ⟨-, -, back⟩ := read_text_of_read also
  refine ⟨⟨parsed, by decide, fun other read => ?_⟩, also, by decide, ?_⟩
  · have same := only other read
    subst same
    exact absurd (legible.mp read) (by decide)
  · exact back _ cut (by decide +kernel)

end Expr

end Triage
