/-
# Triage.Proofs.CanonicalTokens -- the tokens of a canonical text

The canonical text of an expression is cut into the tokens that its tree shows: one for every
qualifier, `NOT` in front of its operand, brackets around every conjunction and disjunction
(`ofText_text`).  Quotes keep every text of a qualifier in one token, whatever it holds besides a
quote.  An empty expression leaves no token behind, so that a `NOT` over it stands alone.
-/
import Triage.Proofs.TokenForms
import Triage.Proofs.LeafText

namespace Triage

open Triage.Text

set_option autoImplicit false

/-- The whole text is cut into these tokens. -/
def CutInto (source : String) (tokens : List Token) : Prop :=
  ∃ located, Token.ofText source = .ok located ∧ located.map Located.token = tokens

theorem cutInto_of_yields {source : String} {tokens : List Token}
    (yields : Yields source.toList tokens []) : CutInto source tokens := by
  have cut := yields 0
  rw [List.append_nil, Token.scanned_nil, Token.scanned] at cut
  simp only [Option.map_some, List.append_nil, Option.map_eq_some_iff, toOption_eq_some_iff] at cut
  exact cut

/-! ## One qualifier -/

/-- A canonical name is a word of small letters. -/
theorem Kind.isLower_of_mem_name (kind : Kind) : kind.name.toList.all Char.isLower = true := by
  cases kind <;> decide

theorem Kind.name_ne_nil (kind : Kind) : kind.name.toList ≠ [] := by
  cases kind <;> decide

/-- A small letter is no boundary, no colon and no operator mark. -/
theorem plain_of_isLower {c : Char} (small : c.isLower = true) :
    isBoundary c = false ∧ c ≠ ':' ∧ c ∉ operatorMarks := by
  have range : 97 ≤ c.toNat ∧ c.toNat ≤ 122 := by
    have between : (decide (c.val ≥ 97) && decide (c.val ≤ 122)) = true := small
    simpa [UInt32.le_iff_toNat_le] using between
  have apart {d : Char} (low : d.toNat < 97 ∨ 122 < d.toNat) : c ≠ d := by
    rintro rfl
    omega
  have unblank : isBlank c = false := isBlank_eq_false_of_visible (by omega)
  refine ⟨?_, apart (by decide), ?_⟩
  · simp [isBoundary, unblank, apart (show '('.toNat < 97 ∨ _ by decide),
      apart (show ')'.toNat < 97 ∨ _ by decide), apart (show '"'.toNat < 97 ∨ _ by decide)]
  · simp only [operatorMarks, List.mem_cons, List.not_mem_nil, or_false, not_or]
    exact ⟨apart (by decide), apart (by decide), apart (by decide), apart (by decide)⟩

/-- A numeral or a mark of a comparison is no boundary. -/
theorem isBoundary_of_isNumeral {c : Char}
    (part : isNumeral c = true ∨ c = '<' ∨ c = '>' ∨ c = '=' ∨ c = '.') : isBoundary c = false := by
  rcases part with numeral | rfl | rfl | rfl | rfl
  · rcases isNumeral_iff.mp numeral with digit | rfl | rfl
    · have range : 48 ≤ c.toNat ∧ c.toNat ≤ 57 := Char.isDigit_iff_toNat.mp digit
      have apart {d : Char} (low : d.toNat < 48 ∨ 57 < d.toNat) : c ≠ d := by
        rintro rfl
        omega
      simp [isBoundary, isBlank_eq_false_of_isDigit digit,
        apart (show '('.toNat < 48 ∨ _ by decide), apart (show ')'.toNat < 48 ∨ _ by decide),
        apart (show '"'.toNat < 48 ∨ _ by decide)]
    · decide
    · decide
  all_goals decide

theorem Comparison.isWordPart_chars {α : Type} {write : α → List Char}
    (numeral : ∀ value, ∀ c ∈ write value, isNumeral c = true) (comparison : Comparison α) :
    IsWordPart (comparison.chars write) := by
  intro c member
  apply isBoundary_of_isNumeral
  cases comparison with
  | compare operator value =>
      rcases List.mem_append.mp member with front | back
      · rcases Operator.mem_symbol front with rfl | rfl | rfl <;> simp
      · exact .inl (numeral value c back)
  | between low high =>
      simp only [chars, List.mem_append, List.mem_cons] at member
      rcases member with front | rfl | rfl | back
      · exact .inl (numeral low c front)
      · simp
      · simp
      · exact .inl (numeral high c back)

/-- What stands after the colon without quotes is one word. -/
theorem Literal.isWordPart_value {literal : Literal} (bare : literal.quotes = false) :
    IsWordPart literal.value.toList ∧ literal.value.toList ≠ [] := by
  cases literal with
  | text s =>
      simp only [quotes, needsQuotes, Bool.or_eq_false_iff, List.any_eq_false] at bare
      refine ⟨fun c member => by simpa using bare.2 c member, ?_⟩
      intro none
      have nonempty : s.toList.isEmpty = false := bare.1
      rw [show s.toList = [] from none] at nonempty
      cases nonempty
  | number comparison =>
      rw [value, String.toList_ofList]
      exact ⟨comparison.isWordPart_chars fun _ _ => isNumeral_of_mem_decimal,
        comparison.chars_ne_nil fun n => decimal_ne_nil n.toNat⟩
  | date comparison =>
      rw [value, String.toList_ofList]
      exact ⟨comparison.isWordPart_chars fun _ _ member =>
          isNumeral_iff.mpr (Date.digit_or_sign_of_mem_chars member),
        comparison.chars_ne_nil Date.chars_ne_nil⟩

/-- A bare keyword is a word, no operator and no qualifier. -/
theorem yields_keyword {s : String} (bare : keywordNeedsQuotes s.toList = false)
    {after : List Char} (ends : EndsWord after) : Yields s.toList [.word s] after := by
  simp only [keywordNeedsQuotes, Bool.or_eq_false_iff] at bare
  obtain ⟨⟨⟨word, noColon⟩, unmarked⟩, noOperator⟩ := bare
  cases chars : s.toList with
  | nil => simp [needsQuotes, chars] at word
  | cons c tail =>
      rw [chars] at word noColon unmarked noOperator
      have inside : IsWordPart (c :: tail) := by
        simp only [needsQuotes, Bool.or_eq_false_iff, List.any_eq_false] at word
        exact fun d member => by simpa using word.2 d member
      have spelled : Token.ofWord (c :: tail) = .word s := by
        have : (c :: tail) ∉ operatorWords := by simpa using noOperator
        simp only [operatorWords, List.mem_cons, List.not_mem_nil, or_false, not_or] at this
        simp only [Token.ofWord, this.1, this.2.1, this.2.2, if_false]
        rw [← chars, String.ofList_toList]
      rw [← spelled]
      exact yields_word ⟨inside, c, rfl, by simpa using unmarked⟩ (by simpa using noColon) ends

/-- The canonical text of a qualifier is its token, if its text holds no quote. -/
theorem Qualifier.yields_chars {qualifier : Qualifier} (quotable : qualifier.IsQuotable)
    {after : List Char} (ends : EndsWord after) :
    Yields qualifier.chars [qualifier.token] after := by
  rcases qualifier.keyword_or_named with ⟨s, rfl⟩ | ⟨written, spelled⟩
  · have absent : '"' ∉ s.toList := quotable s rfl
    simp only [ofText, chars, token]
    cases quotes : keywordNeedsQuotes s.toList with
    | true => simpa [quotedIf] using (Written.quoted absent).yields
    | false => simpa [quotedIf] using yields_keyword quotes ends
  · obtain ⟨kind, literal⟩ := qualifier
    have letters := List.all_eq_true.mp kind.isLower_of_mem_name
    cases name : kind.name.toList with
    | nil => exact absurd name kind.name_ne_nil
    | cons c tail =>
        rw [name] at letters
        have named : IsWordPart (c :: tail) := fun d member =>
          (plain_of_isLower (letters d member)).1
        have absent : ':' ∉ c :: tail := fun member => (plain_of_isLower (letters _ member)).2.1 rfl
        have unmarked := (plain_of_isLower (letters c (by simp))).2.2
        have shown : kind.name = String.ofList (c :: tail) := by rw [← name, String.ofList_toList]
        simp only [written, spelled, Literal.chars_eq, shown, String.toList_ofList]
        cases quotes : literal.quotes with
        | true =>
            have noQuote : '"' ∉ literal.value.toList := by
              cases literal with
              | text s => exact quotable s rfl
              | number | date => cases quotes
            simpa [quotedIf] using yields_named ⟨named, c, rfl, unmarked⟩ absent noQuote
        | false =>
            obtain ⟨inside, present⟩ := Literal.isWordPart_value quotes
            simpa [quotedIf] using yields_bare ⟨named, c, rfl, unmarked⟩ absent inside present ends

/-! ## Trees -/

namespace Expr

/-- The tokens of the canonical text. -/
def tokens : Expr → List Token
  | .qualifier q => [q.token]
  | .empty => []
  | .not operand => .not :: operand.tokens
  | .and left right => .opening :: (left.tokens ++ (right.tokens ++ [.closing]))
  | .or left right => .opening :: (left.tokens ++ .or :: (right.tokens ++ [.closing]))

/-- Every text in the expression holds no quote. -/
def IsQuotable (expr : Expr) : Prop := ∀ q ∈ expr.qualifiers, q.IsQuotable

instance (expr : Expr) : Decidable expr.IsQuotable :=
  inferInstanceAs (Decidable (∀ q ∈ expr.qualifiers, q.IsQuotable))

theorem endsWord_blank (rest : List Char) : EndsWord (' ' :: rest) := endsWord_cons (by decide)

theorem endsWord_closing (rest : List Char) : EndsWord (')' :: rest) := endsWord_cons (by decide)

theorem isWordPart_of_mem_operatorWords {word : List Char} (known : word ∈ operatorWords) :
    IsWordPart word := by
  have inside : operatorWords.all (fun word => word.all fun c => !isBoundary c) = true := by decide
  have each := List.all_eq_true.mp (List.all_eq_true.mp inside word known)
  exact fun c member => by simpa using each c member

theorem yields_operator (word : List Char) (known : word ∈ operatorWords) (after : List Char) :
    Yields (word ++ [' ']) [.ofWord word] after := by
  have blank : Yields [' '] [] after := yields_blank (by decide) after
  have front : Yields word [.ofWord word] ([' '] ++ after) := by
    have inside := isWordPart_of_mem_operatorWords known
    simp only [operatorWords, List.mem_cons, List.not_mem_nil, or_false] at known
    rcases known with rfl | rfl | rfl <;>
      exact yields_word ⟨inside, _, rfl, by decide⟩ (by decide) (endsWord_blank after)
  exact front.append blank

/-- In front of a boundary the canonical text is cut into the tokens of the tree. -/
theorem yields_chars {expr : Expr} (quotable : expr.IsQuotable) {after : List Char}
    (ends : EndsWord after) : Yields expr.chars expr.tokens after := by
  induction expr generalizing after with
  | qualifier q => exact q.yields_chars (quotable q (by simp [qualifiers])) ends
  | empty => exact yields_nil after
  | not operand ih =>
      have front := yields_operator ['N', 'O', 'T'] (by decide) (operand.chars ++ after)
      exact front.append (ih quotable ends)
  | and left right ihl ihr =>
      have quotables := List.forall_mem_append.mp quotable
      have last := (ihr quotables.2 (endsWord_closing after)).append Written.closing.yields
      have blank := (yields_blank (c := ' ') (by decide) _).append last
      have first := (ihl quotables.1 (endsWord_blank _)).append blank
      simpa [chars, tokens] using Written.opening.yields.append first
  | or left right ihl ihr =>
      have quotables := List.forall_mem_append.mp quotable
      have last := (ihr quotables.2 (endsWord_closing after)).append Written.closing.yields
      have operator := (yields_operator ['O', 'R'] (by decide) _).append last
      have blank := (yields_blank (c := ' ') (by decide) _).append operator
      have first := (ihl quotables.1 (endsWord_blank _)).append blank
      simpa [chars, tokens, Token.ofWord] using Written.opening.yields.append first

/-- The tokens of the canonical text are those of the tree. -/
theorem ofText_text {expr : Expr} (quotable : expr.IsQuotable) :
    CutInto expr.text expr.tokens := by
  apply cutInto_of_yields
  rw [text, String.toList_ofList]
  exact yields_chars quotable endsWord_nil

end Expr

end Triage
