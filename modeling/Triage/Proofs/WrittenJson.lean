/-
# Triage.Proofs.WrittenJson -- a written document is read back

A document is spelled (`Spelled`) if its literals are as the tokens of a text hold them: its numbers
are whole numerals and its strings contain no quote, no control character and no broken escape.  The
indented text of a spelled document is read as this document, whatever containers are open around it
and whatever follows it, as long as a number ends there (`Spelled.readsBack`, by induction
on the document).  Written texts, words and records are spelled.
Main statement: `read?_pretty`.
-/
import Triage.Json.Pretty
import Triage.Json.Reading

namespace Triage

open Triage.Text

set_option autoImplicit false

/-- A run takes a text that leads the automaton to a state in which it must stop. -/
theorem Text.run_append {σ : Type} {step : σ → Char → Option σ} {state final : σ}
    {text rest : List Char} (taken : text.foldlM step state = some final)
    (stops : ∀ c ∈ rest.head?, step final c = none) :
    run step state (text ++ rest) = ⟨final, text, rest⟩ := by
  induction text generalizing state with
  | nil =>
      obtain rfl : state = final := Option.some.inj taken
      cases rest with
      | nil => rfl
      | cons c rest => simp [run, stops c rfl]
  | cons c text ih =>
      rw [List.foldlM_cons] at taken
      obtain ⟨next, stepped, taken⟩ := Option.bind_eq_some_iff.mp taken
      simp [run, stepped, ih taken]

namespace Json

/-! ## Literals -/

/-- A spelling that is a number as a whole. -/
def IsNumeral (spelling : List Char) : Prop :=
  ∃ state, spelling.foldlM NumberState.step .start = some state ∧ state.isComplete = true

/-- A spelling that can stand between two quotes. -/
def IsQuotable (spelling : List Char) : Prop :=
  spelling.foldlM StringState.step .inside = some .inside

/-- The text ends here or goes on with a comma or a new line, so that a number ends here. -/
def EndsNumber (rest : List Char) : Prop := ∀ c ∈ rest.head?, c = ',' ∨ c = '\n'

theorem endsNumber_nil : EndsNumber [] := by simp [EndsNumber]

theorem endsNumber_newline (depth : Nat) (rest : List Char) :
    EndsNumber (newline depth ++ rest) := by
  simp [EndsNumber, newline]

theorem endsNumber_prettyItems (depth : Nat) (items : List Json) {rest : List Char}
    (ends : EndsNumber rest) : EndsNumber (prettyItems depth items ++ rest) := by
  cases items with
  | nil => exact ends
  | cons item items => simp [EndsNumber, prettyItems]

theorem endsNumber_prettyMembers (depth : Nat) (members : List (List Char × Json))
    {rest : List Char} (ends : EndsNumber rest) :
    EndsNumber (prettyMembers depth members ++ rest) := by
  cases members with
  | nil => exact ends
  | cons member members => simp [EndsNumber, prettyMembers]

theorem EndsNumber.step_eq_none {rest : List Char} (ends : EndsNumber rest)
    (state : NumberState) : ∀ c ∈ rest.head?, state.step c = none := by
  intro c first
  rcases ends c first with rfl | rfl <;> cases state <;> rfl

/-- A number starts with a digit or a hyphen. -/
theorem NumberState.start_of_step {c : Char} {state : NumberState}
    (first : NumberState.step .start c = some state) : c = '-' ∨ c.isDigit = true := by
  by_cases hyphen : c = '-'
  · exact .inl hyphen
  · right
    simp only [NumberState.step, hyphen, if_false, NumberState.step.first] at first
    split at first
    · next zero =>
        rw [zero]
        rfl
    · split at first
      · assumption
      · cases first

theorem IsNumeral.exists_start {spelling : List Char} (numeral : IsNumeral spelling) :
    ∃ c digits state, spelling = c :: digits ∧ NumberState.step .start c = some state ∧
      ∃ final, digits.foldlM NumberState.step state = some final ∧ final.isComplete = true := by
  obtain ⟨final, taken, complete⟩ := numeral
  cases spelling with
  | nil =>
      obtain rfl : NumberState.start = final := Option.some.inj taken
      cases complete
  | cons c digits =>
      rw [List.foldlM_cons] at taken
      obtain ⟨state, first, taken⟩ := Option.bind_eq_some_iff.mp taken
      exact ⟨c, digits, state, rfl, first, final, taken, complete⟩

theorem cut_numeral {c : Char} {digits : List Char} (numeral : IsNumeral (c :: digits))
    {rest : List Char} (ends : EndsNumber rest) :
    Token.cut c (digits ++ rest) = some (.number (c :: digits), rest) := by
  obtain ⟨_, _, state, same, first, final, taken, complete⟩ := numeral.exists_start
  obtain ⟨rfl, rfl⟩ := List.cons.inj same
  have run := run_append taken (ends.step_eq_none final)
  have start := NumberState.start_of_step first
  unfold Token.cut
  split
  case h_11 => simp [first, run, complete]
  all_goals exact absurd start (by decide)

theorem cut_quoted {spelling : List Char} (quotable : IsQuotable spelling) (rest : List Char) :
    Token.cut '"' (spelling ++ '"' :: rest) = some (.string spelling, rest) := by
  have taken : (spelling ++ ['"']).foldlM StringState.step .inside = some .closed := by
    rw [List.foldlM_append, quotable]
    rfl
  have run : run StringState.step .inside (spelling ++ ['"'] ++ rest) =
      ⟨.closed, spelling ++ ['"'], rest⟩ := run_append taken fun _ _ => rfl
  rw [List.append_assoc, List.singleton_append] at run
  simp [Token.cut, run]

/-- Only its own bracket ends an array or begins an object. -/
theorem bracket_of_cut {c : Char} {rest left : List Char} {token : Token}
    (cut : Token.cut c rest = some (token, left)) :
    (token = .endArray → c = ']') ∧ (token = .beginObject → c = '\x7b') := by
  unfold Token.cut at cut
  split at cut
  case h_10 =>
    dsimp only at cut
    split at cut <;> cases cut
    simp
  case h_11 =>
    split at cut
    · cases cut
    · dsimp only at cut
      split at cut <;> cases cut
      simp
  all_goals cases cut; simp

/-! ## Reading token by token -/

theorem readFrom_nil (reader : Reader) : readFrom reader [] = reader.result? := by
  rw [readFrom]

theorem readFrom_space {c : Char} (space : isSpace c = true) (reader : Reader) (rest : List Char) :
    readFrom reader (c :: rest) = readFrom reader rest := by
  rw [readFrom, if_pos space]

theorem readFrom_token {c : Char} {rest left : List Char} {token : Token} {reader : Reader}
    (next : Reader) (shown : isSpace c = false) (cut : Token.cut c rest = some (token, left))
    (step : reader.step token = some next) :
    readFrom reader (c :: rest) = readFrom next left := by
  rw [readFrom, if_neg (by rw [shown]; decide)]
  split
  · next failed => cases cut.symm.trans failed
  · next t l found =>
      obtain ⟨rfl, rfl⟩ := Prod.mk.inj (Option.some.inj (cut.symm.trans found))
      rw [step]

/-- What a reader does next depends on its step with the next token. -/
theorem readFrom_congr {c : Char} {rest : List Char} {reader other : Reader}
    (shown : isSpace c = false)
    (same : ∀ token left, Token.cut c rest = some (token, left) →
      reader.step token = other.step token) :
    readFrom reader (c :: rest) = readFrom other (c :: rest) := by
  rw [readFrom, readFrom, if_neg (by rw [shown]; decide), if_neg (by rw [shown]; decide)]
  split
  · rfl
  · next token left found => rw [same token left found]

theorem readFrom_newline (reader : Reader) (depth : Nat) (rest : List Char) :
    readFrom reader (newline depth ++ rest) = readFrom reader rest := by
  rw [newline, List.cons_append, readFrom_space (by decide)]
  generalize 2 * depth = blanks
  induction blanks with
  | zero => rfl
  | succ blanks ih => rw [List.replicate_succ, List.cons_append, readFrom_space (by decide), ih]

theorem readFrom_quote {reader : Reader} {spelling : List Char} (next : Reader)
    (quotable : IsQuotable spelling) (step : reader.step (.string spelling) = some next)
    (rest : List Char) : readFrom reader (quote spelling ++ rest) = readFrom next rest := by
  have shape : quote spelling ++ rest = '"' :: (spelling ++ '"' :: rest) := by simp [quote]
  rw [shape]
  exact readFrom_token _ (by decide) (cut_quoted quotable rest) step

/-! ## Spelled documents -/

/-- A document with literals as a text can hold them. -/
inductive Spelled : Json → Prop
  | null : Spelled .null
  | bool (value : Bool) : Spelled (.bool value)
  | number {spelling : List Char} (numeral : IsNumeral spelling) : Spelled (.number spelling)
  | string {spelling : List Char} (quotable : IsQuotable spelling) : Spelled (.string spelling)
  | array {items : List Json} (spelled : ∀ item ∈ items, Spelled item) : Spelled (.array items)
  | object {members : List (List Char × Json)} (names : ∀ member ∈ members, IsQuotable member.1)
      (spelled : ∀ member ∈ members, Spelled member.2) : Spelled (.object members)

/-- The text of a document is read as this document, at any depth and in any open containers. -/
def ReadsBack (json : Json) : Prop :=
  ∀ (depth : Nat) (stack : List Frame) (rest : List Char), EndsNumber rest →
    readFrom (.value stack) (prettyChars depth json ++ rest) = readFrom (Reader.put json stack) rest

/-- No document begins like the end of an array. -/
theorem Spelled.exists_start {json : Json} (spelled : json.Spelled) (depth : Nat) :
    ∃ c tail, prettyChars depth json = c :: tail ∧ c ≠ ']' ∧ isSpace c = false := by
  cases spelled with
  | null => exact ⟨'n', _, rfl, by decide, by decide⟩
  | bool value => cases value <;> exact ⟨_, _, rfl, by decide, by decide⟩
  | number numeral =>
      obtain ⟨c, digits, state, rfl, first, -⟩ := numeral.exists_start
      refine ⟨c, digits, rfl, ?_, ?_⟩
      · rintro rfl
        cases first
      · rcases NumberState.start_of_step first with rfl | digit
        · rfl
        · apply Bool.eq_false_iff.mpr
          intro space
          simp only [isSpace, Bool.or_eq_true, decide_eq_true_eq] at space
          rcases space with ((rfl | rfl) | rfl) | rfl <;> cases digit
  | string => exact ⟨'"', _, rfl, by decide, by decide⟩
  | @array items => cases items <;> exact ⟨'[', _, rfl, by decide, by decide⟩
  | @object members => cases members <;> exact ⟨'\x7b', _, rfl, by decide, by decide⟩

/-- Where the array does not end at once, its first item is read like any other. -/
theorem readFrom_firstItem {c : Char} (ne : c ≠ ']') (shown : isSpace c = false)
    (stack : List Frame) (rest : List Char) :
    readFrom (.firstItem stack) (c :: rest) =
      readFrom (.value (.array [] :: stack)) (c :: rest) := by
  apply readFrom_congr shown
  intro token left cut
  cases token
  case endArray => exact absurd ((bracket_of_cut cut).1 rfl) ne
  all_goals rfl

/-- The items after the first, up to the end of their array. -/
theorem readFrom_prettyItems {items : List Json} (read : ∀ item ∈ items, ReadsBack item)
    (before : List Json) (stack : List Frame) (depth outer : Nat) (rest : List Char) :
    readFrom (.item before stack)
        (prettyItems depth items ++ (newline outer ++ ']' :: rest)) =
      readFrom (Reader.put (.array (before.reverse ++ items)) stack) rest := by
  induction items generalizing before with
  | nil =>
      rw [prettyItems, List.nil_append, readFrom_newline, List.append_nil]
      exact readFrom_token _ (by decide) rfl rfl
  | cons item items ih =>
      obtain ⟨first, others⟩ := List.forall_mem_cons.mp read
      have shape : prettyItems depth (item :: items) ++ (newline outer ++ ']' :: rest) =
          ',' :: (newline depth ++ (prettyChars depth item ++
            (prettyItems depth items ++ (newline outer ++ ']' :: rest)))) := by
        simp [prettyItems]
      have ends := endsNumber_prettyItems depth items (endsNumber_newline outer (']' :: rest))
      rw [shape, readFrom_token (.value (.array before :: stack)) (by decide) rfl rfl,
        readFrom_newline, first _ _ _ ends, Reader.put, ih others]
      simp

/-- The members after the first, up to the end of their object. -/
theorem readFrom_prettyMembers {members : List (List Char × Json)}
    (names : ∀ member ∈ members, IsQuotable member.1)
    (read : ∀ member ∈ members, ReadsBack member.2)
    (before : List (List Char × Json)) (stack : List Frame) (depth outer : Nat)
    (rest : List Char) :
    readFrom (.member before stack)
        (prettyMembers depth members ++ (newline outer ++ '\x7d' :: rest)) =
      readFrom (Reader.put (.object (before.reverse ++ members)) stack) rest := by
  induction members generalizing before with
  | nil =>
      rw [prettyMembers, List.nil_append, readFrom_newline, List.append_nil]
      exact readFrom_token _ (by decide) rfl rfl
  | cons member members ih =>
      obtain ⟨name, json⟩ := member
      obtain ⟨quotable, otherNames⟩ := List.forall_mem_cons.mp names
      obtain ⟨first, others⟩ := List.forall_mem_cons.mp read
      have shape : prettyMembers depth ((name, json) :: members) ++
            (newline outer ++ '\x7d' :: rest) =
          ',' :: (newline depth ++ (quote name ++ ':' :: ' ' :: (prettyChars depth json ++
            (prettyMembers depth members ++ (newline outer ++ '\x7d' :: rest))))) := by
        simp [prettyMembers]
      have ends := endsNumber_prettyMembers depth members
        (endsNumber_newline outer ('\x7d' :: rest))
      rw [shape, readFrom_token (.name before stack) (by decide) rfl rfl,
        readFrom_newline, readFrom_quote (.colon before name stack) quotable rfl,
        readFrom_token (.value (.object before name :: stack)) (by decide) rfl rfl,
        readFrom_space (by decide), first _ _ _ ends, Reader.put, ih otherNames others]
      simp

/-- A spelled document is read back from its text. -/
theorem Spelled.readsBack {json : Json} (spelled : json.Spelled) : ReadsBack json := by
  induction spelled with
  | null =>
      intro depth stack rest _
      exact readFrom_token _ (by decide) rfl rfl
  | bool value =>
      intro depth stack rest _
      cases value <;> exact readFrom_token _ (by decide) rfl rfl
  | @number spelling numeral =>
      intro depth stack rest ends
      obtain ⟨c, digits, state, rfl, first, -⟩ := numeral.exists_start
      have shown : isSpace c = false := by
        obtain ⟨_, _, same, -, shown⟩ := (Spelled.number numeral).exists_start depth
        obtain ⟨rfl, -⟩ := List.cons.inj same
        exact shown
      exact readFrom_token _ shown (cut_numeral numeral ends) rfl
  | string quotable =>
      intro depth stack rest _
      exact readFrom_quote _ quotable rfl rest
  | @array items spelled ih =>
      intro depth stack rest _
      cases items with
      | nil =>
          have opened : readFrom (.value stack) ('[' :: ']' :: rest) =
              readFrom (.firstItem stack) (']' :: rest) := readFrom_token _ (by decide) rfl rfl
          exact opened.trans (readFrom_token _ (by decide) rfl rfl)
      | cons item items =>
          obtain ⟨first, others⟩ := List.forall_mem_cons.mp ih
          have shape : prettyChars depth (.array (item :: items)) ++ rest =
              '[' :: (newline (depth + 1) ++ (prettyChars (depth + 1) item ++
                (prettyItems (depth + 1) items ++ (newline depth ++ ']' :: rest)))) := by
            simp [prettyChars]
          have ends := endsNumber_prettyItems (depth + 1) items
            (endsNumber_newline depth (']' :: rest))
          obtain ⟨c, tail, start, ne, shown⟩ :=
            (spelled item List.mem_cons_self).exists_start (depth + 1)
          have read := first (depth + 1) (.array [] :: stack) _ ends
          rw [start, List.cons_append] at read
          rw [shape, readFrom_token (.firstItem stack) (by decide) rfl rfl,
            readFrom_newline, start, List.cons_append, readFrom_firstItem ne shown, read,
            Reader.put, readFrom_prettyItems others]
          rfl
  | @object members names spelled ih =>
      intro depth stack rest _
      cases members with
      | nil =>
          have opened : readFrom (.value stack) ('\x7b' :: '\x7d' :: rest) =
              readFrom (.firstName stack) ('\x7d' :: rest) := readFrom_token _ (by decide) rfl rfl
          exact opened.trans (readFrom_token _ (by decide) rfl rfl)
      | cons member members =>
          obtain ⟨name, json⟩ := member
          obtain ⟨quotable, otherNames⟩ := List.forall_mem_cons.mp names
          obtain ⟨first, others⟩ := List.forall_mem_cons.mp ih
          have shape : prettyChars depth (.object ((name, json) :: members)) ++ rest =
              '\x7b' :: (newline (depth + 1) ++ (quote name ++ ':' :: ' ' ::
                (prettyChars (depth + 1) json ++
                  (prettyMembers (depth + 1) members ++ (newline depth ++ '\x7d' :: rest))))) := by
            simp [prettyChars]
          have ends := endsNumber_prettyMembers (depth + 1) members
            (endsNumber_newline depth ('\x7d' :: rest))
          rw [shape, readFrom_token (.firstName stack) (by decide) rfl rfl,
            readFrom_newline, readFrom_quote (.colon [] name stack) quotable rfl,
            readFrom_token (.value (.object [] name :: stack)) (by decide) rfl rfl,
            readFrom_space (by decide), first _ _ _ ends, Reader.put,
            readFrom_prettyMembers otherNames others]
          rfl

/-- The text of a spelled document is read as this document, also with line ends behind it. -/
theorem read?_pretty {json : Json} (spelled : json.Spelled) (lines : Nat) :
    read? (json.pretty.toList ++ List.replicate lines '\n') = some json := by
  have ends : EndsNumber (List.replicate lines '\n') := by
    cases lines with
    | zero => exact endsNumber_nil
    | succ lines => simp [EndsNumber, List.replicate_succ]
  have blank : readFrom (.done json) (List.replicate lines '\n') = some json := by
    induction lines with
    | zero => exact readFrom_nil _
    | succ lines ih =>
        rw [List.replicate_succ, readFrom_space (by decide)]
        exact ih (by cases lines <;> simp [EndsNumber, List.replicate_succ])
  rw [read?, pretty, String.toList_ofList, spelled.readsBack 0 [] _ ends]
  exact blank

/-! ## Documents of plain values -/

/-- The spelling of a character leads from a string into the same string. -/
theorem foldlM_escapeChar (c : Char) :
    (escapeChar c).foldlM StringState.step .inside = some .inside := by
  have control : ∀ n < 32, ['\\', 'u', '0', '0', hexDigit (n / 16), hexDigit (n % 16)].foldlM
      StringState.step .inside = some .inside := by decide
  unfold escapeChar
  iterate 7
    split
    · rfl
  split
  · next small => exact control c.toNat small
  · next quote backslash _ _ _ _ _ visible =>
      simp [StringState.step, quote, backslash, visible]

theorem isQuotable_escape (text : List Char) : IsQuotable (escape text) := by
  induction text with
  | nil => rfl
  | cons c text ih =>
      rw [IsQuotable, escape, List.flatMap_cons, List.foldlM_append, foldlM_escapeChar]
      exact ih

/-- The digits of a number make a number of JSON, for they have no leading zero. -/
theorem foldlM_decimal (n : Nat) :
    (decimal n).foldlM NumberState.step .start = some (if n = 0 then .zero else .whole) := by
  have single : ∀ n < 10, (decimal n).foldlM NumberState.step .start =
      some (if n = 0 then .zero else .whole) := by decide
  induction n using Nat.strongRecOn with
  | ind n ih =>
      by_cases small : n < 10
      · exact single n small
      · have front := ih (n / 10) (by omega)
        have digit : (n % 10).digitChar.isDigit = true := by
          rw [Nat.isDigit_digitChar, decide_eq_true_eq]
          omega
        rw [if_neg (by omega)] at front
        rw [decimal, Nat.toDigits_of_base_le (by omega) (by omega), ← decimal, List.foldlM_append,
          front, if_neg (by omega)]
        simp [NumberState.step, digit]

theorem isNumeral_decimal (n : Nat) : IsNumeral (decimal n) := by
  refine ⟨_, foldlM_decimal n, ?_⟩
  split <;> rfl

theorem spelled_ofText (text : String) : (ofText text).Spelled := .string (isQuotable_escape _)

theorem spelled_ofWord (n : UInt64) : (ofWord n).Spelled := .number (isNumeral_decimal _)

theorem spelled_ofMembers {members : List (String × Json)}
    (spelled : ∀ member ∈ members, member.2.Spelled) : (ofMembers members).Spelled := by
  refine .object ?_ ?_
  · intro member written
    obtain ⟨source, -, rfl⟩ := List.mem_map.mp written
    exact isQuotable_escape _
  · intro member written
    obtain ⟨source, listed, rfl⟩ := List.mem_map.mp written
    exact spelled source listed

theorem spelled_array {α : Type} {write : α → Json} (spelled : ∀ value, (write value).Spelled)
    (values : List α) : (Json.array (values.map write)).Spelled := by
  refine .array fun item written => ?_
  obtain ⟨value, -, rfl⟩ := List.mem_map.mp written
  exact spelled value

end Json

end Triage
