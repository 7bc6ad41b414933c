/-
# Triage.Proofs.QuoteParity -- which texts leave a quote open

Quotes are taken in two places, at the front of a token and right behind `name:`, and a word ends
in front of one; a text in quotes goes on to the next quote, whatever stands in between.  So every
token takes no quote or a pair of them (`Written.even_count_quote`), and what cannot be cut holds
exactly one more, which is the last of the whole text (`cutToken_error`).  Both pass along a text by
one induction each (`Token.even_count_of_scan`, `Token.open_of_scan`).  What reads the tokens has no
complaint about quotes of its own (`Reading.ignoresQuotes_readOperand`).
Main statement: `read_openQuote_iff`.
-/
import Triage.Expr.Reading
import Triage.Proofs.TokenForms

namespace Triage

open Triage.Text Triage.Reading

set_option autoImplicit false

/-! ## The last quote of a text -/

/-- The last quote of the text has this byte offset. -/
def IsLastQuote (text : List Char) (position : Nat) : Prop :=
  ∃ before after, text = before ++ '"' :: after ∧ '"' ∉ after ∧ position = byteLength before

namespace IsLastQuote

variable {text : List Char}

/-- More text in front moves the last quote by its length. -/
theorem behind {position : Nat} (last : IsLastQuote text position) (front : List Char) :
    IsLastQuote (front ++ text) (byteLength front + position) := by
  obtain ⟨before, after, rfl, absent, rfl⟩ := last
  exact ⟨front ++ before, after, by simp, absent, by simp⟩

/-- From the end, the last quote is the first one. -/
theorem eq_of_isLastQuote {one other : Nat} (first : IsLastQuote text one)
    (second : IsLastQuote text other) : one = other := by
  obtain ⟨before, after, rfl, absent, rfl⟩ := first
  obtain ⟨before', after', same, absent', rfl⟩ := second
  have reversed := congrArg (fun t => fromQuote t.reverse) same
  simp only [List.reverse_append, List.reverse_cons, List.append_assoc, List.singleton_append]
    at reversed
  rw [fromQuote_append (by simpa using absent), fromQuote_append (by simpa using absent')]
    at reversed
  rw [List.reverse_inj.mp (List.cons.inj reversed).2]

end IsLastQuote

/-! ## Cutting takes pairs of quotes -/

theorem count_quote_quotes {text : List Char} (absent : '"' ∉ text) :
    ('"' :: (text ++ ['"'])).count '"' = 2 := by
  simp [List.count_eq_zero.mpr absent]

/-- A token takes no quote, or a pair. -/
theorem Written.even_count_quote {taken left : List Char} {token : Token}
    (written : Written taken token left) : taken.count '"' % 2 = 0 := by
  cases written with
  | opening | closing => decide
  | not mark => rcases mark with rfl | rfl <;> decide
  | single doubling | doubled doubling => rcases doubling with ⟨rfl, -⟩ | ⟨rfl, -⟩ <;> decide
  | quoted absent => rw [count_quote_quotes absent]
  | word plain | bare plain => rw [List.count_eq_zero.mpr plain.1.quote_not_mem]
  | named plain _ absent =>
      rw [List.count_append, List.count_eq_zero.mpr plain.1.quote_not_mem,
        count_quote_quotes absent]

section Open

variable {position : Nat} {c : Char} {rest : List Char} {error : ReadError}

/-- The text holds one quote, and the complaint points to it. -/
def LeavesOpen (position : Nat) (text : List Char) (error : ReadError) : Prop :=
  ∃ before after, text = before ++ '"' :: after ∧ '"' ∉ before ∧ '"' ∉ after ∧
    error = .openQuote (position + byteLength before)

theorem cutQuoted_error (quote : c = '"') (failed : cutQuoted position c rest = .error error) :
    LeavesOpen position (c :: rest) error := by
  unfold cutQuoted at failed
  split at failed
  · next nothing =>
      cases failed
      have whole := inside_append_from rest
      rw [nothing, List.append_nil] at whole
      refine ⟨[], rest, by rw [quote]; rfl, List.not_mem_nil, ?_, rfl⟩
      rw [← whole]
      exact quote_not_mem_insideQuotes rest
  · cases failed

theorem cutWord_error (inside : isBoundary c = false)
    (failed : cutWord position c rest = .error error) : LeavesOpen position (c :: rest) error := by
  have word : IsWordPart (c :: wordTail rest) :=
    List.forall_mem_cons.mpr ⟨inside, isWordPart_wordTail rest⟩
  cases divided : splitColon (c :: wordTail rest) with
  | none =>
      simp only [cutWord, divided] at failed
      cases failed
  | some parts =>
      obtain ⟨name, value⟩ := parts
      cases value with
      | cons d more =>
          simp only [cutWord, divided] at failed
          cases failed
      | nil =>
          simp only [cutWord, divided] at failed
          split at failed
          · cases failed
          · next d text found =>
              split at failed
              · next quote =>
                  split at failed
                  · next wrong open_ =>
                      cases failed
                      obtain ⟨before, after, same, clear, clear', rfl⟩ :=
                        cutQuoted_error quote open_
                      refine ⟨c :: wordTail rest ++ before, after, ?_, ?_, clear', ?_⟩
                      · rw [List.append_assoc, ← same, ← found, List.cons_append,
                          tail_append_after]
                      · simp only [List.mem_append, not_or]
                        exact ⟨word.quote_not_mem, clear⟩
                      · rw [byteLength_append, Nat.add_assoc]
                  · cases failed
              · cases failed

/-- What cannot be cut holds one quote. -/
theorem cutToken_error (solid : isBlank c = false)
    (failed : cutToken position c rest = .error error) : LeavesOpen position (c :: rest) error := by
  unfold cutToken at failed
  split at failed
  · cases failed
  · split at failed
    · cases failed
    · split at failed
      · cases failed
      · split at failed
        · cases failed
        · split at failed
          · cases failed
          · split at failed
            · next quote => exact cutQuoted_error quote failed
            · next open_ close _ _ _ quote =>
                have inside : isBoundary c = false := by
                  simp [isBoundary, solid, open_, close, quote]
                exact cutWord_error inside failed

end Open

/-- A text that is cut into tokens holds an even number of quotes. -/
theorem Token.even_count_of_scan (position : Nat) (text : List Char) {tokens : List Located}
    (scanned : scan position text = .ok tokens) : text.count '"' % 2 = 0 := by
  fun_induction scan position text generalizing tokens with
  | case1 => rfl
  | case2 position c rest blank ih =>
      have unlike : c ≠ '"' := by
        rintro rfl
        cases blank
      rw [List.count_cons_of_ne unlike]
      exact ih scanned
  | case3 => cases scanned
  | case4 => cases scanned
  | case5 position c rest solid cut done more found ih =>
      have front := (written_of_cutToken (Bool.eq_false_iff.mpr solid) done).even_count_quote
      have behind := ih found
      rw [← cut.taken_append_left, List.count_append]
      omega

/-- A text that is not cut into tokens holds an odd number of quotes, and the complaint points to
the last one. -/
theorem Token.open_of_scan (position : Nat) (text : List Char) {error : ReadError}
    (failed : scan position text = .error error) :
    text.count '"' % 2 = 1 ∧
      ∃ offset, IsLastQuote text offset ∧ error = .openQuote (position + offset) := by
  fun_induction scan position text with
  | case1 => cases failed
  | case2 position c rest blank ih =>
      have unlike : c ≠ '"' := by
        rintro rfl
        cases blank
      obtain ⟨odd, offset, last, rfl⟩ := ih failed
      refine ⟨by rwa [List.count_cons_of_ne unlike], c.utf8Size + offset, last.behind [c], ?_⟩
      rw [Nat.add_assoc]
  | case3 position c rest solid wrong open_ =>
      cases failed
      obtain ⟨before, after, same, clear, clear', rfl⟩ :=
        cutToken_error (Bool.eq_false_iff.mpr solid) open_
      refine ⟨?_, byteLength before, ⟨before, after, same, clear', rfl⟩, rfl⟩
      rw [same, List.count_append, List.count_eq_zero.mpr clear, List.count_cons_self,
        List.count_eq_zero.mpr clear']
  | case4 position c rest solid cut done wrong open_ ih =>
      cases failed
      have front := (written_of_cutToken (Bool.eq_false_iff.mpr solid) done).even_count_quote
      obtain ⟨odd, offset, last, rfl⟩ := ih open_
      have whole : (c :: rest).count '"' = cut.taken.count '"' + cut.left.count '"' := by
        rw [← List.count_append, cut.taken_append_left]
      have behind := last.behind cut.taken
      rw [cut.taken_append_left] at behind
      exact ⟨by omega, _, behind, by rw [Nat.add_assoc]⟩
  | case5 => cases failed

/-! ## Reading tokens opens no quotes -/

theorem Qualifier.read_ne_openQuote (name value : String) (quotes : Bool) (position : Nat) :
    Qualifier.read name value quotes ≠ .error (.openQuote position) := by
  unfold Qualifier.read
  split
  · simp
  · split
    · simp
    · split <;> simp

namespace Reading

/-- Whatever the reader complains about, it is no open quote. -/
def IgnoresQuotes (reader : Reader) : Prop :=
  ∀ tokens position, reader tokens ≠ .error (.openQuote position)

theorem joinHeight_ne_openQuote (left right position offset : Nat) :
    joinHeight left right position ≠ .error (.openQuote offset) := by
  unfold joinHeight
  split <;> simp

theorem extend_ne_openQuote {stop : Nat} {next : List Located → Option (List Located)}
    {join : Expr → Expr → Expr} {operand : Reader} (ignores : IgnoresQuotes operand)
    (steps : Nat) (left : Reading) (position : Nat) :
    extend stop next join operand steps left ≠ .error (.openQuote position) := by
  induction steps generalizing left with
  | zero => simp [extend]
  | succ steps ih =>
      rw [extend]
      intro failed
      split at failed
      · cases failed
      · split at failed
        · next wrong read =>
            cases failed
            exact ignores _ _ read
        · split at failed
          · next wrong tall =>
              cases failed
              exact joinHeight_ne_openQuote _ _ _ _ tall
          · exact ih _ failed

theorem ignoresQuotes_chain {stop : Nat} {next : List Located → Option (List Located)}
    {join : Expr → Expr → Expr} {operand : Reader} (ignores : IgnoresQuotes operand) :
    IgnoresQuotes (chain stop next join operand) := by
  intro tokens position failed
  rw [chain] at failed
  split at failed
  · next wrong read =>
      cases failed
      exact ignores _ _ read
  · exact extend_ne_openQuote ignores _ _ _ failed

theorem ignoresQuotes_readDisjunction {stop : Nat} {operand : Reader}
    (ignores : IgnoresQuotes operand) : IgnoresQuotes (readDisjunction stop operand) :=
  ignoresQuotes_chain (ignoresQuotes_chain ignores)

section Operand

variable {stop fewer : Nat} {located : Located}

theorem negated_ne_openQuote (ignores : IgnoresQuotes (readOperand stop fewer))
    (negation : located.token = .not) (rest : List Located) (position : Nat) :
    readOperand stop (fewer + 1) (located :: rest) ≠ .error (.openQuote position) := by
  intro failed
  simp only [readOperand, negation] at failed
  split at failed
  · next wrong read =>
      cases failed
      exact ignores _ _ read
  · split at failed
    · next wrong tall =>
        cases failed
        exact joinHeight_ne_openQuote _ _ _ _ tall
    · cases failed

theorem bracketed_ne_openQuote (ignores : IgnoresQuotes (readOperand stop fewer))
    (bracket : located.token = .opening) (rest : List Located) (position : Nat) :
    readOperand stop (fewer + 1) (located :: rest) ≠ .error (.openQuote position) := by
  intro failed
  simp only [readOperand, bracket] at failed
  split at failed
  · next wrong read =>
      cases failed
      exact ignoresQuotes_readDisjunction ignores _ _ read
  · split at failed
    · cases failed
    · split at failed
      · cases failed
      · simp [Located.unexpected] at failed

end Operand

theorem ignoresQuotes_readOperand (stop room : Nat) : IgnoresQuotes (readOperand stop room) := by
  -- The induction is on the room, by which the reader descends.
  induction room using Nat.strongRecOn with
  | ind room ih =>
      intro tokens position failed
      cases tokens with
      | nil =>
          rw [readOperand] at failed
          cases failed
      | cons located rest =>
          cases token : located.token with
          | word | quoted => cases room <;> simp [readOperand, token] at failed
          | closing | and | or =>
              cases room <;> simp [readOperand, token, Located.unexpected] at failed
          | qualifier name value quotes =>
              have clean := Qualifier.read_ne_openQuote name value quotes position
              cases read : Qualifier.read name value quotes with
              | ok q => cases room <;> simp [readOperand, token, read] at failed
              | error wrong =>
                  rw [read] at clean
                  cases room <;> simp [readOperand, token, read] at failed <;>
                    exact clean (congrArg Except.error failed)
          | not =>
              cases room with
              | zero => simp [readOperand, token] at failed
              | succ fewer =>
                  exact negated_ne_openQuote (ih fewer (Nat.lt_succ_self fewer)) token _ _ failed
          | opening =>
              cases room with
              | zero => simp [readOperand, token] at failed
              | succ fewer =>
                  exact bracketed_ne_openQuote (ih fewer (Nat.lt_succ_self fewer)) token _ _ failed

end Reading

namespace Expr

theorem ofTokens_ne_openQuote (stop : Nat) (tokens : List Located) (position : Nat) :
    ofTokens stop tokens ≠ .error (.openQuote position) := by
  intro failed
  cases tokens with
  | nil => cases failed
  | cons located rest =>
      rw [ofTokens.eq_2 stop (located :: rest) (by simp)] at failed
      split at failed
      · next wrong read =>
          cases failed
          exact ignoresQuotes_readDisjunction (ignoresQuotes_readOperand stop maxDepth) _ _ read
      · split at failed
        · cases failed
        · simp [Located.unexpected] at failed

/-- A text leaves a quote open exactly if it holds an odd number of quotes, and the complaint names
the byte offset of the last one.  Every text with an even number of quotes is cut into tokens,
whatever else it holds. -/
theorem read_openQuote_iff (source : String) :
    ((∃ position, read source = .error (.openQuote position)) ↔
      source.toList.count '"' % 2 = 1) ∧
    (∀ position, read source = .error (.openQuote position) ↔
      source.toList.count '"' % 2 = 1 ∧ IsLastQuote source.toList position) ∧
    ((∃ tokens, Token.ofText source = .ok tokens) ↔ source.toList.count '"' % 2 = 0) := by
  unfold read
  cases cut : Token.ofText source with
  | ok tokens =>
      have even := Token.even_count_of_scan 0 _ cut
      have clean := ofTokens_ne_openQuote (byteLength source.toList) tokens
      simp [even, clean]
  | error wrong =>
      obtain ⟨odd, offset, last, rfl⟩ := Token.open_of_scan 0 _ cut
      refine ⟨by simp [odd], fun position => ?_, by simp [odd]⟩
      constructor
      · intro same
        cases same
        exact ⟨odd, by rwa [Nat.zero_add]⟩
      · rintro ⟨-, here⟩
        rw [Nat.zero_add, last.eq_of_isLastQuote here]

/-- The third quote stands behind `title:`. -/
example : Token.ofText "a\"é\" title:\"oops" = .error (.openQuote 12) := by cbv

end Expr

end Triage
