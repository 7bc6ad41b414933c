/-
# Triage.Proofs.TokenForms -- how tokens stand in a text

`Written taken token left` lists the forms in which a token may stand in front of `left`.  What
follows a token matters in three ways only: a word goes on to a boundary, a mark may be doubled,
and an empty value may be followed by quotes.  Cutting the first token off a text finds the form in
which it begins (`written_of_cutToken`), and every form is cut off (`Written.cut`).  Main
statements: `Token.scan_quoteFree`, no token of any text holds a quote, and `yields_of_scan`, a text
that can be cut alone is cut into the same tokens in front of a boundary that opens no quotes,
wherever it stands.
-/
import Triage.Proofs.Cutting

namespace Triage

open Triage.Text

set_option autoImplicit false

/-- A text that is cut as a word: no boundary stands in it and no operator mark in front. -/
def IsWord (word : List Char) : Prop :=
  IsWordPart word ∧ ∃ c ∈ word.head?, c ∉ operatorMarks

/-- The operators whose mark may be doubled. -/
def IsDoubling (mark : Char) (token : Token) : Prop :=
  (mark = '|' ∧ token = .or) ∨ (mark = '&' ∧ token = .and)

/-- The token stands as `taken` in front of `left`. -/
inductive Written : List Char → Token → List Char → Prop
  | opening {left : List Char} : Written ['('] .opening left
  | closing {left : List Char} : Written [')'] .closing left
  | not {mark : Char} {left : List Char} : mark = '!' ∨ mark = '-' → Written [mark] .not left
  | single {mark : Char} {token : Token} {left : List Char} :
      IsDoubling mark token → mark ∉ left.head? → Written [mark] token left
  | doubled {mark : Char} {token : Token} {left : List Char} :
      IsDoubling mark token → Written [mark, mark] token left
  | quoted {text left : List Char} :
      '"' ∉ text → Written ('"' :: (text ++ ['"'])) (.quoted (String.ofList text)) left
  | word {word left : List Char} :
      IsWord word → splitColon word = none → EndsWord left → Written word (.ofWord word) left
  | bare {word name value left : List Char} :
      IsWord word → splitColon word = some (name, value) → EndsWord left →
      (value = [] → '"' ∉ left.head?) →
      Written word (.qualifier (String.ofList name) (String.ofList value) false) left
  | named {word name text left : List Char} :
      IsWord word → splitColon word = some (name, []) → '"' ∉ text →
      Written (word ++ '"' :: (text ++ ['"']))
        (.qualifier (String.ofList name) (String.ofList text) true) left

theorem IsDoubling.isBoundary_eq_false {mark : Char} {token : Token}
    (doubling : IsDoubling mark token) : isBoundary mark = false := by
  rcases doubling with ⟨rfl, -⟩ | ⟨rfl, -⟩ <;> decide

/-! ## Cutting finds the form -/

theorem isWordPart_wordTail (rest : List Char) : IsWordPart (wordTail rest) := by
  intro c member
  simpa using List.all_eq_true.mp List.all_takeWhile _ member

theorem endsWord_afterWord (rest : List Char) : EndsWord (afterWord rest) := by
  intro c member
  have front := List.head?_dropWhile_not (!isBoundary ·) rest
  rw [show rest.dropWhile (!isBoundary ·) = afterWord rest from rfl, Option.mem_def.mp member]
    at front
  simpa using front

section Cut

variable {position : Nat} {c : Char} {rest : List Char} {cut : Cut (c :: rest)}

theorem written_of_cutQuoted (quote : c = '"') (done : cutQuoted position c rest = .ok cut) :
    cut.token = .quoted (String.ofList (insideQuotes rest)) ∧
      cut.taken = '"' :: (insideQuotes rest ++ ['"']) := by
  subst quote
  unfold cutQuoted at done
  split at done
  · cases done
  · next closing left found =>
      cases done
      have front := List.head?_dropWhile_not (· ≠ '"') rest
      rw [show rest.dropWhile (· ≠ '"') = closing :: left from found] at front
      obtain rfl : closing = '"' := by simpa using front
      exact ⟨rfl, rfl⟩

theorem written_of_cutWord (inside : isBoundary c = false) (unmarked : c ∉ operatorMarks)
    (done : cutWord position c rest = .ok cut) : Written cut.taken cut.token cut.left := by
  have word : IsWord (c :: wordTail rest) :=
    ⟨List.forall_mem_cons.mpr ⟨inside, isWordPart_wordTail rest⟩, c, rfl, unmarked⟩
  have ends := endsWord_afterWord rest
  cases divided : splitColon (c :: wordTail rest) with
  | none =>
      simp only [cutWord, divided] at done
      cases done
      exact .word word divided ends
  | some parts =>
      obtain ⟨name, value⟩ := parts
      cases value with
      | cons d more =>
          simp only [cutWord, divided] at done
          cases done
          exact .bare word divided ends fun empty => absurd empty (List.cons_ne_nil d more)
      | nil =>
          simp only [cutWord, divided] at done
          split at done
          · next nothing =>
              cases done
              exact .bare word divided ends fun _ => by simp [nothing]
          · next d text found =>
              split at done
              · next quote =>
                  split at done
                  · cases done
                  · next quoted inner =>
                      cases done
                      obtain ⟨-, taken⟩ := written_of_cutQuoted quote inner
                      simp only [taken]
                      exact .named word divided (quote_not_mem_insideQuotes text)
              · next other =>
                  cases done
                  refine .bare word divided ends fun _ => ?_
                  simpa [found] using other

theorem written_of_cutDoubled {token : Token} (doubling : IsDoubling c token) (rest : List Char) :
    Written (cutDoubled token c rest).taken (cutDoubled token c rest).token
      (cutDoubled token c rest).left := by
  cases rest with
  | nil => exact .single doubling (by simp [cutDoubled, cutSingle])
  | cons d more =>
      rw [cutDoubled]
      split
      · next same =>
          subst same
          exact .doubled doubling
      · next other => exact .single doubling (by simpa [cutSingle] using other)

/-- The token that is cut off stands in front of what is left. -/
theorem written_of_cutToken (solid : isBlank c = false)
    (done : cutToken position c rest = .ok cut) : Written cut.taken cut.token cut.left := by
  unfold cutToken at done
  split at done
  · next opening =>
      cases done
      rw [cutSingle, opening]
      exact .opening
  · split at done
    · next closing =>
        cases done
        rw [cutSingle, closing]
        exact .closing
    · split at done
      · next bar =>
          cases done
          exact written_of_cutDoubled (.inl ⟨bar, rfl⟩) rest
      · split at done
        · next ampersand =>
            cases done
            exact written_of_cutDoubled (.inr ⟨ampersand, rfl⟩) rest
        · split at done
          · next mark =>
              cases done
              exact .not mark
          · split at done
            · next quote =>
                obtain ⟨token, taken⟩ := written_of_cutQuoted quote done
                rw [token, taken]
                exact .quoted (quote_not_mem_insideQuotes rest)
            · next open_ close bar ampersand mark quote =>
                have inside : isBoundary c = false := by
                  simp [isBoundary, solid, open_, close, quote]
                have unmarked : c ∉ operatorMarks := by
                  simp only [not_or] at mark
                  simp [operatorMarks, bar, ampersand, mark.1, mark.2]
                exact written_of_cutWord inside unmarked done

end Cut

/-! ## Every form is cut -/

theorem cutDoubled_single {token : Token} {mark : Char} {left : List Char}
    (other : mark ∉ left.head?) : cutDoubled token mark left = cutSingle token mark left := by
  cases left with
  | nil => rfl
  | cons d more =>
      have unlike : d ≠ mark := by simpa using other
      rw [cutDoubled, if_neg unlike]

theorem cutToken_of_doubling {mark : Char} {token : Token} (doubling : IsDoubling mark token)
    (position : Nat) (rest : List Char) :
    cutToken position mark rest = .ok (cutDoubled token mark rest) := by
  rcases doubling with ⟨rfl, rfl⟩ | ⟨rfl, rfl⟩ <;> rfl

theorem IsWord.cutToken_eq {word : List Char} (plain : IsWord word) :
    ∃ c text, word = c :: text ∧ IsWordPart text ∧ isBlank c = false ∧
      ∀ position rest, cutToken position c rest = cutWord position c rest := by
  obtain ⟨inside, c, front, unmarked⟩ := plain
  cases word with
  | nil => cases front
  | cons d text =>
      cases front
      obtain ⟨first, others⟩ := List.forall_mem_cons.mp inside
      exact ⟨c, text, rfl, others, isBlank_eq_false_of_inside first,
        fun position rest => cutToken_eq_cutWord position rest first unmarked⟩

namespace Written

variable {taken left : List Char} {token : Token}

/-- A token is cut off wherever it stands in one of its forms. -/
theorem cut (written : Written taken token left) :
    ∃ c text, taken = c :: text ∧ isBlank c = false ∧
      ∀ position, ∃ cut, cutToken position c (text ++ left) = .ok cut ∧
        cut.token = token ∧ cut.taken = c :: text ∧ cut.left = left := by
  cases written with
  | opening => exact ⟨'(', [], rfl, by decide, fun _ => ⟨_, rfl, rfl, rfl, rfl⟩⟩
  | closing => exact ⟨')', [], rfl, by decide, fun _ => ⟨_, rfl, rfl, rfl, rfl⟩⟩
  | not mark =>
      rcases mark with rfl | rfl <;>
        exact ⟨_, [], rfl, by decide, fun _ => ⟨_, rfl, rfl, rfl, rfl⟩⟩
  | @single mark token left doubling other =>
      refine ⟨mark, [], rfl, isBlank_eq_false_of_inside doubling.isBoundary_eq_false,
        fun position => ?_⟩
      rw [List.nil_append, cutToken_of_doubling doubling, cutDoubled_single other]
      exact ⟨_, rfl, rfl, rfl, rfl⟩
  | @doubled mark token left doubling =>
      refine ⟨mark, [mark], rfl, isBlank_eq_false_of_inside doubling.isBoundary_eq_false,
        fun position => ?_⟩
      rw [List.singleton_append, cutToken_of_doubling doubling, cutDoubled, if_pos rfl]
      exact ⟨_, rfl, rfl, rfl, rfl⟩
  | @quoted text left absent =>
      refine ⟨'"', text ++ ['"'], rfl, by decide, fun position => ?_⟩
      rw [List.append_assoc, List.singleton_append]
      exact cutQuoted_append position absent left
  | word plain undivided ends =>
      obtain ⟨c, text, rfl, inside, solid, same⟩ := plain.cutToken_eq
      refine ⟨c, text, rfl, solid, fun position => ?_⟩
      rw [same]
      exact cutWord_plain position inside ends undivided
  | bare plain divided ends unquoted =>
      obtain ⟨c, text, rfl, inside, solid, same⟩ := plain.cutToken_eq
      refine ⟨c, text, rfl, solid, fun position => ?_⟩
      rw [same]
      exact cutWord_bare position inside ends divided unquoted
  | @named _ _ value left plain divided absent =>
      obtain ⟨c, text, rfl, inside, solid, same⟩ := plain.cutToken_eq
      refine ⟨c, text ++ '"' :: (value ++ ['"']), rfl, solid, fun position => ?_⟩
      have shape : text ++ '"' :: (value ++ ['"']) ++ left =
          text ++ '"' :: (value ++ '"' :: left) := by simp
      rw [same, shape]
      exact cutWord_quoted position inside divided absent left

theorem yields (written : Written taken token left) : Yields taken [token] left := by
  obtain ⟨c, text, rfl, solid, cuts⟩ := written.cut
  exact yields_of_cut solid cuts

end Written

/-! ## Names and values -/

section Named

variable {name text after : List Char}

theorem IsWord.append (named : IsWord name) (inside : IsWordPart text) : IsWord (name ++ text) := by
  obtain ⟨part, c, front, unmarked⟩ := named
  have first : c ∈ (name ++ text).head? := by
    rw [List.head?_append, Option.mem_def.mp front]
    rfl
  exact ⟨List.forall_mem_append.mpr ⟨part, inside⟩, c, first, unmarked⟩

theorem IsWord.splitColon_append (named : IsWord name) (absent : ':' ∉ name) (value : List Char) :
    splitColon (name ++ ':' :: value) = some (name, value) := by
  obtain ⟨c, tail, rfl, -⟩ := named.cutToken_eq
  exact Triage.splitColon_append absent value

theorem yields_word {word : List Char} (plain : IsWord word) (absent : ':' ∉ word)
    (ends : EndsWord after) : Yields word [.ofWord word] after :=
  (Written.word plain (splitColon_eq_none absent) ends).yields

theorem yields_bare (named : IsWord name) (absent : ':' ∉ name) (inside : IsWordPart text)
    (present : text ≠ []) (ends : EndsWord after) :
    Yields (name ++ ':' :: text) [.qualifier (String.ofList name) (String.ofList text) false]
      after := by
  have whole : IsWord (name ++ ':' :: text) :=
    named.append (List.forall_mem_cons.mpr ⟨by decide, inside⟩)
  exact (Written.bare whole (named.splitColon_append absent text) ends
    fun empty => absurd empty present).yields

theorem yields_named (named : IsWord name) (absent : ':' ∉ name) (noQuote : '"' ∉ text) :
    Yields (name ++ ':' :: '"' :: (text ++ ['"']))
      [.qualifier (String.ofList name) (String.ofList text) true] after := by
  have whole : IsWord (name ++ [':']) := named.append (List.forall_mem_singleton.mpr (by decide))
  have written : Written _ _ after := .named whole (named.splitColon_append absent []) noQuote
  rw [List.append_assoc, List.singleton_append] at written
  exact written.yields

end Named

/-! ## Tokens without quotes -/

/-- No text of the token holds a quote. -/
def Token.QuoteFree : Token → Prop
  | .word text | .quoted text => '"' ∉ text.toList
  | .qualifier name value _ => '"' ∉ name.toList ∧ '"' ∉ value.toList
  | .opening | .closing | .and | .or | .not => True

theorem Token.ofWord_quoteFree {word : List Char} (absent : '"' ∉ word) :
    (ofWord word).QuoteFree := by
  unfold ofWord
  split
  · trivial
  · split
    · trivial
    · split
      · trivial
      · simpa [QuoteFree] using absent

theorem IsWordPart.quote_not_mem {word : List Char} (inside : IsWordPart word) : '"' ∉ word := by
  intro member
  have := inside _ member
  cases this

/-- No part of a divided word holds a quote. -/
theorem IsWordPart.quote_not_mem_parts {word name value : List Char} (inside : IsWordPart word)
    (divided : splitColon word = some (name, value)) : '"' ∉ name ∧ '"' ∉ value := by
  have absent := inside.quote_not_mem
  rw [eq_append_of_splitColon divided] at absent
  simp only [List.mem_append, List.mem_cons, not_or] at absent
  exact ⟨absent.1, absent.2.2⟩

theorem Written.quoteFree {taken left : List Char} {token : Token}
    (written : Written taken token left) : token.QuoteFree := by
  cases written with
  | opening | closing | not => trivial
  | single doubling | doubled doubling => rcases doubling with ⟨-, rfl⟩ | ⟨-, rfl⟩ <;> trivial
  | quoted absent => simpa [Token.QuoteFree] using absent
  | word plain => exact Token.ofWord_quoteFree plain.1.quote_not_mem
  | bare plain divided => simpa [Token.QuoteFree] using plain.1.quote_not_mem_parts divided
  | named plain divided noQuote =>
      simpa [Token.QuoteFree] using And.intro (plain.1.quote_not_mem_parts divided).1 noQuote

/-- No token of any text holds a quote. -/
theorem Token.scan_quoteFree (position : Nat) (text : List Char) {tokens : List Located}
    (scanned : scan position text = .ok tokens) : ∀ located ∈ tokens, located.token.QuoteFree := by
  fun_induction scan position text generalizing tokens with
  | case1 =>
      cases scanned
      simp
  | case2 position c rest blank ih => exact ih scanned
  | case3 => cases scanned
  | case4 => cases scanned
  | case5 position c rest solid cut done more found ih =>
      cases scanned
      intro located member
      rcases List.mem_cons.mp member with rfl | later
      · exact (written_of_cutToken (Bool.eq_false_iff.mpr solid) done).quoteFree
      · exact ih found located later

/-! ## In front of a boundary -/

/-- What stands in front ends here: at the end of the text, or at a boundary that opens no
quotes. -/
def Closes (after : List Char) : Prop := ∀ c ∈ after.head?, isBoundary c = true ∧ c ≠ '"'

theorem closes_cons {c : Char} {rest : List Char} (boundary : isBoundary c = true)
    (unquoted : c ≠ '"') : Closes (c :: rest) := by
  intro d member
  cases member
  exact ⟨boundary, unquoted⟩

namespace Closes

variable {after : List Char}

theorem endsWord (closes : Closes after) : EndsWord after := fun c member => (closes c member).1

/-- A character that is no boundary, or a quote, is not the first of what follows. -/
theorem not_mem_head {c : Char} (closes : Closes after)
    (inside : isBoundary c = false ∨ c = '"') : c ∉ after.head? := by
  intro member
  obtain ⟨boundary, unquoted⟩ := closes c member
  rcases inside with inside | quote
  · rw [inside] at boundary
    cases boundary
  · exact unquoted quote

/-- What does not stand in front of the text that is left does not stand in front of more of it. -/
theorem not_mem_head_append {c : Char} {left : List Char} (closes : Closes after)
    (inside : isBoundary c = false ∨ c = '"') (absent : c ∉ left.head?) :
    c ∉ (left ++ after).head? := by
  cases left with
  | nil => exact closes.not_mem_head inside
  | cons d more => exact absent

end Closes

theorem EndsWord.append {left after : List Char} (ends : EndsWord left) (closes : Closes after) :
    EndsWord (left ++ after) := by
  cases left with
  | nil => exact closes.endsWord
  | cons d more => exact ends

/-- A token keeps its form when more text follows behind a boundary. -/
theorem Written.append {taken left after : List Char} {token : Token}
    (written : Written taken token left) (closes : Closes after) :
    Written taken token (left ++ after) := by
  cases written with
  | opening => exact .opening
  | closing => exact .closing
  | not mark => exact .not mark
  | single doubling other =>
      have inside := doubling.isBoundary_eq_false
      exact .single doubling (closes.not_mem_head_append (.inl inside) other)
  | doubled doubling => exact .doubled doubling
  | quoted absent => exact .quoted absent
  | word plain undivided ends => exact .word plain undivided (ends.append closes)
  | bare plain divided ends unquoted =>
      exact .bare plain divided (ends.append closes) fun empty =>
        closes.not_mem_head_append (.inr rfl) (unquoted empty)
  | named plain divided absent => exact .named plain divided absent

/-- A text that is cut alone is cut into the same tokens in front of more text behind a
boundary. -/
theorem yields_of_scan (position : Nat) (text : List Char) {tokens : List Located}
    (scanned : Token.scan position text = .ok tokens) {after : List Char} (closes : Closes after) :
    Yields text (tokens.map Located.token) after := by
  fun_induction Token.scan position text generalizing tokens with
  | case1 =>
      cases scanned
      exact yields_nil after
  | case2 position c rest blank ih =>
      have behind := yields_blank blank (rest ++ after)
      exact behind.append (ih scanned)
  | case3 => cases scanned
  | case4 => cases scanned
  | case5 position c rest solid cut done more found ih =>
      cases scanned
      have written := written_of_cutToken (Bool.eq_false_iff.mpr solid) done
      have front : Yields cut.taken [cut.token] (cut.left ++ after) :=
        (written.append closes).yields
      have whole := front.append (ih found)
      rwa [cut.taken_append_left] at whole

end Triage
