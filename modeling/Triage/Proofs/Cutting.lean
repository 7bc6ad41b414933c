/-
# Triage.Proofs.Cutting -- what the front of a text is cut into

One lemma for every form with an end to look for says what is cut off a text that begins with it: a
word up to a boundary, a quoted text, and `name:value` with a bare or a quoted value.  What a whole
text is cut into is said with `Yields`, which leaves positions out and composes (`Yields.append`).
-/
import Triage.Expr.Token

namespace Triage

open Triage.Text

set_option autoImplicit false

theorem takeWhile_append_stop {p : Char → Bool} {word after : List Char}
    (inside : ∀ c ∈ word, p c = true) (stop : ∀ c ∈ after.head?, p c = false) :
    (word ++ after).takeWhile p = word := by
  rw [List.takeWhile_append_of_pos inside]
  cases after with
  | nil => simp
  | cons c rest => simp [stop c (by simp)]

theorem dropWhile_append_stop {p : Char → Bool} {word after : List Char}
    (inside : ∀ c ∈ word, p c = true) (stop : ∀ c ∈ after.head?, p c = false) :
    (word ++ after).dropWhile p = after := by
  rw [List.dropWhile_append_of_pos inside]
  cases after with
  | nil => simp
  | cons c rest => simp [stop c (by simp)]

/-- The text is empty or begins with a character that ends a word. -/
def EndsWord (after : List Char) : Prop := ∀ c ∈ after.head?, isBoundary c = true

/-- Every character may stand inside a word. -/
def IsWordPart (text : List Char) : Prop := ∀ c ∈ text, isBoundary c = false

theorem endsWord_nil : EndsWord [] := by
  intro c member
  cases member

theorem endsWord_cons {c : Char} {rest : List Char} (boundary : isBoundary c = true) :
    EndsWord (c :: rest) := by
  intro d member
  cases member
  exact boundary

theorem wordTail_append {word after : List Char} (inside : IsWordPart word)
    (ends : EndsWord after) : wordTail (word ++ after) = word :=
  takeWhile_append_stop (fun c member => by simp [inside c member])
    fun c member => by simp [ends c member]

theorem afterWord_append {word after : List Char} (inside : IsWordPart word)
    (ends : EndsWord after) : afterWord (word ++ after) = after :=
  dropWhile_append_stop (fun c member => by simp [inside c member])
    fun c member => by simp [ends c member]

theorem insideQuotes_append {text : List Char} (absent : '"' ∉ text) (after : List Char) :
    insideQuotes (text ++ '"' :: after) = text :=
  takeWhile_append_stop (fun _ member => decide_eq_true (ne_of_mem_of_not_mem member absent))
    fun c member => by cases member; simp

theorem fromQuote_append {text : List Char} (absent : '"' ∉ text) (after : List Char) :
    fromQuote (text ++ '"' :: after) = '"' :: after :=
  dropWhile_append_stop (fun _ member => decide_eq_true (ne_of_mem_of_not_mem member absent))
    fun c member => by cases member; simp

theorem quote_not_mem_insideQuotes (text : List Char) : '"' ∉ insideQuotes text := by
  intro member
  simpa using List.all_eq_true.mp List.all_takeWhile _ member

/-! ## Words and colons -/

theorem splitColon_eq_none {word : List Char} (absent : ':' ∉ word) : splitColon word = none := by
  cases word with
  | nil => rfl
  | cons c tail =>
      have parts : ':' ≠ c ∧ ':' ∉ tail := by simpa using absent
      have gone : tail.dropWhile (· ≠ ':') = [] := by
        have run : (tail ++ []).dropWhile (· ≠ ':') = [].dropWhile (· ≠ ':') :=
          List.dropWhile_append_of_pos fun _ member =>
            decide_eq_true (ne_of_mem_of_not_mem member parts.2)
        simpa using run
      simp only [splitColon, gone, if_neg (Ne.symm parts.1)]

theorem splitColon_append {c : Char} {tail : List Char} (absent : ':' ∉ c :: tail)
    (value : List Char) : splitColon (c :: tail ++ ':' :: value) = some (c :: tail, value) := by
  have parts : ':' ≠ c ∧ ':' ∉ tail := by simpa using absent
  have all : ∀ d ∈ tail, decide (d ≠ ':') = true := fun _ member =>
    decide_eq_true (ne_of_mem_of_not_mem member parts.2)
  have stop : ∀ d ∈ (':' :: value).head?, decide (d ≠ ':') = false := by
    intro d member
    cases member
    simp
  simp only [List.cons_append, splitColon, dropWhile_append_stop all stop,
    takeWhile_append_stop all stop, if_neg (Ne.symm parts.1)]

/-- The parts of a divided word are what it was. -/
theorem eq_append_of_splitColon {word name value : List Char}
    (divided : splitColon word = some (name, value)) : word = name ++ ':' :: value := by
  cases word with
  | nil => cases divided
  | cons c tail =>
      have parts := List.takeWhile_append_dropWhile (p := (· ≠ ':')) (l := tail)
      simp only [splitColon] at divided
      split at divided
      · cases divided
      · split at divided
        · cases divided
        · next d rest found =>
            have colon : d = ':' := by
              have front := List.head?_dropWhile_not (· ≠ ':') tail
              rw [found] at front
              simpa using front
            cases divided
            rw [found, colon] at parts
            rw [List.cons_append, parts]

/-! ## Single cuts -/

theorem isBlank_eq_false_of_inside {c : Char} (inside : isBoundary c = false) :
    isBlank c = false := by
  simp only [isBoundary, Bool.or_eq_false_iff] at inside
  exact inside.1.1.1

theorem cutToken_eq_cutWord {c : Char} (position : Nat) (rest : List Char)
    (inside : isBoundary c = false) (unmarked : c ∉ operatorMarks) :
    cutToken position c rest = cutWord position c rest := by
  have plain : c ≠ '(' ∧ c ≠ ')' ∧ c ≠ '"' := by
    simp only [isBoundary, Bool.or_eq_false_iff, decide_eq_false_iff_not] at inside
    exact ⟨inside.1.1.2, inside.1.2, inside.2⟩
  have unmarked : c ≠ '-' ∧ c ≠ '!' ∧ c ≠ '|' ∧ c ≠ '&' := by
    simpa [operatorMarks] using unmarked
  simp only [cutToken, plain.1, plain.2.1, plain.2.2, unmarked.1, unmarked.2.1, unmarked.2.2.1,
    unmarked.2.2.2, or_self, if_false]

theorem cutQuoted_append (position : Nat) {text : List Char} (absent : '"' ∉ text)
    (after : List Char) :
    ∃ cut, cutQuoted position '"' (text ++ '"' :: after) = .ok cut ∧
      cut.token = .quoted (String.ofList text) ∧ cut.taken = '"' :: text ++ ['"'] ∧
      cut.left = after := by
  have closed := fromQuote_append absent after
  have inside := insideQuotes_append absent after
  unfold cutQuoted
  split
  · next none => simp [closed] at none
  · next quote left found =>
      obtain ⟨rfl, rfl⟩ := List.cons.inj (closed.symm.trans found)
      exact ⟨_, rfl, congrArg (fun t => Token.quoted (String.ofList t)) inside,
        congrArg (fun t => '"' :: t ++ ['"']) inside, rfl⟩

/-- A word that is not divided, up to the boundary that ends it. -/
theorem cutWord_plain (position : Nat) {c : Char} {word after : List Char}
    (inside : IsWordPart word) (ends : EndsWord after) (undivided : splitColon (c :: word) = none) :
    ∃ cut, cutWord position c (word ++ after) = .ok cut ∧ cut.token = .ofWord (c :: word) ∧
      cut.taken = c :: word ∧ cut.left = after := by
  have tail := wordTail_append inside ends
  have whole : splitColon (c :: wordTail (word ++ after)) = none := by rw [tail, undivided]
  simp only [cutWord, whole]
  exact ⟨_, rfl, congrArg (fun t => Token.ofWord (c :: t)) tail, congrArg (c :: ·) tail,
    afterWord_append inside ends⟩

/-- `name:value` with a bare value, up to the boundary that ends it; an empty value takes quotes if
they follow. -/
theorem cutWord_bare (position : Nat) {c : Char} {word name value after : List Char}
    (inside : IsWordPart word) (ends : EndsWord after)
    (divided : splitColon (c :: word) = some (name, value))
    (unquoted : value = [] → '"' ∉ after.head?) :
    ∃ cut, cutWord position c (word ++ after) = .ok cut ∧
      cut.token = .qualifier (String.ofList name) (String.ofList value) false ∧
      cut.taken = c :: word ∧ cut.left = after := by
  have tail := wordTail_append inside ends
  have behind := afterWord_append inside ends
  have whole : splitColon (c :: wordTail (word ++ after)) = some (name, value) := by
    rw [tail, divided]
  cases value with
  | cons d more =>
      simp only [cutWord, whole]
      exact ⟨_, rfl, rfl, congrArg (c :: ·) tail, behind⟩
  | nil =>
      simp only [cutWord, whole]
      split
      · exact ⟨_, rfl, rfl, congrArg (c :: ·) tail, behind⟩
      · next d rest found =>
          have other : d ≠ '"' := by
            rintro rfl
            exact unquoted rfl (by rw [← behind, found]; rfl)
          rw [if_neg other]
          exact ⟨_, rfl, rfl, congrArg (c :: ·) tail, behind⟩

/-- `name:` and a quoted value right after it. -/
theorem cutWord_quoted (position : Nat) {c : Char} {word name text : List Char}
    (inside : IsWordPart word) (divided : splitColon (c :: word) = some (name, []))
    (noQuote : '"' ∉ text) (after : List Char) :
    ∃ cut, cutWord position c (word ++ '"' :: (text ++ '"' :: after)) = .ok cut ∧
      cut.token = .qualifier (String.ofList name) (String.ofList text) true ∧
      cut.taken = c :: word ++ '"' :: (text ++ ['"']) ∧ cut.left = after := by
  have ends : EndsWord ('"' :: (text ++ '"' :: after)) := endsWord_cons (by decide)
  have tail := wordTail_append inside ends
  have whole : splitColon (c :: wordTail (word ++ '"' :: (text ++ '"' :: after))) =
      some (name, []) := by rw [tail, divided]
  simp only [cutWord, whole]
  split
  · next none =>
      rw [afterWord_append inside ends] at none
      cases none
  · next next rest found =>
      rw [afterWord_append inside ends] at found
      obtain ⟨rfl, rfl⟩ := List.cons.inj found
      obtain ⟨cut, done, token, taken, left⟩ := cutQuoted_append
        (position + byteLength (c :: wordTail (word ++ '"' :: (text ++ '"' :: after))))
        noQuote after
      simp only [if_true, done]
      refine ⟨_, rfl, by rw [insideQuotes_append noQuote], ?_, left⟩
      simp only [tail, taken, List.cons_append]

/-! ## Scanning -/

/-- The tokens of a text, without their positions. -/
def Token.scanned (position : Nat) (text : List Char) : Option (List Token) :=
  (Token.scan position text).toOption.map fun tokens => tokens.map Located.token

/-- In front of `after` the text is cut into these tokens, and `after` is left as it stands. -/
def Yields (text : List Char) (tokens : List Token) (after : List Char) : Prop :=
  ∀ position, Token.scanned position (text ++ after) =
    (Token.scanned (position + byteLength text) after).map (tokens ++ ·)

theorem Token.scanned_nil (position : Nat) : scanned position [] = some [] := by
  rw [scanned, scan]
  rfl

theorem Token.scanned_blank {c : Char} (blank : isBlank c = true) (position : Nat)
    (rest : List Char) : scanned position (c :: rest) = scanned (position + c.utf8Size) rest := by
  rw [scanned, scan, if_pos blank, scanned]

theorem Token.scanned_cut {position : Nat} {c : Char} {rest : List Char} {cut : Cut (c :: rest)}
    (solid : isBlank c = false) (done : cutToken position c rest = .ok cut) :
    scanned position (c :: rest) =
      (scanned (position + byteLength cut.taken) cut.left).map (cut.token :: ·) := by
  rw [scanned, scan, if_neg (by simp [solid]), done, scanned]
  cases more : scan (position + byteLength cut.taken) cut.left with
  | error e => simp only [more]; rfl
  | ok tokens => simp only [more]; rfl

theorem Yields.append {a b after : List Char} {us vs : List Token}
    (first : Yields a us (b ++ after)) (second : Yields b vs after) :
    Yields (a ++ b) (us ++ vs) after := by
  intro position
  rw [List.append_assoc, first position, second, Option.map_map, byteLength_append, Nat.add_assoc]
  congr 1
  funext tokens
  simp

theorem yields_nil (after : List Char) : Yields [] [] after := by
  intro position
  simp

theorem yields_blank {c : Char} (blank : isBlank c = true) (after : List Char) :
    Yields [c] [] after := by
  intro position
  rw [List.singleton_append, Token.scanned_blank blank]
  simp

theorem yields_of_cut {c : Char} {text after : List Char} {token : Token}
    (solid : isBlank c = false)
    (cuts : ∀ position, ∃ cut, cutToken position c (text ++ after) = .ok cut ∧
      cut.token = token ∧ cut.taken = c :: text ∧ cut.left = after) :
    Yields (c :: text) [token] after := by
  intro position
  obtain ⟨cut, done, rfl, taken, left⟩ := cuts position
  rw [List.cons_append, Token.scanned_cut solid done, taken, left]
  rfl

end Triage
