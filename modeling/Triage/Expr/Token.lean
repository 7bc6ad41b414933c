/-
# Triage.Expr.Token -- the tokens of an expression

A text is cut into tokens from left to right: brackets, operators, words, quoted texts, and
qualifiers `name:value` whose value may stand in quotes. Blanks separate tokens and belong to none.
Each token keeps the byte offset at which it starts. `Cut` says in its type that a cut token is
not empty and that nothing of the text is lost; cutting a text ends because what is left is
shorter (`Cut.left_length_lt`).
-/
import Triage.Qualifier
import Triage.Text.Bytes
import Triage.Expr.ReadError

namespace Triage

open Triage.Text

set_option autoImplicit false

inductive Token where
  | opening
  | closing
  | and
  | or
  | not
  | word (text : String)
  | quoted (text : String)
  /-- `quotes` tells whether the value stands in quotes. -/
  | qualifier (name value : String) (quotes : Bool)
deriving DecidableEq

/-- A token and the byte offset of its first character. -/
structure Located where
  token : Token
  position : Nat
deriving DecidableEq

namespace Token

/-- How messages show the token. -/
def shown : Token → String
  | .opening => "("
  | .closing => ")"
  | .and => "AND"
  | .or => "OR"
  | .not => "NOT"
  | .word text => text
  | .quoted text => s!"\"{text}\""
  | .qualifier name value _ => s!"{name}:{value}"

/-- Whether an operand may begin with the token. -/
def beginsOperand : Token → Bool
  | .opening | .not | .word _ | .quoted _ | .qualifier .. => true
  | .closing | .and | .or => false

/-- The token of a word without a colon: an operator, or the word itself. -/
def ofWord (word : List Char) : Token :=
  if word = ['A', 'N', 'D'] then .and
  else if word = ['O', 'R'] then .or
  else if word = ['N', 'O', 'T'] then .not
  else .word (String.ofList word)

end Token

/-- The first token of a text: the characters it takes, and the text left after it. -/
structure Cut (text : List Char) where
  token : Token
  taken : List Char
  left : List Char
  taken_append_left : taken ++ left = text
  taken_ne_nil : taken ≠ []

theorem Cut.left_length_lt {text : List Char} (cut : Cut text) :
    cut.left.length < text.length := by
  have whole := congrArg List.length cut.taken_append_left
  have := List.length_pos_iff.mpr cut.taken_ne_nil
  rw [List.length_append] at whole
  omega

/-- The characters up to the next quote. -/
def insideQuotes (text : List Char) : List Char := text.takeWhile (· ≠ '"')

/-- The next quote, and what follows it. -/
def fromQuote (text : List Char) : List Char := text.dropWhile (· ≠ '"')

theorem inside_append_from (text : List Char) : insideQuotes text ++ fromQuote text = text :=
  List.takeWhile_append_dropWhile

/-- The rest of a word after its first character. -/
def wordTail (text : List Char) : List Char := text.takeWhile (!isBoundary ·)

def afterWord (text : List Char) : List Char := text.dropWhile (!isBoundary ·)

theorem tail_append_after (text : List Char) : wordTail text ++ afterWord text = text :=
  List.takeWhile_append_dropWhile

/-- The name and the value of a word with a colon inside it. A colon in front is plain text, and
makes the whole word plain. -/
def splitColon (word : List Char) : Option (List Char × List Char) :=
  match word with
  | [] => none
  | c :: tail =>
    if c = ':' then none
    else match tail.dropWhile (· ≠ ':') with
      | [] => none
      | _ :: value => some (c :: tail.takeWhile (· ≠ ':'), value)

/-- Cuts the first character off as a token. -/
def cutSingle (token : Token) (c : Char) (rest : List Char) : Cut (c :: rest) :=
  ⟨token, [c], rest, rfl, by simp⟩

/-- Cuts an operator mark that may be doubled. -/
def cutDoubled (token : Token) (c : Char) : (rest : List Char) → Cut (c :: rest)
  | [] => cutSingle token c []
  | d :: left =>
    if d = c then ⟨token, [c, d], left, rfl, by simp⟩ else cutSingle token c (d :: left)

/-- Cuts a quoted text; `quote` is the opening quote, at `position`. -/
def cutQuoted (position : Nat) (quote : Char) (rest : List Char) :
    Except ReadError (Cut (quote :: rest)) :=
  match h : fromQuote rest with
  | [] => .error (.openQuote position)
  | closing :: left =>
    .ok {
      token := .quoted (String.ofList (insideQuotes rest))
      taken := quote :: insideQuotes rest ++ [closing]
      left := left
      taken_append_left := by simpa [h] using inside_append_from rest
      taken_ne_nil := by simp }

/-- Cuts a word that begins with `c`, or a qualifier; a qualifier whose value is empty goes on with
a quoted text if one follows at once. -/
def cutWord (position : Nat) (c : Char) (rest : List Char) : Except ReadError (Cut (c :: rest)) :=
  let word := c :: wordTail rest
  have whole : word ++ afterWord rest = c :: rest := by simp [word, tail_append_after]
  let cutHere (token : Token) : Cut (c :: rest) :=
    ⟨token, word, afterWord rest, whole, by simp [word]⟩
  match splitColon word with
  | none => .ok (cutHere (.ofWord word))
  | some (name, []) =>
    match h : afterWord rest with
    | [] => .ok (cutHere (.qualifier (String.ofList name) "" false))
    | next :: text =>
      if next = '"' then
        match cutQuoted (position + byteLength word) next text with
        | .error e => .error e
        | .ok quoted =>
          .ok {
            token := .qualifier (String.ofList name) (String.ofList (insideQuotes text)) true
            taken := word ++ quoted.taken
            left := quoted.left
            taken_append_left := by
              rw [List.append_assoc, quoted.taken_append_left, ← h, whole]
            taken_ne_nil := by simp [word] }
      else .ok (cutHere (.qualifier (String.ofList name) "" false))
  | some (name, value) =>
    .ok (cutHere (.qualifier (String.ofList name) (String.ofList value) false))

/-- Cuts the first token of a text that begins with `c`, which is not blank. -/
def cutToken (position : Nat) (c : Char) (rest : List Char) : Except ReadError (Cut (c :: rest)) :=
  if c = '(' then .ok (cutSingle .opening c rest)
  else if c = ')' then .ok (cutSingle .closing c rest)
  else if c = '|' then .ok (cutDoubled .or c rest)
  else if c = '&' then .ok (cutDoubled .and c rest)
  else if c = '!' ∨ c = '-' then .ok (cutSingle .not c rest)
  else if c = '"' then cutQuoted position c rest
  else cutWord position c rest

/-- The tokens of a text that stands at `position`. -/
def Token.scan (position : Nat) (text : List Char) : Except ReadError (List Located) :=
  match text with
  | [] => .ok []
  | c :: rest =>
    if isBlank c then Token.scan (position + c.utf8Size) rest
    else match cutToken position c rest with
      | .error e => .error e
      | .ok cut =>
        match Token.scan (position + byteLength cut.taken) cut.left with
        | .error e => .error e
        | .ok tokens => .ok (⟨cut.token, position⟩ :: tokens)
termination_by text.length
decreasing_by
  · simp
  · exact cut.left_length_lt

/-- The tokens of a whole text. -/
def Token.ofText (text : String) : Except ReadError (List Located) := Token.scan 0 text.toList

end Triage
