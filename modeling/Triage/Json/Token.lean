/-
# Triage.Json.Token -- the tokens of a JSON text

Brackets, commas, colons, literals. Numbers and strings are cut off by the automata of their
grammars; a string may not hold a control character, and its escapes must be complete. Main
statement: `Token.cut_length_lt`, cutting a token leaves a shorter text.
-/
import Triage.Json.Spelling
import Triage.Text.Automaton

namespace Triage.Json

open Triage.Text

set_option autoImplicit false

inductive Token where
  | beginArray
  | endArray
  | beginObject
  | endObject
  | comma
  | colon
  | null
  | bool (value : Bool)
  | number (spelling : List Char)
  | string (spelling : List Char)
deriving DecidableEq

/-! ## Numbers -/

/-- How far a number has come. -/
inductive NumberState where
  | start
  | sign
  | zero
  | whole
  | point
  | fraction
  | exponent
  | exponentSign
  | exponentDigits
deriving DecidableEq

namespace NumberState

/-- The state after one more character. No digit follows a leading zero. -/
def step : NumberState → Char → Option NumberState
  | .start, c => if c = '-' then some .sign else first c
  | .sign, c => first c
  | .zero, c => afterWhole c
  | .whole, c => if c.isDigit then some .whole else afterWhole c
  | .point, c => if c.isDigit then some .fraction else none
  | .fraction, c => if c.isDigit then some .fraction else afterFraction c
  | .exponent, c =>
    if c.isDigit then some .exponentDigits
    else if c = '+' ∨ c = '-' then some .exponentSign
    else none
  | .exponentSign, c => if c.isDigit then some .exponentDigits else none
  | .exponentDigits, c => if c.isDigit then some .exponentDigits else none
where
  first (c : Char) : Option NumberState :=
    if c = '0' then some .zero else if c.isDigit then some .whole else none
  afterFraction (c : Char) : Option NumberState :=
    if c = 'e' ∨ c = 'E' then some .exponent else none
  afterWhole (c : Char) : Option NumberState :=
    if c = '.' then some .point else afterFraction c

/-- Whether a number may end here. -/
def isComplete : NumberState → Bool
  | .zero | .whole | .fraction | .exponentDigits => true
  | _ => false

end NumberState

/-! ## Strings -/

/-- Where a string has come to after its opening quote. -/
inductive StringState where
  | inside
  | escape
  /-- So many hexadecimal digits of an escape are to come. -/
  | digits (missing : Nat)
  | closed
deriving DecidableEq

def StringState.step : StringState → Char → Option StringState
  | .inside, c =>
    if c = '"' then some .closed
    else if c = '\\' then some .escape
    else if c.toNat < 0x20 then none
    else some .inside
  | .escape, c =>
    if c = 'u' then some (.digits 3)
    else if (shortEscape? c).isSome then some .inside
    else none
  | .digits missing, c =>
    if (hexValue? c).isSome then
      match missing with
      | 0 => some .inside
      | missing + 1 => some (.digits missing)
    else none
  | .closed, _ => none

/-! ## Tokens -/

namespace Token

/-- The token that begins with `c`, and the text after it. -/
def cut (c : Char) (rest : List Char) : Option (Token × List Char) :=
  match c, rest with
  | '[', rest => some (.beginArray, rest)
  | ']', rest => some (.endArray, rest)
  | '{', rest => some (.beginObject, rest)
  | '}', rest => some (.endObject, rest)
  | ',', rest => some (.comma, rest)
  | ':', rest => some (.colon, rest)
  | 'n', 'u' :: 'l' :: 'l' :: rest => some (.null, rest)
  | 't', 'r' :: 'u' :: 'e' :: rest => some (.bool true, rest)
  | 'f', 'a' :: 'l' :: 's' :: 'e' :: rest => some (.bool false, rest)
  | '"', rest =>
    let body := run StringState.step .inside rest
    if body.state = .closed then some (.string body.taken.dropLast, body.left) else none
  | c, rest =>
    match NumberState.step .start c with
    | none => none
    | some state =>
      let digits := run NumberState.step state rest
      if digits.state.isComplete then some (.number (c :: digits.taken), digits.left) else none

theorem cut_length_lt {c : Char} {rest : List Char} {token : Token} {left : List Char}
    (h : cut c rest = some (token, left)) : left.length < rest.length + 1 := by
  unfold cut at h
  split at h
  case h_10 =>
    dsimp only at h
    split at h
    · cases h
      exact Nat.lt_succ_of_le (Run.left_length_le ..)
    · cases h
  case h_11 =>
    split at h
    · cases h
    · dsimp only at h
      split at h
      · cases h
        exact Nat.lt_succ_of_le (Run.left_length_le ..)
      · cases h
  all_goals cases h; grind

end Token

end Triage.Json
