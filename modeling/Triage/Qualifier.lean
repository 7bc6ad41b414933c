/-
# Triage.Qualifier -- the leaves of an expression

A qualifier is a kind and a literal. It is written `kind:literal`, a keyword as its bare text, and
a text stands in quotes where it could not be read as one word otherwise. Nothing ties the type of
the literal to the kind here; `Qualifier.isTyped` says when they agree.
-/
import Triage.Text.Blank
import Triage.Text.Decimal
import Triage.Calendar.Date
import Triage.Comparison
import Triage.Kind

namespace Triage

open Triage.Text

set_option autoImplicit false

inductive Literal where
  | text (text : String)
  | number (comparison : Comparison UInt64)
  | date (comparison : Comparison Date)
deriving DecidableEq

structure Qualifier where
  kind : Kind
  literal : Literal
deriving DecidableEq

/-- The characters that end a word. -/
def isBoundary (c : Char) : Bool := isBlank c || c = '(' || c = ')' || c = '"'

/-- The words that are operators. -/
def operatorWords : List (List Char) := [['A', 'N', 'D'], ['O', 'R'], ['N', 'O', 'T']]

/-- The characters that are, or may begin, an operator at the front of a word. -/
def operatorMarks : List Char := ['-', '!', '|', '&']

/-- Whether a text after a colon needs quotes to be read as one word. -/
def needsQuotes (text : List Char) : Bool := text.isEmpty || text.any isBoundary

/-- Whether a bare text needs quotes to be read as a keyword: it must be one word, not an
operator, and no qualifier. -/
def keywordNeedsQuotes (text : List Char) : Bool :=
  needsQuotes text || text.contains ':' || text.head?.any operatorMarks.contains ||
    operatorWords.contains text

/-- The text, between quotes if it needs them. -/
def quotedIf (quotes : Bool) (text : List Char) : List Char :=
  if quotes then '"' :: text ++ ['"'] else text

namespace Literal

def valueType : Literal → ValueType
  | .text _ => .text
  | .number _ => .number
  | .date _ => .date

def text? : Literal → Option String
  | .text s => some s
  | _ => none

def chars : Literal → List Char
  | .text s => quotedIf (needsQuotes s.toList) s.toList
  | .number comparison => comparison.chars fun n => decimal n.toNat
  | .date comparison => comparison.chars Date.chars

end Literal

namespace Qualifier

/-- The literal has the type that the kind compares with. -/
def isTyped (qualifier : Qualifier) : Bool :=
  decide (qualifier.literal.valueType = qualifier.kind.valueType)

def ofText (kind : Kind) (text : String) : Qualifier := ⟨kind, .text text⟩

def text? (qualifier : Qualifier) : Option String := qualifier.literal.text?

def chars (qualifier : Qualifier) : List Char :=
  match qualifier with
  | ⟨.keyword, .text s⟩ => quotedIf (keywordNeedsQuotes s.toList) s.toList
  | ⟨kind, literal⟩ => kind.name.toList ++ ':' :: literal.chars

end Qualifier

end Triage
