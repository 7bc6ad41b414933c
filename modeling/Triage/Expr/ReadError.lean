/-
# Triage.Expr.ReadError -- why a text is no expression

Each constructor is one cause, with the values its message names; `ReadError.message` holds the
wording. Positions are byte offsets into the text.
-/
import Triage.Kind

namespace Triage

set_option autoImplicit false

/-- The deepest nesting an expression may have: of open `NOT`s and brackets while it is read, and
of operators in its tree. -/
def maxDepth : Nat := 256

/-- What is wrong with the text of a literal. -/
inductive LiteralFault where
  /-- Nothing follows the colon. -/
  | missing
  | notNumber (text : String)
  | notDate (text : String)
deriving DecidableEq

/-- What was still to come when the text ended. -/
inductive Wanted where
  | operand
  | closing
deriving DecidableEq

inductive ReadError where
  /-- The text holds no token. -/
  | nothing
  | unknownKind (name : String)
  | badLiteral (kind : Kind) (fault : LiteralFault)
  | unexpected (found : String) (position : Nat)
  | ended (wanted : Wanted)
  /-- A quote is opened and not closed. -/
  | openQuote (position : Nat)
  | tooDeep (position : Nat)
deriving DecidableEq

def LiteralFault.message : LiteralFault → String
  | .missing => "missing value"
  | .notNumber text => s!"'{text}' is not a number like 5, >5, <=5 or 3..9"
  | .notDate text =>
    s!"'{text}' is not a date like 2024-01-01, >2024-01-01 or 2024-01-01..2024-02-01"

def Wanted.message : Wanted → String
  | .operand => "expected a qualifier, keyword or '('"
  | .closing => "missing closing ')'"

def ReadError.message : ReadError → String
  | .nothing => "empty filter expression"
  | .unknownKind name =>
    s!"unknown qualifier: '{name}'\n  hint: valid qualifiers are: {Kind.offered}"
  | .badLiteral kind fault => s!"invalid value for {kind.name}: {fault.message}"
  | .unexpected found position => s!"unexpected '{found}' at position {position}"
  | .ended wanted => s!"unexpected end of filter expression\n  hint: {wanted.message}"
  | .openQuote position => s!"unterminated quoted string starting at position {position}"
  | .tooDeep position =>
    s!"filter expression nested too deeply at position {position}\n  hint: at most {maxDepth} " ++
      "levels of NOT, parentheses and operators are allowed; split long chains into " ++
      "parenthesized groups"

end Triage
