/-
# Triage.Comparison -- comparisons in number and date literals

A literal compares the value of a field with one value, `>=5`, or with an inclusive range, `3..9`.
A plain value asks for equality. Main definitions: `Comparison.holds`, whether a value satisfies a
comparison, and `Comparison.read?`, the comparison of a text.
-/
import Triage.Text.Decimal

namespace Triage

set_option autoImplicit false

inductive Operator where
  | eq
  | lt
  | le
  | gt
  | ge
deriving DecidableEq

inductive Comparison (α : Type) where
  | compare (operator : Operator) (value : α)
  | between (low high : α)
deriving DecidableEq

namespace Operator

/-- What stands in front of the value. -/
def symbol : Operator → List Char
  | .eq => []
  | .lt => ['<']
  | .le => ['<', '=']
  | .gt => ['>']
  | .ge => ['>', '=']

/-- The operator at the front of a literal, with the value text after it. -/
def split (text : List Char) : Operator × List Char :=
  match text with
  | '<' :: '=' :: rest => (.le, rest)
  | '>' :: '=' :: rest => (.ge, rest)
  | '<' :: rest => (.lt, rest)
  | '>' :: rest => (.gt, rest)
  | '=' :: rest => (.eq, rest)
  | _ => (.eq, text)

end Operator

namespace Comparison

variable {α : Type}

/-- Whether a value satisfies the comparison. -/
def holds [DecidableEq α] [LT α] [LE α] [DecidableLT α] [DecidableLE α]
    (comparison : Comparison α) (actual : α) : Bool :=
  match comparison with
  | .compare .eq value => decide (actual = value)
  | .compare .lt value => decide (actual < value)
  | .compare .le value => decide (actual ≤ value)
  | .compare .gt value => decide (value < actual)
  | .compare .ge value => decide (value ≤ actual)
  | .between low high => decide (low ≤ actual) && decide (actual ≤ high)

def chars (write : α → List Char) : Comparison α → List Char
  | .compare operator value => operator.symbol ++ write value
  | .between low high => write low ++ '.' :: '.' :: write high

/-- The texts before and after the first two points in a row. -/
def splitRange : List Char → Option (List Char × List Char)
  | [] => none
  | '.' :: '.' :: rest => some ([], rest)
  | c :: rest => (splitRange rest).map fun (low, high) => (c :: low, high)

/-- Reads a range where the text has two points in a row, and one value otherwise. -/
def read? (read : List Char → Option α) (text : List Char) : Option (Comparison α) :=
  match splitRange text with
  | some (low, high) => do return .between (← read low) (← read high)
  | none => do
    let (operator, rest) := Operator.split text
    return .compare operator (← read rest)

end Comparison

end Triage
