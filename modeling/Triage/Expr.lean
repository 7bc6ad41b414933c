/-
# Triage.Expr -- filter expressions

An expression is a tree of qualifiers under `NOT`, `AND` and `OR`, and the empty expression, which
only pruning leaves behind. The canonical text brackets every conjunction and disjunction, so that
it shows the tree. The views here are what the rest of the library speaks about: the qualifiers
from left to right, the height, the number of negations and disjunctions.
-/
import Triage.Qualifier

namespace Triage

set_option autoImplicit false

inductive Expr where
  | qualifier (qualifier : Qualifier)
  /-- Satisfied by every issue; changes none. -/
  | empty
  | not (operand : Expr)
  | and (left right : Expr)
  | or (left right : Expr)
deriving DecidableEq

namespace Expr

/-- A keyword or another qualifier with a text. -/
def ofText (kind : Kind) (text : String) : Expr := .qualifier (.ofText kind text)

/-! ## Canonical text -/

def chars : Expr → List Char
  | .qualifier q => q.chars
  | .empty => []
  | .not operand => 'N' :: 'O' :: 'T' :: ' ' :: operand.chars
  | .and left right => '(' :: left.chars ++ ' ' :: right.chars ++ [')']
  | .or left right => '(' :: left.chars ++ ' ' :: 'O' :: 'R' :: ' ' :: right.chars ++ [')']

def text (expr : Expr) : String := String.ofList expr.chars

/-! ## Views -/

def isEmpty : Expr → Bool
  | .empty => true
  | _ => false

/-- The qualifiers from left to right, repeats kept. -/
def qualifiers : Expr → List Qualifier
  | .qualifier q => [q]
  | .empty => []
  | .not operand => operand.qualifiers
  | .and left right | .or left right => left.qualifiers ++ right.qualifiers

/-- The kinds of the qualifiers from left to right, repeats kept. -/
def kinds (expr : Expr) : List Kind := expr.qualifiers.map Qualifier.kind

/-- The number of levels: one for a qualifier or the empty expression, and one more for every
operator above it. -/
def height : Expr → Nat
  | .qualifier _ | .empty => 1
  | .not operand => operand.height + 1
  | .and left right | .or left right => max left.height right.height + 1

/-- The number of `NOT`s. -/
def negations : Expr → Nat
  | .qualifier _ | .empty => 0
  | .not operand => operand.negations + 1
  | .and left right | .or left right => left.negations + right.negations

/-- The number of `OR`s. -/
def disjunctions : Expr → Nat
  | .qualifier _ | .empty => 0
  | .not operand => operand.disjunctions
  | .and left right => left.disjunctions + right.disjunctions
  | .or left right => left.disjunctions + right.disjunctions + 1

theorem height_pos (expr : Expr) : 0 < expr.height := by cases expr <;> simp [height]

theorem isEmpty_iff {expr : Expr} : expr.isEmpty = true ↔ expr = .empty := by
  cases expr <;> simp [isEmpty]

theorem isEmpty_eq_false_iff {expr : Expr} : expr.isEmpty = false ↔ expr ≠ .empty := by
  rw [← Bool.not_eq_true, isEmpty_iff]

theorem kinds_and (left right : Expr) : (left.and right).kinds = left.kinds ++ right.kinds :=
  List.map_append

theorem kinds_or (left right : Expr) : (left.or right).kinds = left.kinds ++ right.kinds :=
  List.map_append

end Expr

end Triage
