/-
# Triage.Expr.Pruning -- keeping some qualifiers of an expression

Pruning replaces every qualifier that a predicate refuses by the empty expression and lets the
operators collapse: a conjunction or disjunction with an empty operand becomes its other operand,
a negation keeps its shape. Main statement: `qualifiers_prune`, the qualifiers left are those the
predicate keeps, in their order.
-/
import Triage.Expr

namespace Triage.Expr

set_option autoImplicit false

/-- Joins two operands, unless one of them is empty. -/
def collapse (join : Expr → Expr → Expr) (left right : Expr) : Expr :=
  if left.isEmpty then right
  else if right.isEmpty then left
  else join left right

/-- Keeps the qualifiers that satisfy `keep`. -/
def prune (keep : Qualifier → Bool) : Expr → Expr
  | .qualifier q => if keep q then .qualifier q else .empty
  | .empty => .empty
  | .not operand => .not (operand.prune keep)
  | .and left right => collapse .and (left.prune keep) (right.prune keep)
  | .or left right => collapse .or (left.prune keep) (right.prune keep)

/-- Without the qualifiers of a kind. -/
def withoutKind (kind : Kind) (expr : Expr) : Expr := expr.prune fun q => decide (q.kind ≠ kind)

/-- Without the qualifiers of several kinds. -/
def withoutKinds (kinds : List Kind) (expr : Expr) : Expr :=
  expr.prune fun q => decide (q.kind ∉ kinds)

/-- With the qualifiers of these kinds only. -/
def onlyKinds (kinds : List Kind) (expr : Expr) : Expr :=
  expr.prune fun q => decide (q.kind ∈ kinds)

theorem qualifiers_collapse {join : Expr → Expr → Expr}
    (joined : ∀ left right, (join left right).qualifiers = left.qualifiers ++ right.qualifiers)
    (left right : Expr) :
    (collapse join left right).qualifiers = left.qualifiers ++ right.qualifiers := by
  unfold collapse
  split
  · next h => rw [isEmpty_iff.mp h]; rfl
  · split
    · next h => rw [isEmpty_iff.mp h]; simp [qualifiers]
    · exact joined left right

/-- Pruning keeps the kept qualifiers, in their order. -/
theorem qualifiers_prune (keep : Qualifier → Bool) (expr : Expr) :
    (expr.prune keep).qualifiers = expr.qualifiers.filter keep := by
  induction expr with
  | qualifier q => by_cases h : keep q <;> simp [prune, qualifiers, h]
  | empty => rfl
  | not operand ih => simpa [prune, qualifiers] using ih
  | and left right ihl ihr =>
    rw [prune, qualifiers_collapse fun _ _ => rfl, ihl, ihr, qualifiers, List.filter_append]
  | or left right ihl ihr =>
    rw [prune, qualifiers_collapse fun _ _ => rfl, ihl, ihr, qualifiers, List.filter_append]

end Triage.Expr
