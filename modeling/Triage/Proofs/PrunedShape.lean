/-
# Triage.Proofs.PrunedShape -- what is left of a pruned expression

Pruning takes out the refused qualifiers, and the operators collapse around the gaps until no
conjunction or disjunction has an empty operand (`isCollapsed_prune`).  A negation never goes, even
with nothing left under it, so something is left wherever there was one.  Main statement:
`prune_exactly`.
-/
import Triage.Expr.Pruning

namespace Triage.Expr

set_option autoImplicit false

/-- No operand of a conjunction or disjunction is empty. -/
def isCollapsed : Expr → Bool
  | .qualifier _ | .empty => true
  | .not operand => operand.isCollapsed
  | .and left right | .or left right =>
      !left.isEmpty && !right.isEmpty && left.isCollapsed && right.isCollapsed

variable {expr : Expr}

/-! ## Collapsed expressions -/

theorem isCollapsed_collapse {join : Expr → Expr → Expr} {left right : Expr}
    (joined : (join left right).isCollapsed =
      (!left.isEmpty && !right.isEmpty && left.isCollapsed && right.isCollapsed))
    (first : left.isCollapsed = true) (second : right.isCollapsed = true) :
    (collapse join left right).isCollapsed = true := by
  unfold collapse
  split
  · exact second
  · next present =>
      split
      · exact first
      · next here => simp [joined, first, second, present, here]

theorem isCollapsed_prune (keep : Qualifier → Bool) (expr : Expr) :
    (expr.prune keep).isCollapsed = true := by
  induction expr with
  | qualifier q =>
      rw [prune]
      split <;> rfl
  | empty => rfl
  | not operand ih => exact ih
  | and left right ihl ihr => exact isCollapsed_collapse rfl ihl ihr
  | or left right ihl ihr => exact isCollapsed_collapse rfl ihl ihr

/-- A collapsed expression is empty only if nothing stands in it. -/
theorem eq_empty_iff_of_isCollapsed (collapsed : expr.isCollapsed = true) :
    expr = .empty ↔ expr.negations = 0 ∧ expr.qualifiers = [] := by
  induction expr with
  | qualifier | empty | not => simp [negations, qualifiers]
  | and left right ihl ihr | or left right ihl ihr =>
      simp only [isCollapsed, Bool.and_eq_true, Bool.not_eq_true', isEmpty_eq_false_iff]
        at collapsed
      obtain ⟨⟨⟨present, -⟩, first⟩, -⟩ := collapsed
      simp only [reduceCtorEq, false_iff, negations, qualifiers, Nat.add_eq_zero_iff,
        List.append_eq_nil_iff]
      rintro ⟨⟨plain, -⟩, bare, -⟩
      exact present ((ihl first).mpr ⟨plain, bare⟩)

/-! ## Counts -/

theorem negations_collapse {join : Expr → Expr → Expr}
    (joined : ∀ left right, (join left right).negations = left.negations + right.negations)
    (left right : Expr) :
    (collapse join left right).negations = left.negations + right.negations := by
  unfold collapse
  split
  · next h => rw [isEmpty_iff.mp h, negations, Nat.zero_add]
  · split
    · next h => rw [isEmpty_iff.mp h]; rfl
    · exact joined left right

/-- Pruning keeps every negation. -/
theorem negations_prune (keep : Qualifier → Bool) (expr : Expr) :
    (expr.prune keep).negations = expr.negations := by
  induction expr with
  | qualifier q =>
      rw [prune]
      split <;> rfl
  | empty => rfl
  | not operand ih => exact congrArg (· + 1) ih
  | and left right ihl ihr => rw [prune, negations_collapse fun _ _ => rfl, ihl, ihr, negations]
  | or left right ihl ihr => rw [prune, negations_collapse fun _ _ => rfl, ihl, ihr, negations]

theorem height_collapse_le (join : Expr → Expr → Expr)
    (joined : ∀ left right, (join left right).height = max left.height right.height + 1)
    (left right : Expr) :
    (collapse join left right).height ≤ max left.height right.height + 1 := by
  have whole := joined left right
  unfold collapse
  split
  · omega
  · split <;> omega

/-- Pruning makes no expression higher. -/
theorem height_prune_le (keep : Qualifier → Bool) (expr : Expr) :
    (expr.prune keep).height ≤ expr.height := by
  induction expr with
  | qualifier q =>
      rw [prune]
      split <;> exact Nat.le_refl 1
  | empty => exact Nat.le_refl 1
  | not operand ih => exact Nat.succ_le_succ ih
  | and left right ihl ihr =>
      have joined := height_collapse_le .and (fun _ _ => rfl) (left.prune keep) (right.prune keep)
      rw [prune, height]
      omega
  | or left right ihl ihr =>
      have joined := height_collapse_le .or (fun _ _ => rfl) (left.prune keep) (right.prune keep)
      rw [prune, height]
      omega

/-- A pruned expression has the kept qualifiers of the whole one, in their order and as often, and
all its negations.  It is no higher, and it is empty exactly if there was neither a negation nor a
qualifier to keep. -/
theorem prune_exactly (keep : Qualifier → Bool) (expr : Expr) :
    (expr.prune keep).qualifiers = expr.qualifiers.filter keep ∧
      (expr.prune keep).negations = expr.negations ∧
      (expr.prune keep).height ≤ expr.height ∧
      (expr.prune keep = .empty ↔
        expr.negations = 0 ∧ ∀ q ∈ expr.qualifiers, keep q = false) := by
  refine ⟨qualifiers_prune keep expr, negations_prune keep expr, height_prune_le keep expr, ?_⟩
  rw [eq_empty_iff_of_isCollapsed (isCollapsed_prune keep expr), negations_prune, qualifiers_prune,
    List.filter_eq_nil_iff]
  simp only [Bool.not_eq_true]

end Triage.Expr
