/-
# Triage.Proofs.PrunedQuery -- what a pruned expression selects

Pruning leaves gaps.  `keptAnswer` says what the unpruned expression means with the gaps in it: a
conjunction or disjunction with a gap means what its other operand does, a negation of a gap is
false, and a gap for the whole is true.  Main statement: `holds_prune`, this is what the pruned
expression means.  A pruned conjunction asks for less; a pruned disjunction, if anything is left of
it, for more.  With a negation neither is so: `NOT` over a gap is false, whatever the operand was.
-/
import Triage.Proofs.EditSelects
import Triage.Proofs.PrunedEdit

namespace Triage.Expr

set_option autoImplicit false

/-- Whether an issue satisfies an expression of which only the kept qualifiers count; `none` if
none of them is there to tell. -/
def keptAnswer (keep : Qualifier → Bool) (catalog : Catalog) (issue : Issue) : Expr → Option Bool
  | .qualifier q => if keep q then some (q.holds catalog issue) else none
  | .empty => none
  | .not operand =>
      match operand.keptAnswer keep catalog issue with
      | some answer => some !answer
      | none => some false
  | .and left right =>
      Option.merge (· && ·) (left.keptAnswer keep catalog issue)
        (right.keptAnswer keep catalog issue)
  | .or left right =>
      Option.merge (· || ·) (left.keptAnswer keep catalog issue)
        (right.keptAnswer keep catalog issue)

/-- Whether an issue satisfies an expression, unless it is empty. -/
def answer? (catalog : Catalog) (issue : Issue) (expr : Expr) : Option Bool :=
  if expr.isEmpty then none else some (expr.holds catalog issue)

/-- The expression has no operator but `OR`. -/
def isDisjunction : Expr → Bool
  | .qualifier _ | .empty => true
  | .not _ | .and _ _ => false
  | .or left right => left.isDisjunction && right.isDisjunction

variable {catalog : Catalog} {issue : Issue} {expr : Expr} {keep : Qualifier → Bool}

theorem holds_eq_getD_answer? (catalog : Catalog) (issue : Issue) (expr : Expr) :
    expr.holds catalog issue = (expr.answer? catalog issue).getD true := by
  unfold answer?
  split
  · next h => rw [isEmpty_iff.mp h]; rfl
  · rfl

/-- A collapsed operator joins the answers that there are. -/
theorem answer?_collapse {join : Expr → Expr → Expr} {combine : Bool → Bool → Bool}
    (solid : ∀ left right, (join left right).isEmpty = false)
    (joined : ∀ left right, (join left right).holds catalog issue =
      combine (left.holds catalog issue) (right.holds catalog issue))
    (left right : Expr) :
    (collapse join left right).answer? catalog issue =
      Option.merge combine (left.answer? catalog issue) (right.answer? catalog issue) := by
  cases first : left.isEmpty with
  | true =>
      rw [collapse, if_pos first, answer?, answer?, if_pos first]
      exact (Option.merge_none_left ..).symm
  | false =>
      cases second : right.isEmpty with
      | true => simp [collapse, answer?, first, second]
      | false => simp [collapse, answer?, first, second, solid, joined]

/-- The answer of a pruned expression is that of the whole with gaps. -/
theorem answer?_prune (keep : Qualifier → Bool) (catalog : Catalog) (issue : Issue) (expr : Expr) :
    (expr.prune keep).answer? catalog issue = expr.keptAnswer keep catalog issue := by
  induction expr with
  | qualifier q =>
      rw [prune, keptAnswer]
      split <;> rfl
  | empty => rfl
  | not operand ih =>
      have negated : (operand.prune keep).not.answer? catalog issue =
          some !(operand.prune keep).holds catalog issue := rfl
      rw [prune, keptAnswer, negated, holds_eq_getD_answer?, ih]
      cases operand.keptAnswer keep catalog issue <;> rfl
  | and left right ihl ihr =>
      rw [prune, keptAnswer, ← ihl, ← ihr]
      exact answer?_collapse (fun _ _ => rfl) (fun _ _ => rfl) _ _
  | or left right ihl ihr =>
      rw [prune, keptAnswer, ← ihl, ← ihr]
      exact answer?_collapse (fun _ _ => rfl) (fun _ _ => rfl) _ _

/-- A kept qualifier answers. -/
theorem keptAnswer_ne_none {q : Qualifier} (leaf : q ∈ expr.qualifiers) (kept : keep q = true) :
    expr.keptAnswer keep catalog issue ≠ none := by
  intro silent
  rw [← answer?_prune, answer?] at silent
  split at silent
  · next h =>
      have there : q ∈ (expr.prune keep).qualifiers := by
        rw [qualifiers_prune]
        exact List.mem_filter.mpr ⟨leaf, kept⟩
      rw [isEmpty_iff.mp h] at there
      cases there
  · cases silent

/-! ## Disjunctions -/

/-- A disjunction asks for one of its qualifiers. -/
theorem holds_of_isDisjunction (disjunction : expr.isDisjunction = true) {q : Qualifier}
    (leaf : q ∈ expr.qualifiers) (holds : q.holds catalog issue = true) :
    expr.holds catalog issue = true := by
  induction expr with
  | qualifier p =>
      rw [List.mem_singleton.mp leaf] at holds
      exact holds
  | empty => rfl
  | not | and => cases disjunction
  | or left right ihl ihr =>
      obtain ⟨first, second⟩ := (Bool.and_eq_true _ _).mp disjunction
      rcases List.mem_append.mp leaf with here | there
      · exact (Bool.or_eq_true _ _).mpr (.inl (ihl first here))
      · exact (Bool.or_eq_true _ _).mpr (.inr (ihr second there))

theorem exists_holds_of_keptAnswer (disjunction : expr.isDisjunction = true)
    (answer : expr.keptAnswer keep catalog issue = some true) :
    ∃ q ∈ expr.qualifiers, q.holds catalog issue = true := by
  induction expr with
  | qualifier q =>
      rw [keptAnswer] at answer
      split at answer
      · exact ⟨q, List.mem_singleton_self q, Option.some.inj answer⟩
      · cases answer
  | empty => cases answer
  | not | and => cases disjunction
  | or left right ihl ihr =>
      obtain ⟨first, second⟩ := (Bool.and_eq_true _ _).mp disjunction
      have either : left.keptAnswer keep catalog issue = some true ∨
          right.keptAnswer keep catalog issue = some true := by
        rw [keptAnswer] at answer
        cases one : left.keptAnswer keep catalog issue with
        | none => exact .inr (by simpa [one] using answer)
        | some a =>
            cases two : right.keptAnswer keep catalog issue with
            | none => exact .inl (by simpa [one, two] using answer)
            | some b => simpa [one, two] using answer
      rcases either with here | there
      · obtain ⟨q, leaf, holds⟩ := ihl first here
        exact ⟨q, List.mem_append_left _ leaf, holds⟩
      · obtain ⟨q, leaf, holds⟩ := ihr second there
        exact ⟨q, List.mem_append_right _ leaf, holds⟩

/-- A pruned expression means what the whole one does with gaps in it.  What satisfies a conjunction
satisfies what is left of it, and what satisfies the rest of a disjunction, if there is one,
satisfies the disjunction. -/
theorem holds_prune (keep : Qualifier → Bool) (catalog : Catalog) (issue : Issue) (expr : Expr) :
    (expr.prune keep).holds catalog issue =
      (expr.keptAnswer keep catalog issue).getD true ∧
    (expr.isConjunction = true → expr.holds catalog issue = true →
      (expr.prune keep).holds catalog issue = true) ∧
    (expr.isDisjunction = true → (∃ q ∈ expr.qualifiers, keep q = true) →
      (expr.prune keep).holds catalog issue = true → expr.holds catalog issue = true) := by
  have meaning : (expr.prune keep).holds catalog issue =
      (expr.keptAnswer keep catalog issue).getD true := by
    rw [holds_eq_getD_answer?, answer?_prune]
  refine ⟨meaning, fun conjunction holds => ?_, fun disjunction left holds => ?_⟩
  · rw [holds_iff_of_isConjunction conjunction] at holds
    rw [holds_iff_of_isConjunction (isConjunction_prune keep conjunction), qualifiers_prune]
    exact fun q leaf => holds q (List.mem_filter.mp leaf).1
  · obtain ⟨q, leaf, kept⟩ := left
    rw [meaning] at holds
    cases answer : expr.keptAnswer keep catalog issue with
    | none => exact absurd answer (keptAnswer_ne_none leaf kept)
    | some value =>
        obtain rfl : value = true := by simpa [answer] using holds
        obtain ⟨p, here, held⟩ := exists_holds_of_keptAnswer disjunction answer
        exact holds_of_isDisjunction disjunction here held

/-- An open issue with a label: without the state the conjunction still holds, and what is left of
the disjunction is enough for the whole. -/
theorem holds_prune_state :
    let dawn : Instant := ⟨⟨2024, 1, 1, by decide⟩, ⟨6, 0, 0, 0, by decide⟩⟩
    let issue : Issue := { Issue.create 7 "Crash" "ada" dawn with labels := ["os.win"] }
    let win : Expr := .ofText .label "OS."
    let expr := win.and (.ofText .state "open")
    let other := (Expr.ofText .state "closed").or (win.or .empty)
    let keep : Qualifier → Bool := fun q => decide (q.kind ≠ .state)
    (expr.isConjunction = true ∧ expr.holds {} issue = true ∧ other.isDisjunction = true ∧
      ∃ q ∈ other.qualifiers, keep q = true) ∧
    (expr.prune keep).holds {} issue = true ∧ (other.prune keep).holds {} issue = true ∧
    other.holds {} issue = true := by
  intro dawn issue win expr other keep
  have holds : expr.holds {} issue = true := by decide +kernel
  have pruned : (other.prune keep).holds {} issue = true := by decide +kernel
  have left : ∃ q ∈ other.qualifiers, keep q = true := by decide
  exact ⟨⟨rfl, holds, rfl, left⟩, (holds_prune keep {} issue expr).2.1 rfl holds, pruned,
    (holds_prune keep {} issue other).2.2 rfl left pruned⟩

end Triage.Expr
