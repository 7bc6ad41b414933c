/-
# Triage.Proofs.PrunedEdit -- pruning a kind takes back one field of an edit

A pruned conjunction is a conjunction of fewer qualifiers, so it stays applicable, and it succeeds
where the whole one does.  A change sets one field, and what it sets the field to depends on that
field only; so leaving out the changes of one kind leaves that field as it was and every other field
as the whole edit has it (`applyAll_filter_kind`, by induction along the changes with the two issues
a `restore` apart).  Main statement: `edit_withoutKind`.
-/
import Triage.Expr.Pruning
import Triage.Proofs.Change

namespace Triage

set_option autoImplicit false

/-- The field that qualifiers of a kind set is taken from `original`, all else from the issue. -/
def Issue.restore (issue : Issue) (kind : Kind) (original : Issue) : Issue :=
  match kind with
  | .title => { issue with title := original.title }
  | .milestone => { issue with milestone := original.milestone }
  | .label => { issue with labels := original.labels }
  | .assignee => { issue with assignee := original.assignee }
  | .state => { issue with state := original.state }
  | _ => issue

@[simp] theorem Issue.restore_self (issue : Issue) (kind : Kind) :
    issue.restore kind issue = issue := by
  cases kind <;> rfl

namespace Change

variable {change : Change} {kind : Kind}

/-- A change of the field counts for nothing once the field is restored. -/
theorem restore_apply_of_eq (same : change.kind = kind) (issue original : Issue) :
    (change.apply issue).restore kind original = issue.restore kind original := by
  subst same
  cases change with
  | attach name =>
      rw [apply, Issue.attach_eq]
      rfl
  | title | milestone | assignee | state => rfl

/-- A change of another field may come before or after the field is restored. -/
theorem restore_apply_of_ne (other : change.kind ≠ kind) (issue original : Issue) :
    (change.apply issue).restore kind original = change.apply (issue.restore kind original) := by
  cases change with
  | attach name =>
      rw [apply, apply, Issue.attach_eq, Issue.attach_eq]
      cases kind <;> first | rfl | exact absurd rfl other
  | title | milestone | assignee | state =>
      cases kind <;> first | rfl | exact absurd rfl other

/-- Without the changes of a kind everything is the same but the field that they set. -/
theorem applyAll_filter_kind (kind : Kind) (changes : List Change) (issue original : Issue) :
    applyAll (changes.filter fun change => decide (change.kind ≠ kind))
        (issue.restore kind original) =
      (applyAll changes issue).restore kind original := by
  induction changes generalizing issue with
  | nil => rfl
  | cons change rest ih =>
      have step := ih (change.apply issue)
      by_cases same : change.kind = kind
      · rw [restore_apply_of_eq same] at step
        rw [List.filter_cons_of_neg (by simpa using same)]
        exact step
      · rw [restore_apply_of_ne same] at step
        rw [List.filter_cons_of_pos (by simpa using same)]
        exact step

end Change

namespace Expr

variable {catalog : Catalog} {expr : Expr} {issue : Issue}

/-! ## Pruned conjunctions -/

theorem isConjunction_prune (keep : Qualifier → Bool) (conjunction : expr.isConjunction = true) :
    (expr.prune keep).isConjunction = true := by
  induction expr with
  | qualifier q =>
      rw [prune]
      split <;> rfl
  | empty => rfl
  | not | or => cases conjunction
  | and left right ihl ihr =>
      obtain ⟨first, second⟩ := (Bool.and_eq_true _ _).mp conjunction
      rw [prune, collapse]
      split
      · exact ihr second
      · split
        · exact ihl first
        · exact (Bool.and_eq_true _ _).mpr ⟨ihl first, ihr second⟩

/-- Whatever is left of an applicable expression is applicable. -/
theorem isApplicable_prune (keep : Qualifier → Bool) (applicable : expr.isApplicable = true) :
    (expr.prune keep).isApplicable = true := by
  obtain ⟨conjunction, isMutable, apart⟩ := isApplicable_iff.mp applicable
  have fewer : (expr.prune keep).kinds.Sublist expr.kinds := by
    rw [kinds, qualifiers_prune]
    exact List.filter_sublist.map _
  refine isApplicable_iff.mpr
    ⟨isConjunction_prune keep conjunction, fun q leaf => ?_, hasConflict_of_sublist fewer apart⟩
  rw [qualifiers_prune] at leaf
  exact isMutable q (List.mem_filter.mp leaf).1

/-- Whatever is left of an edit that succeeds succeeds. -/
theorem error_edit_prune (keep : Qualifier → Bool) (done : (expr.edit catalog issue).error = none) :
    ((expr.prune keep).edit catalog issue).error = none := by
  obtain ⟨conjunction, asks⟩ := error_edit_eq_none_iff.mp done
  refine error_edit_eq_none_iff.mpr ⟨isConjunction_prune keep conjunction, fun q leaf => ?_⟩
  rw [qualifiers_prune] at leaf
  exact asks q (List.mem_filter.mp leaf).1

/-! ## Without a kind -/

/-- Without the qualifiers of a kind the changes of this kind are missing, and no others. -/
theorem changes_withoutKind (catalog : Catalog) (kind : Kind) (expr : Expr) :
    (expr.withoutKind kind).changes catalog =
      (expr.changes catalog).filter fun change => decide (change.kind ≠ kind) := by
  rw [changes, changes, withoutKind, qualifiers_prune, List.filterMap_filter,
    List.filter_filterMap]
  congr 1
  funext q
  cases outcome : q.change catalog with
  | error e => simp [Except.toOption]
  | ok change =>
      have kinds : change.kind = q.kind := (Qualifier.change_eq_ok_iff.mp outcome).kind_eq
      simp [Except.toOption, Option.filter, kinds]

/-- Whatever is left of an applicable expression is applicable.  Without the qualifiers of a kind an
edit that succeeds succeeds as well: it leaves the field of that kind as it was, and every other
field as the whole edit does. -/
theorem edit_withoutKind (catalog : Catalog) (issue : Issue) (kind : Kind)
    (applicable : expr.isApplicable = true) :
    (∀ keep, (expr.prune keep).isApplicable = true) ∧
    (expr.withoutKind kind).isApplicable = true ∧
    ((expr.edit catalog issue).error = none →
      ((expr.withoutKind kind).edit catalog issue).error = none ∧
      ((expr.withoutKind kind).edit catalog issue).issue =
        (expr.edit catalog issue).issue.restore kind issue) := by
  refine ⟨fun keep => isApplicable_prune keep applicable, isApplicable_prune _ applicable,
    fun done => ?_⟩
  have also : ((expr.withoutKind kind).edit catalog issue).error = none := error_edit_prune _ done
  refine ⟨also, ?_⟩
  calc ((expr.withoutKind kind).edit catalog issue).issue
    _ = Change.applyAll ((expr.withoutKind kind).changes catalog) (issue.restore kind issue) := by
        rw [issue_edit also, Issue.restore_self]
    _ = (Change.applyAll (expr.changes catalog) issue).restore kind issue := by
        rw [changes_withoutKind, Change.applyAll_filter_kind]
    _ = (expr.edit catalog issue).issue.restore kind issue := by rw [issue_edit done]

/-- Two labels, the second of which displaces one that the issue holds, and a state around them. -/
theorem edit_withoutKind_label :
    let dawn : Instant := ⟨⟨2024, 1, 1, by decide⟩, ⟨6, 0, 0, 0, by decide⟩⟩
    let issue : Issue := { Issue.create 7 "Crash" "ada" dawn with labels := ["os.win", "ui"] }
    let catalog : Catalog := { labels := [⟨"bug"⟩, ⟨"os.mac"⟩] }
    let expr : Expr :=
      ((Expr.ofText .label "BUG").and (.ofText .state "closed")).and
        (.and (.ofText .title "Hang") (.ofText .label "os.mac"))
    (expr.isApplicable = true ∧ (expr.edit catalog issue).error = none ∧
      (expr.edit catalog issue).issue.labels = ["ui", "bug", "os.mac"]) ∧
    (expr.withoutKind .label).isApplicable = true ∧
    ((expr.withoutKind .label).edit catalog issue).issue =
      (expr.edit catalog issue).issue.restore .label issue ∧
    ((expr.withoutKind .label).edit catalog issue).issue =
      { issue with title := "Hang", state := .closed } := by
  intro dawn issue catalog expr
  have applicable : expr.isApplicable = true := by decide
  have done : (expr.edit catalog issue).error = none := by decide +kernel
  have labels : (expr.edit catalog issue).issue.labels = ["ui", "bug", "os.mac"] := by
    decide +kernel
  obtain ⟨-, sound, same⟩ := edit_withoutKind catalog issue .label applicable
  exact ⟨⟨applicable, done, labels⟩, sound, (same done).2, by decide +kernel⟩

end Expr

end Triage
