/-
# Triage.Proofs.EditOrder -- when the order of the qualifiers is no matter

An applicable expression sets every field but the labels once at most, so that rearranging its
qualifiers and regrouping its conjunctions changes none of these fields, nor whether the edit
succeeds.  Its labels may be of one exclusive group, and of those the last one stays: the check of
an edit looks at kinds only.  Main statement: `edit_rearranged`; the labels too are the same but
for their order where no label of the expression is displaced by another of them.
-/
import Triage.Proofs.Applicability

namespace Triage

set_option autoImplicit false

/-- The issue apart from its labels. -/
def Issue.unlabelled (issue : Issue) : Issue := { issue with labels := [] }

namespace Change

/-- The labels of an issue count for nothing but its labels. -/
theorem unlabelled_apply (change : Change) (issue : Issue) :
    (change.apply issue).unlabelled = (change.apply issue.unlabelled).unlabelled := by
  cases change with
  | attach name =>
      simp only [apply, Issue.attach_eq]
      rfl
  | title | milestone | assignee | state => rfl

theorem unlabelled_applyAll (changes : List Change) (issue : Issue) :
    (applyAll changes issue).unlabelled =
      changes.foldl (fun issue change => (change.apply issue).unlabelled) issue.unlabelled := by
  induction changes generalizing issue with
  | nil => rfl
  | cons change rest ih =>
      rw [List.foldl_cons, ← unlabelled_apply, ← ih]
      rfl

/-- Apart from the labels, changes commute unless they set one field to two values. -/
theorem unlabelled_apply_comm {first second : Change}
    (apart : first.kind = second.kind → first.kind ≠ .label → first = second) (issue : Issue) :
    (second.apply (first.apply issue)).unlabelled =
      (first.apply (second.apply issue)).unlabelled := by
  by_cases same : first.kind = second.kind
  · by_cases label : first.kind = .label
    · cases first <;> cases label
      cases second <;> cases same
      simp only [apply, Issue.attach_eq]
      rfl
    · rw [apart same label]
  · cases first <;> cases second <;> simp only [apply, Issue.attach_eq] <;>
      first | rfl | exact absurd rfl same

/-- Changes of an edit in another order leave the same issue, apart from its labels. -/
theorem unlabelled_applyAll_perm {changes reordered : List Change} (perm : changes.Perm reordered)
    (apart : ∀ first ∈ changes, ∀ second ∈ changes,
      first.kind = second.kind → first.kind ≠ .label → first = second) (issue : Issue) :
    (applyAll changes issue).unlabelled = (applyAll reordered issue).unlabelled := by
  rw [unlabelled_applyAll, unlabelled_applyAll]
  apply perm.foldl_eq'
  intro first one second two issue
  rw [← unlabelled_apply, ← unlabelled_apply]
  exact unlabelled_apply_comm (apart first one second two) issue

end Change

namespace Expr

open Label

variable {catalog : Catalog} {issue : Issue} {expr other : Expr}

/-- A conjunction of the qualifiers of an applicable expression, in any order and grouping, is
applicable as well.  Where one of the two edits succeeds the other one does, and they leave the same
issue, up to the order of its labels if none of them is displaced by another. -/
theorem edit_rearranged (applicable : expr.isApplicable = true)
    (conjunction : other.isConjunction = true) (perm : other.qualifiers.Perm expr.qualifiers) :
    other.isApplicable = true ∧
    ((expr.edit catalog issue).error = none →
      (other.edit catalog issue).error = none ∧
      (other.edit catalog issue).issue.unlabelled = (expr.edit catalog issue).issue.unlabelled ∧
      (Undisplaced issue.labels (expr.labelNames catalog) →
        (other.edit catalog issue).issue.labels.Perm (expr.edit catalog issue).issue.labels)) := by
  have operators : other.isConjunction = expr.isConjunction :=
    conjunction.trans (isApplicable_iff.mp applicable).1.symm
  refine ⟨(isApplicable_congr operators (perm.map _)).trans applicable, fun done => ?_⟩
  have asks := (error_edit_eq_none_iff.mp done).2
  have also : (other.edit catalog issue).error = none :=
    error_edit_eq_none_iff.mpr ⟨conjunction, fun q leaf => asks q (perm.mem_iff.mp leaf)⟩
  have changed : (other.changes catalog).Perm (expr.changes catalog) := perm.filterMap _
  refine ⟨also, ?_, fun apart => ?_⟩
  · rw [issue_edit done, issue_edit also]
    have once (first : Change) (one : first ∈ expr.changes catalog) (second : Change)
        (two : second ∈ expr.changes catalog) (same : first.kind = second.kind)
        (single : first.kind ≠ .label) : first = second :=
      change_eq_of_kind_eq applicable one two same single
    exact (Change.unlabelled_applyAll_perm changed.symm once issue).symm
  · rw [issue_edit done, issue_edit also, Change.labels_applyAll, Change.labels_applyAll,
      attached_changes, attached_changes]
    have names : (expr.labelNames catalog).Perm (other.labelNames catalog) :=
      (perm.symm.filterMap _).map _
    exact (attachAll_perm names apart (distinct_labelNames catalog expr)).symm

/-- Two labels and a milestone, regrouped, for an issue that holds another label of the group. -/
theorem edit_rearranged_regrouped :
    let dawn : Instant := ⟨⟨2024, 1, 1, by decide⟩, ⟨6, 0, 0, 0, by decide⟩⟩
    let issue : Issue :=
      { Issue.create 7 "Crash" "ada" dawn with labels := ["OS.win", "ui"] }
    let catalog : Catalog :=
      { labels := [⟨"bug"⟩, ⟨"os.mac"⟩], milestones := [{ id := 1, title := "v1" }] }
    let bug : Expr := .ofText .label "BUG"
    let mac : Expr := .ofText .label "os.mac"
    let v1 : Expr := .ofText .milestone "V1"
    let expr := (bug.and v1).and mac
    let other := mac.and (Expr.empty.and (v1.and bug))
    (expr.isApplicable = true ∧ other.isConjunction = true ∧
      other.qualifiers.Perm expr.qualifiers ∧ (expr.edit catalog issue).error = none ∧
      Undisplaced issue.labels (expr.labelNames catalog)) ∧
    other.isApplicable = true ∧ (other.edit catalog issue).error = none ∧
    (other.edit catalog issue).issue.unlabelled = (expr.edit catalog issue).issue.unlabelled ∧
    (other.edit catalog issue).issue.labels.Perm (expr.edit catalog issue).issue.labels := by
  intro dawn issue catalog bug mac v1 expr other
  have applicable : expr.isApplicable = true := by decide
  have perm : other.qualifiers.Perm expr.qualifiers := by decide
  have done : (expr.edit catalog issue).error = none := by decide +kernel
  have apart : Undisplaced issue.labels (expr.labelNames catalog) := by decide +kernel
  obtain ⟨sound, same⟩ := edit_rearranged applicable rfl perm
  obtain ⟨also, fields, labels⟩ := same done
  exact ⟨⟨applicable, rfl, perm, done, apart⟩, sound, also, fields, labels apart⟩

/-- Of two labels of one exclusive group the last one stays, though the edit is applicable. -/
theorem labels_depend_on_order :
    ¬ ∀ (catalog : Catalog) (issue : Issue) (expr other : Expr), expr.isApplicable = true →
      other.isConjunction = true → other.qualifiers.Perm expr.qualifiers →
      (expr.edit catalog issue).error = none →
      (other.edit catalog issue).issue.labels.Perm (expr.edit catalog issue).issue.labels := by
  intro same
  let dawn : Instant := ⟨⟨2024, 1, 1, by decide⟩, ⟨6, 0, 0, 0, by decide⟩⟩
  let catalog : Catalog := { labels := [⟨"os.mac"⟩, ⟨"os.win"⟩] }
  let mac : Expr := .ofText .label "os.mac"
  let win : Expr := .ofText .label "os.win"
  have alike := same catalog (Issue.create 7 "Crash" "ada" dawn) (mac.and win) (win.and mac)
    (by decide) rfl (by decide) (by decide +kernel)
  exact absurd alike (by decide +kernel)

end Expr

end Triage
