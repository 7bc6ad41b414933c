/-
# Triage.Proofs.Settled -- what an edit leaves behind

A change holds of an issue when its field has the value that the change sets.  It holds once it is
applied, and stays so under changes of other fields; an attached label stays attached unless another
one displaces it.  Main statement: `changes_hold`, after an applicable edit that succeeds all its
changes hold, if no label is displaced, as none is when no two labels of the edit are of one
exclusive group (`undisplaced_of_keepsGroups`).
-/
import Triage.Proofs.Change
import Triage.Proofs.LowerForm

namespace Triage

open Triage.Text

set_option autoImplicit false

namespace Change

/-- The issue has what the change sets. -/
def Holds (change : Change) (issue : Issue) : Prop :=
  match change with
  | .title text => issue.title = text
  | .milestone id => issue.milestone = some id
  | .attach name => Label.isAttached issue.labels name = true
  | .assignee login => issue.assignee = some login
  | .state word => issue.state = word

variable {change other : Change} {changes : List Change}

theorem holds_apply (change : Change) (issue : Issue) : change.Holds (change.apply issue) := by
  cases change with
  | attach name =>
      rw [apply, Issue.attach_eq]
      exact Label.isAttached_attachTo_self issue.labels name
  | title | milestone | assignee | state => rfl

/-- A change of another field undoes nothing. -/
theorem Holds.apply {issue : Issue} (holds : change.Holds issue)
    (apart : other.kind ≠ change.kind) : change.Holds (other.apply issue) := by
  cases other with
  | attach name =>
      rw [Change.apply, Issue.attach_eq]
      cases change with
      | attach => exact absurd rfl apart
      | title | milestone | assignee | state => exact holds
  | title | milestone | assignee | state =>
      cases change <;> first | exact holds | exact absurd rfl apart

/-- What holds before a list of changes holds after it, if no other of them sets the field. -/
theorem Holds.applyAll {issue : Issue} (holds : change.Holds issue)
    (once : ∀ other ∈ changes, other.kind = change.kind → other = change) :
    change.Holds (applyAll changes issue) := by
  induction changes generalizing issue with
  | nil => exact holds
  | cons next rest ih =>
      have still : change.Holds (next.apply issue) := by
        by_cases same : next.kind = change.kind
        · rw [once next List.mem_cons_self same]
          exact holds_apply change issue
        · exact holds.apply same
      exact ih still fun other member => once other (List.mem_cons_of_mem next member)

/-- The only change of a field holds in the end. -/
theorem holds_applyAll (member : change ∈ changes)
    (once : ∀ other ∈ changes, other.kind = change.kind → other = change) (issue : Issue) :
    change.Holds (Change.applyAll changes issue) := by
  induction changes generalizing issue with
  | nil => cases member
  | cons next rest ih =>
      have behind (other : Change) (later : other ∈ rest) (same : other.kind = change.kind) :
          other = change := once other (List.mem_cons_of_mem next later) same
      rcases List.mem_cons.mp member with rfl | later
      · exact (holds_apply change issue).applyAll behind
      · exact ih later behind (next.apply issue)

end Change

namespace Expr

variable {catalog : Catalog} {issue : Issue} {expr : Expr}

/-- After an applicable edit that succeeds all its changes hold, if no label is displaced. -/
theorem changes_hold (applicable : expr.isApplicable = true)
    (apart : Label.Undisplaced issue.labels (expr.labelNames catalog))
    (done : (expr.edit catalog issue).error = none) :
    ∀ change ∈ expr.changes catalog, change.Holds (expr.edit catalog issue).issue := by
  intro change member
  rw [issue_edit done]
  by_cases label : change.kind = .label
  · cases change with
    | attach name =>
        have attached : name ∈ expr.labelNames catalog := by
          rw [← attached_changes]
          exact List.mem_filterMap.mpr ⟨_, member, rfl⟩
        rw [Change.Holds, Change.labels_applyAll, attached_changes]
        exact Label.isAttached_attachAll apart (distinct_labelNames catalog expr)
          (List.Subset.refl _) name attached
    | title | milestone | assignee | state => cases label
  · apply Change.holds_applyAll member
    intro other also same
    exact change_eq_of_kind_eq applicable also member same (same ▸ label)

/-! ## Labels of different groups -/

/-- No two qualifiers attach different labels of one exclusive group. -/
def KeepsGroups (catalog : Catalog) (expr : Expr) : Prop :=
  ∀ a ∈ expr.labels catalog, ∀ b ∈ expr.labels catalog, a ≠ b →
    Label.displaces b.name a.name = false

instance (catalog : Catalog) (expr : Expr) : Decidable (expr.KeepsGroups catalog) :=
  inferInstanceAs (Decidable (∀ a ∈ _, ∀ b ∈ _, _ → _))

/-- No label text of an edit holds a capital sigma, in the expression, the catalog or the issue. -/
structure IsSigmaFree (catalog : Catalog) (issue : Issue) (expr : Expr) : Prop where
  queried : ∀ q ∈ expr.qualifiers, q.kind = .label → ∀ text ∈ q.text?, SigmaFree text
  known : ∀ label ∈ catalog.labels, SigmaFree label.name
  attached : ∀ name ∈ issue.labels, SigmaFree name

theorem mem_catalog_of_mem_labels {label : Label} (member : label ∈ expr.labels catalog) :
    label ∈ catalog.labels := by
  obtain ⟨q, -, attaches⟩ := List.mem_filterMap.mp member
  obtain ⟨text, -, found⟩ := Qualifier.label?_eq_some_iff.mp attaches
  exact List.mem_of_find?_eq_some found

theorem undisplaced_of_keepsGroups (groups : expr.KeepsGroups catalog)
    (free : expr.IsSigmaFree catalog issue) :
    Label.Undisplaced issue.labels (expr.labelNames catalog) := by
  intro first one second two differ _ l present same
  obtain ⟨a, attachedA, rfl⟩ := List.mem_map.mp one
  obtain ⟨b, attachedB, rfl⟩ := List.mem_map.mp two
  have spared := groups a attachedA b attachedB fun equal => differ (congrArg Label.name equal)
  rcases List.mem_cons.mp present with rfl | held
  · exact spared
  · have plain := free.known a (mem_catalog_of_mem_labels attachedA)
    rw [Label.displaces_congr (free.attached l held) plain same, spared]

end Expr

end Triage
