/-
# Triage.Expr.Edit -- expressions as edits

An expression of mutable qualifiers joined by `AND` is an edit: applied to an issue it sets the
fields it names, from left to right, up to the first qualifier that fails. What was set before the
failure stays. `Expr.isApplicable` is the check that callers make first; it admits no negation, no
disjunction, no read-only kind and, labels apart, no kind twice.
-/
import Triage.Expr
import Triage.Issue

namespace Triage

open Triage.Text

set_option autoImplicit false

/-- What a name in an edit stands for. -/
inductive Entity where
  | label
  | milestone
  | user
deriving DecidableEq

/-- Why a literal cannot be set. -/
inductive Objection where
  | notText
  | blankTitle
  | unknownState
deriving DecidableEq

/-- An operator that no edit has. -/
inductive Unsupported where
  | negation
  | disjunction
deriving DecidableEq

/-- Why an edit stopped. -/
inductive EditError where
  | unresolved (qualifier : Qualifier) (entity : Entity) (name : String)
  | rejected (qualifier : Qualifier) (objection : Objection)
  | readOnly (qualifier : Qualifier)
  | unsupported (operator : Unsupported)
deriving DecidableEq

def Entity.name : Entity → String
  | .label => "label"
  | .milestone => "milestone"
  | .user => "user"

def Objection.message : Objection → String
  | .notText => "expected a text value"
  | .blankTitle => "title cannot be empty"
  | .unknownState => "state must be open or closed"

def Unsupported.name : Unsupported → String
  | .negation => "negated"
  | .disjunction => "disjunctive"

namespace EditError

/-- The qualifier that failed, unless an operator did. -/
def qualifier? : EditError → Option Qualifier
  | .unresolved q _ _ | .rejected q _ | .readOnly q => some q
  | .unsupported _ => none

def message : EditError → String
  | .unresolved q entity name =>
    s!"cannot apply '{String.ofList q.chars}': no {entity.name} named '{name}'"
  | .rejected q objection => s!"cannot apply '{String.ofList q.chars}': {objection.message}"
  | .readOnly q =>
    s!"cannot apply '{String.ofList q.chars}': {q.kind.name} qualifiers only filter issues"
  | .unsupported operator => s!"cannot apply {operator.name} expressions to an issue"

end EditError

/-- Some kind that may occur once only occurs twice. -/
def hasConflict : List Kind → Bool
  | [] => false
  | kind :: rest => (!kind.isRepeatable && decide (kind ∈ rest)) || hasConflict rest

/-- Sets the field of a qualifier, or says why not. -/
def Qualifier.edit (qualifier : Qualifier) (catalog : Catalog) (issue : Issue) :
    Except EditError Issue :=
  if !qualifier.kind.isMutable then .error (.readOnly qualifier)
  else match qualifier.text? with
    | none => .error (.rejected qualifier .notText)
    | some text =>
      match qualifier.kind with
      | .title =>
        if allBlank text then .error (.rejected qualifier .blankTitle)
        else .ok { issue with title := text }
      | .milestone =>
        match catalog.milestone? text with
        | none => .error (.unresolved qualifier .milestone text)
        | some milestone => .ok { issue with milestone := some milestone.id }
      | .label =>
        match catalog.label? text with
        | none => .error (.unresolved qualifier .label text)
        | some label => .ok (issue.attach label.name)
      | .assignee =>
        match catalog.user? text with
        | none => .error (.unresolved qualifier .user text)
        | some user => .ok { issue with assignee := some user.login }
      | .state =>
        match State.ofName? text with
        | none => .error (.rejected qualifier .unknownState)
        | some state => .ok { issue with state }
      | _ => .error (.readOnly qualifier)

theorem Qualifier.id_edit {q : Qualifier} {catalog : Catalog} {issue edited : Issue}
    (h : q.edit catalog issue = .ok edited) : edited.id = issue.id := by
  unfold Qualifier.edit at h
  repeat' split at h
  all_goals cases h
  all_goals first
    | rfl
    | exact Issue.id_attach issue _

/-- An issue after an edit, and the error that stopped the edit, if any. -/
structure Edited where
  issue : Issue
  error : Option EditError

namespace Expr

/-- Applies an expression to an issue. -/
def edit (catalog : Catalog) (issue : Issue) : Expr → Edited
  | .qualifier q =>
    match q.edit catalog issue with
    | .ok edited => ⟨edited, none⟩
    | .error e => ⟨issue, some e⟩
  | .empty => ⟨issue, none⟩
  | .not _ => ⟨issue, some (.unsupported .negation)⟩
  | .or _ _ => ⟨issue, some (.unsupported .disjunction)⟩
  | .and left right =>
    let first := left.edit catalog issue
    match first.error with
    | some _ => first
    | none => right.edit catalog first.issue

/-- No edit changes the id of an issue. -/
theorem id_edit (catalog : Catalog) (expr : Expr) (issue : Issue) :
    (expr.edit catalog issue).issue.id = issue.id := by
  induction expr generalizing issue with
  | qualifier q =>
    rw [edit]
    split
    · next h => exact Qualifier.id_edit h
    · rfl
  | empty | not | or => rfl
  | and left right ihl ihr =>
    rw [edit]
    split
    · exact ihl issue
    · rw [ihr, ihl]

/-- Whether the expression is a sound edit. -/
def isApplicable : Expr → Bool
  | .qualifier q => q.kind.isMutable
  | .empty => true
  | .not _ | .or _ _ => false
  | .and left right =>
    !hasConflict (left.and right).kinds && left.isApplicable && right.isApplicable

end Expr

end Triage
