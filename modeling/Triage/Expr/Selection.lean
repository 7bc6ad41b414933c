/-
# Triage.Expr.Selection -- the issues an expression selects

Whether an issue satisfies an expression never fails to have an answer: a name that resolves to
nothing, or a literal of the wrong type, does not match.
-/
import Triage.Expr
import Triage.Issue

namespace Triage

open Triage.Text

set_option autoImplicit false

namespace Issue

/-- Whether the named field is set; `none` for a name of no such field. -/
def hasField? (issue : Issue) (field : String) : Option Bool :=
  let name := lower field
  if name = "label" ∨ name = "labels" then some (!issue.labels.isEmpty)
  else if name = "milestone" ∨ name = "milestones" then some issue.milestone.isSome
  else if name = "assignee" ∨ name = "assignees" then some issue.assignee.isSome
  else none

/-- Whether the issue has the named property. -/
def hasProperty (issue : Issue) (property : String) : Bool :=
  let name := lower property
  if name = "open" then decide (issue.state = .opened)
  else if name = "closed" then decide (issue.state = .closed)
  else if name = "pr" ∨ name = "pullrequest" then issue.isPullRequest
  else if name = "issue" then !issue.isPullRequest
  else if name = "labeled" ∨ name = "labelled" then !issue.labels.isEmpty
  else if name = "unlabeled" ∨ name = "unlabelled" then issue.labels.isEmpty
  else false

/-- Whether the assignee of the issue is named by a query. -/
def assigneeNamed (issue : Issue) (catalog : Catalog) (query : String) : Bool :=
  issue.assignee.any fun login => catalog.loginNamed login query

/-- Whether the issue matches a text under a kind. -/
def matchesText (issue : Issue) (catalog : Catalog) (kind : Kind) (text : String) : Bool :=
  match kind with
  | .keyword => mentions issue.title text || mentions issue.body text
  | .title => mentions issue.title text
  | .body => mentions issue.body text
  | .milestone =>
    (issue.milestone.bind catalog.milestoneOf?).any fun milestone => sameName milestone.title text
  | .label => issue.labels.any fun attached => Label.answers text attached
  | .assignee => issue.assigneeNamed catalog text
  | .author => catalog.loginNamed issue.author text
  | .involves => catalog.loginNamed issue.author text || issue.assigneeNamed catalog text
  | .state => decide (State.ofName? text = some issue.state)
  | .has => decide (issue.hasField? text = some true)
  | .no => decide (issue.hasField? text = some false)
  | .is => issue.hasProperty text
  | .id | .created | .updated => false

end Issue

/-- Whether an issue satisfies a qualifier. -/
def Qualifier.holds (qualifier : Qualifier) (catalog : Catalog) (issue : Issue) : Bool :=
  match qualifier.kind, qualifier.literal with
  | .id, .number comparison => comparison.holds issue.id
  | .created, .date comparison => comparison.holds issue.createdAt.date
  | .updated, .date comparison => comparison.holds issue.updatedAt.date
  | kind, .text text => issue.matchesText catalog kind text
  | _, _ => false

/-- Whether an issue satisfies an expression. -/
def Expr.holds (catalog : Catalog) (issue : Issue) : Expr → Bool
  | .qualifier q => q.holds catalog issue
  | .empty => true
  | .not operand => !operand.holds catalog issue
  | .and left right => left.holds catalog issue && right.holds catalog issue
  | .or left right => left.holds catalog issue || right.holds catalog issue

/-- The issues that satisfy an expression, in their order. -/
def Expr.select (catalog : Catalog) (expr : Expr) (issues : List Issue) : List Issue :=
  issues.filter fun issue => expr.holds catalog issue

end Triage
