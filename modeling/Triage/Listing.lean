/-
# Triage.Listing -- issues as an answer

A query is answered by one line for each issue, or by one JSON document that repeats the
expression. A line names the milestone by its title, or by its id if the catalog does not have it.
-/
import Triage.Config
import Triage.Document
import Triage.Expr

namespace Triage

open Json

set_option autoImplicit false

namespace Issue

/-- What stands between the brackets after the sort of an issue: its state and its assignee. -/
def status (issue : Issue) : String :=
  match issue.assignee with
  | some login => s!"{issue.state.name}, @{login}"
  | none => issue.state.name

/-- The labels behind the title of an issue, if there are any. -/
def labelNote (issue : Issue) : String :=
  if issue.labels.isEmpty then "" else "  \x7b" ++ ", ".intercalate issue.labels ++ "\x7d"

/-- The milestone at the end of a line, if there is one. -/
def milestoneNote (catalog : Catalog) (issue : Issue) : String :=
  match issue.milestone with
  | none => ""
  | some id =>
    match catalog.milestoneOf? id with
    | some milestone => s!"  %{milestone.title}"
    | none => s!"  %{id}"

/-- An issue as one line. -/
def line (catalog : Catalog) (issue : Issue) : String :=
  let sort := if issue.isPullRequest then "pr" else "issue"
  s!"- [{sort}] ({issue.status}) #{issue.id}: {issue.title}" ++ issue.labelNote ++
    issue.milestoneNote catalog

end Issue

/-- Lines, each with its end. -/
def unlines (lines : List String) : String := String.join (lines.map (· ++ "\n"))

/-- The answer to a query for an expression. -/
def listing (format : Format) (catalog : Catalog) (expr : Expr) (issues : List Issue) : String :=
  match format with
  | .text => unlines (issues.map (Issue.line catalog))
  | .json =>
    unlines [(ofMembers [("expression", ofText expr.text),
      ("issues", .array (issues.map Issue.toJson))]).pretty]

end Triage
