/-
# Triage.Issue -- the tracked items

An issue is open or closed, and may be a pull request. It refers to its author and assignee by
login, to its milestone by id and to its labels by name; nothing here ties them to a catalog.
-/
import Triage.Calendar.Instant
import Triage.Catalog

namespace Triage

open Triage.Text

set_option autoImplicit false

inductive State where
  | opened
  | closed
deriving DecidableEq

namespace State

def name : State → String
  | .opened => "open"
  | .closed => "closed"

/-- The state of a name, ignoring case. -/
def ofName? (name : String) : Option State :=
  if lower name = "open" then some .opened
  else if lower name = "closed" then some .closed
  else none

/-- The complaint about a name of no state. -/
def unknownMessage (name : String) : String :=
  s!"invalid state: '{name}'\n  hint: valid states are: open, closed"

end State

structure Issue where
  id : UInt64
  title : String
  body : String := ""
  state : State := .opened
  isPullRequest : Bool := false
  author : String
  assignee : Option String := none
  milestone : Option UInt64 := none
  labels : List String := []
  createdAt : Instant
  updatedAt : Instant
deriving DecidableEq

namespace Issue

/-- A new issue: open, with nothing attached. -/
def create (id : UInt64) (title author : String) (createdAt : Instant) : Issue :=
  { id, title, author, createdAt, updatedAt := createdAt }

/-- Whether a label of this name is attached, ignoring case. -/
def hasLabel (issue : Issue) (name : String) : Bool :=
  issue.labels.any fun attached => sameName attached name

/-- Attaches a label name: nothing happens if it is attached already; otherwise it replaces the
labels of its exclusive group, if it has one, and comes last. -/
def attach (issue : Issue) (name : String) : Issue :=
  if issue.hasLabel name then issue
  else
    let kept := match Label.exclusiveGroup? name with
      | some group => issue.labels.filter fun attached => !Label.inExclusiveGroup group attached
      | none => issue.labels
    { issue with labels := kept ++ [name] }

theorem id_attach (issue : Issue) (name : String) : (issue.attach name).id = issue.id := by
  unfold attach
  split <;> rfl

end Issue

end Triage
