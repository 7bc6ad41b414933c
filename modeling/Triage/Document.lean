/-
# Triage.Document -- the JSON form of issues and catalogs

Each type has a writer `toJson` and a reader `ofJson?`. The writers give the fields in a fixed
order and leave an unset assignee, milestone or display name out; the readers take a record and
fill in what has a default.
-/
import Triage.Issue
import Triage.Json.Pretty
import Triage.Json.Record

namespace Triage

open Json

set_option autoImplicit false

/-- The field of an optional value, if it is set. -/
def setField {α : Type} (name : String) (write : α → Json) : Option α → List (String × Json)
  | some value => [(name, write value)]
  | none => []

namespace Instant

def toJson (instant : Instant) : Json := ofText instant.text

def ofJson? (json : Json) : Option Instant := json.text?.bind fun text => read? text

end Instant

namespace State

def toJson (state : State) : Json := ofText state.name

/-- The state whose name is exactly this. -/
def ofExactName? (name : String) : Option State :=
  if name = "open" then some .opened else if name = "closed" then some .closed else none

/-- A state is written as its name, or as an object whose only member has that name and no
value. -/
def ofJson? (json : Json) : Option State :=
  match json with
  | .object [(name, .null)] =>
    (unescape name).bind fun name => ofExactName? (String.ofList name)
  | _ => json.text?.bind ofExactName?

end State

namespace Label

def toJson (label : Label) : Json := ofMembers [("name", ofText label.name)]

def ofJson? (json : Json) : Option Label := do
  let record ← json.record? ["name"]
  return ⟨← record.required? "name" text?⟩

end Label

namespace Milestone

def toJson (milestone : Milestone) : Json :=
  ofMembers [("id", ofWord milestone.id), ("title", ofText milestone.title),
    ("open", .bool milestone.isOpen)]

def ofJson? (json : Json) : Option Milestone := do
  let record ← json.record? ["id", "title", "open"]
  return {
    id := ← record.required? "id" word?
    title := ← record.required? "title" text?
    isOpen := ← record.optional? "open" true bool? }

end Milestone

namespace User

def members (user : User) : List (String × Json) :=
  ("login", ofText user.login) :: setField "name" ofText user.name

def toJson (user : User) : Json := ofMembers user.members

def ofJson? (json : Json) : Option User := do
  let record ← json.record? ["login", "name"]
  return {
    login := ← record.required? "login" text?
    name := ← record.optional? "name" none (nullable? text?) }

end User

namespace Catalog

/-- The fields of a catalog. -/
def fieldNames : List String := ["labels", "milestones", "users"]

def members (catalog : Catalog) : List (String × Json) :=
  [("labels", .array (catalog.labels.map Label.toJson)),
    ("milestones", .array (catalog.milestones.map Milestone.toJson)),
    ("users", .array (catalog.users.map User.toJson))]

def toJson (catalog : Catalog) : Json := ofMembers catalog.members

def ofRecord? (record : Record) : Option Catalog := do
  return {
    labels := ← record.optional? "labels" [] (list? Label.ofJson?)
    milestones := ← record.optional? "milestones" [] (list? Milestone.ofJson?)
    users := ← record.optional? "users" [] (list? User.ofJson?) }

def ofJson? (json : Json) : Option Catalog := do
  ofRecord? (← json.record? fieldNames)

end Catalog

namespace Issue

def fieldNames : List String :=
  ["id", "title", "body", "state", "pull_request", "author", "assignee", "milestone", "labels",
    "created_at", "updated_at"]

def members (issue : Issue) : List (String × Json) :=
  [("id", ofWord issue.id), ("title", ofText issue.title), ("body", ofText issue.body),
      ("state", issue.state.toJson), ("pull_request", .bool issue.isPullRequest),
      ("author", ofText issue.author)] ++
    setField "assignee" ofText issue.assignee ++ setField "milestone" ofWord issue.milestone ++
    [("labels", .array (issue.labels.map ofText)), ("created_at", issue.createdAt.toJson),
      ("updated_at", issue.updatedAt.toJson)]

def toJson (issue : Issue) : Json := ofMembers issue.members

def ofJson? (json : Json) : Option Issue := do
  let record ← json.record? fieldNames
  return {
    id := ← record.required? "id" word?
    title := ← record.required? "title" text?
    body := ← record.optional? "body" "" text?
    state := ← record.optional? "state" .opened State.ofJson?
    isPullRequest := ← record.optional? "pull_request" false bool?
    author := ← record.required? "author" text?
    assignee := ← record.optional? "assignee" none (nullable? text?)
    milestone := ← record.optional? "milestone" none (nullable? word?)
    labels := ← record.optional? "labels" [] (list? text?)
    createdAt := ← record.required? "created_at" Instant.ofJson?
    updatedAt := ← record.required? "updated_at" Instant.ofJson? }

end Issue

end Triage
