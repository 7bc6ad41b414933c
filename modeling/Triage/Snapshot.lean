/-
# Triage.Snapshot -- catalogs and issues in one file

A snapshot is one JSON object that holds the fields of a catalog beside the list of issues. Its
issues are read as they come; every other member is read as a value first, whether the catalog has
it or not, so that it must be within the limits of values (`Snapshot.valueDepth`).
-/
import Triage.Document
import Triage.Json.Reading

namespace Triage

open Json

set_option autoImplicit false

structure Snapshot where
  catalog : Catalog := {}
  issues : List Issue := []
deriving DecidableEq

namespace Snapshot

/-- The deepest nesting of a member's value. The recursion limit of the JSON library, release 1, is
128: the container at that level is refused, and the object of the snapshot is a level itself. -/
def valueDepth : Nat := 126

/-! ## Written form -/

def toJson (snapshot : Snapshot) : Json :=
  ofMembers (snapshot.catalog.members ++ [("issues", .array (snapshot.issues.map Issue.toJson))])

/-- The text of a snapshot file. -/
def text (snapshot : Snapshot) : String := snapshot.toJson.pretty ++ "\n"

def ofJson? (json : Json) : Option Snapshot := do
  let members ← json.members?
  guard (members.all fun (name, value) => name = "issues" || value.isReadable valueDepth)
  let record ← Record.pick? ("issues" :: Catalog.fieldNames) members
  return {
    catalog := ← Catalog.ofRecord? record
    issues := ← record.optional? "issues" [] (list? Issue.ofJson?) }

/-- The snapshot of a file text. -/
def read? (text : String) : Option Snapshot := (Json.read? text.toList).bind ofJson?

/-! ## Issues by id -/

/-- The first issue of an id. -/
def issue? (snapshot : Snapshot) (id : UInt64) : Option Issue :=
  snapshot.issues.find? fun issue => issue.id = id

/-- Replaces the first issue of an id by what `change` makes of it. -/
def update (snapshot : Snapshot) (id : UInt64) (change : Issue → Issue) : Snapshot :=
  { snapshot with issues := go snapshot.issues }
where
  go : List Issue → List Issue
    | [] => []
    | issue :: rest => if issue.id = id then change issue :: rest else issue :: go rest

end Snapshot

end Triage
