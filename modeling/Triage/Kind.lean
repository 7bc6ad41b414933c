/-
# Triage.Kind -- kinds of qualifier

Each kind of qualifier is bound to one field of an issue, or to several taken together. A kind has
a canonical name and perhaps some further names; names are read ignoring case. Main statement:
`Kind.ofName?_name`, every kind is read back from its canonical name.
-/
import Triage.Text.Lowercase

namespace Triage

open Triage.Text

set_option autoImplicit false

inductive Kind where
  | id
  /-- Free text, searched in title and body. -/
  | keyword
  | title
  | body
  | milestone
  | label
  | assignee
  | author
  /-- Author or assignee. -/
  | involves
  | state
  /-- The named field is set. -/
  | has
  /-- The named field is not set. -/
  | no
  /-- A property such as `open` or `unlabeled`. -/
  | is
  | created
  | updated
deriving DecidableEq

/-- The type of the values that a kind compares with. -/
inductive ValueType where
  | text
  | number
  | date
deriving DecidableEq

namespace Kind

/-- Every kind, in the order in which messages list them. -/
def all : List Kind :=
  [.id, .keyword, .title, .body, .milestone, .label, .assignee, .author, .involves, .state, .has,
    .no, .is, .created, .updated]

/-- The canonical name. -/
def name : Kind → String
  | .id => "id"
  | .keyword => "keyword"
  | .title => "title"
  | .body => "body"
  | .milestone => "milestone"
  | .label => "label"
  | .assignee => "assignee"
  | .author => "author"
  | .involves => "involves"
  | .state => "state"
  | .has => "has"
  | .no => "no"
  | .is => "is"
  | .created => "created"
  | .updated => "updated"

/-- The further names. -/
def otherNames : Kind → List String
  | .body => ["desc", "description"]
  | .author => ["creator"]
  | .involves => ["user"]
  | .state => ["status"]
  | .created => ["date"]
  | _ => []

def names (kind : Kind) : List String := kind.name :: kind.otherNames

/-- The kind of a name, ignoring case. -/
def ofName? (name : String) : Option Kind :=
  all.find? fun kind => decide (lower name ∈ kind.names)

theorem ofName?_name (kind : Kind) : ofName? kind.name = some kind := by
  cases kind <;> decide +kernel

/-- The names that messages offer. -/
def offered : String := ", ".intercalate (all.map name)

def valueType : Kind → ValueType
  | .id => .number
  | .created | .updated => .date
  | _ => .text

/-- Whether several qualifiers of this kind may be applied together: an issue has many labels,
but one value in every other field. -/
def isRepeatable (kind : Kind) : Bool := decide (kind = .label)

/-- Whether a qualifier of this kind can be applied to an issue. -/
def isMutable : Kind → Bool
  | .title | .milestone | .label | .assignee | .state => true
  | _ => false

end Kind

end Triage
