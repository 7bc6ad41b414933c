/-
# Triage.Label -- label names and their groups

A label name may carry a group: `priority.high` belongs to the exclusive group `priority`, of which
an issue holds one label at most, and `area-ui` to the shared group `area`. The first point divides
a name, and where there is none the first hyphen; a name that begins with its divider has no group.
-/
import Triage.Text.Lowercase

namespace Triage

open Triage.Text

set_option autoImplicit false

structure Label where
  name : String
deriving DecidableEq

namespace Label

/-- The parts of a name before and after the first `mark`, if it has one. -/
def splitAt (mark : Char) (name : List Char) : Option (List Char × List Char) :=
  match name.dropWhile (· ≠ mark) with
  | [] => none
  | _ :: rest => some (name.takeWhile (· ≠ mark), rest)

/-- A group and the name within it, unless the group would be empty. -/
def grouped (name : List Char) (parts : List Char × List Char) : Option String × String :=
  match parts with
  | ([], _) => (none, String.ofList name)
  | (group, short) => (some (String.ofList group), String.ofList short)

/-- The group of a label name, if any, and the name within the group. -/
def split (name : String) : Option String × String :=
  match splitAt '.' name.toList with
  | some parts => grouped name.toList parts
  | none =>
    match splitAt '-' name.toList with
    | some parts => grouped name.toList parts
    | none => (none, name)

/-- The group of a label name, if it is exclusive. -/
def exclusiveGroup? (name : String) : Option String :=
  match splitAt '.' name.toList with
  | some (c :: group, _) => some (String.ofList (c :: group))
  | _ => none

def group? (label : Label) : Option String := (split label.name).1

def shortName (label : Label) : String := (split label.name).2

def isExclusive (label : Label) : Bool := (exclusiveGroup? label.name).isSome

/-- Whether a label name belongs to an exclusive group of this name, ignoring case. -/
def inExclusiveGroup (group name : String) : Bool :=
  (exclusiveGroup? name).any fun own => sameName own group

/-- Whether a queried label is met by an attached one. `group.` asks for any label of the group,
`group.name` for both parts, and a name without a group for the whole name or the name within its
group. -/
def answers (query attached : String) : Bool :=
  let (group, short) := split attached
  match split query with
  | (some queriedGroup, queried) =>
    group.any (fun own => sameName own queriedGroup) && (queried.isEmpty || sameName short queried)
  | (none, queried) => sameName attached queried || sameName short queried

end Label

end Triage
