/-
# Triage.Json.Record -- reading values out of documents

A record is written as an object, with its fields in any order and other members ignored, or as an
array of its first fields in their order. No field may be given twice. A document is readable as a
whole when its strings are texts, its numbers are in range and its nesting is not too deep.
-/
import Triage.Json.Basic
import Triage.Json.Magnitude
import Triage.Json.Spelling
import Triage.Text.Decimal

namespace Triage.Json

set_option autoImplicit false

/-! ## Plain values -/

def bool? : Json → Option Bool
  | .bool b => some b
  | _ => none

/-- The text of a string. -/
def text? : Json → Option String
  | .string spelling => (unescape spelling).map String.ofList
  | _ => none

/-- A number that is written with digits only and fits into 64 bits. -/
def word? : Json → Option UInt64
  | .number spelling => if spelling.all Char.isDigit then Text.readWord spelling else none
  | _ => none

/-- The items of an array, each read by `read`. -/
def list? {α : Type} (read : Json → Option α) : Json → Option (List α)
  | .array items => items.mapM read
  | _ => none

/-- A value that may be `null`. -/
def nullable? {α : Type} (read : Json → Option α) : Json → Option (Option α)
  | .null => some none
  | json => (read json).map some

/-! ## Records -/

/-- The fields that a record gives, by name. -/
abbrev Record := List (String × Json)

/-- The members of an object under the texts of their names. -/
def members? : Json → Option Record
  | .object members =>
    members.mapM fun (name, json) => (unescape name).map fun name => (String.ofList name, json)
  | _ => none

/-- The fields among `names`, none of which is given twice. -/
def Record.pick? (names : List String) (record : Record) : Option Record :=
  let fields := record.filter fun field => decide (field.1 ∈ names)
  if (fields.map Prod.fst).Nodup then some fields else none

/-- Reads a record whose fields have these names. -/
def record? (names : List String) : Json → Option Record
  | .array items => if items.length ≤ names.length then some (names.zip items) else none
  | json => json.members?.bind (Record.pick? names)

namespace Record

/-- A field that must be given. -/
def required? {α : Type} (record : Record) (name : String) (read : Json → Option α) : Option α :=
  (record.lookup name).bind read

/-- A field that has a value when it is not given. -/
def optional? {α : Type} (record : Record) (name : String) (otherwise : α)
    (read : Json → Option α) : Option α :=
  match record.lookup name with
  | some json => read json
  | none => some otherwise

end Record

/-! ## Whole documents -/

/-- Whether every part of a document can be read as a value, inside `depth` containers at most. -/
def isReadable : Nat → Json → Bool
  | _, .null | _, .bool _ => true
  | _, .number spelling => isFinite spelling
  | _, .string spelling => (unescape spelling).isSome
  | 0, .array _ | 0, .object _ => false
  | depth + 1, .array items => items.all (isReadable depth)
  | depth + 1, .object members =>
    members.all fun (name, json) => (unescape name).isSome && isReadable depth json

end Triage.Json
