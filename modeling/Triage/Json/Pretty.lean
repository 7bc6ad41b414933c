/-
# Triage.Json.Pretty -- JSON texts, indented

Every item and member stands on a line of its own, indented by two spaces for each container
around it. An empty container is a pair of brackets, and a member has a space after its colon.
-/
import Triage.Json.Basic
import Triage.Json.Spelling
import Triage.Text.Decimal

namespace Triage.Json

set_option autoImplicit false

/-! ## Documents of plain values -/

def ofText (text : String) : Json := .string (escape text.toList)

def ofWord (n : UInt64) : Json := .number (Text.decimal n.toNat)

/-- An object of these members. -/
def ofMembers (members : List (String × Json)) : Json :=
  .object (members.map fun (name, json) => (escape name.toList, json))

/-! ## Written form -/

/-- A line break and the indentation of a depth. -/
def newline (depth : Nat) : List Char := '\n' :: List.replicate (2 * depth) ' '

def quote (spelling : List Char) : List Char := '"' :: spelling ++ ['"']

mutual

/-- The text of a document inside `depth` containers. -/
def prettyChars (depth : Nat) : Json → List Char
  | .null => ['n', 'u', 'l', 'l']
  | .bool true => ['t', 'r', 'u', 'e']
  | .bool false => ['f', 'a', 'l', 's', 'e']
  | .number spelling => spelling
  | .string spelling => quote spelling
  | .array [] => ['[', ']']
  | .array (item :: items) =>
    '[' :: newline (depth + 1) ++ prettyChars (depth + 1) item ++ prettyItems (depth + 1) items ++
      newline depth ++ [']']
  | .object [] => ['\x7b', '\x7d']
  | .object ((name, json) :: members) =>
    '\x7b' :: newline (depth + 1) ++ quote name ++ ':' :: ' ' :: prettyChars (depth + 1) json ++
      prettyMembers (depth + 1) members ++ newline depth ++ ['\x7d']

/-- The items after the first, each after a comma. -/
def prettyItems (depth : Nat) : List Json → List Char
  | [] => []
  | item :: items => ',' :: newline depth ++ prettyChars depth item ++ prettyItems depth items

/-- The members after the first, each after a comma. -/
def prettyMembers (depth : Nat) : List (List Char × Json) → List Char
  | [] => []
  | (name, json) :: members =>
    ',' :: newline depth ++ quote name ++ ':' :: ' ' :: prettyChars depth json ++
      prettyMembers depth members

end

/-- The text of a document. -/
def pretty (json : Json) : String := String.ofList (prettyChars 0 json)

end Triage.Json
