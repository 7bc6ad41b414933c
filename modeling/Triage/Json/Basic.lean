/-
# Triage.Json.Basic -- JSON documents as they are written

A document keeps the spelling of its literals: a string is the text between its quotes, escapes
included, and a number is its digits. What a spelling means is decided where it is used, so that a
part nobody asks for need only be well formed. Members keep their order and their repeats.
-/

namespace Triage

set_option autoImplicit false

inductive Json where
  | null
  | bool (value : Bool)
  | number (spelling : List Char)
  | string (spelling : List Char)
  | array (items : List Json)
  | object (members : List (List Char × Json))

end Triage
