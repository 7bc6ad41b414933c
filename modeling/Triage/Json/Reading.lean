/-
# Triage.Json.Reading -- reading a JSON text

A reader takes one token at a time and keeps the containers that are still open on a stack, so
that no nesting is too deep for it. White space is a space, a tab, a line feed or a carriage
return. Main definition: `Json.read?`, the document of a text that holds nothing else.
-/
import Triage.Json.Basic
import Triage.Json.Token

namespace Triage.Json

set_option autoImplicit false

/-- A container that is open, with what it holds so far, last first. -/
inductive Frame where
  | array (items : List Json)
  /-- `key` names the member whose value comes next. -/
  | object (members : List (List Char × Json)) (key : List Char)

/-- What has been read, and what may come next. -/
inductive Reader where
  /-- A value comes next. -/
  | value (stack : List Frame)
  /-- An array has just begun. -/
  | firstItem (stack : List Frame)
  /-- An object has just begun. -/
  | firstName (stack : List Frame)
  /-- A name comes next. -/
  | name (members : List (List Char × Json)) (stack : List Frame)
  /-- A colon comes next. -/
  | colon (members : List (List Char × Json)) (key : List Char) (stack : List Frame)
  /-- An item has been read. -/
  | item (items : List Json) (stack : List Frame)
  /-- A member has been read. -/
  | member (members : List (List Char × Json)) (stack : List Frame)
  /-- The document is complete. -/
  | done (json : Json)

namespace Reader

/-- Puts a complete value into the innermost open container. -/
def put (json : Json) : List Frame → Reader
  | [] => .done json
  | .array items :: stack => .item (json :: items) stack
  | .object members key :: stack => .member ((key, json) :: members) stack

/-- Begins a value with a token. -/
def begin (stack : List Frame) : Token → Option Reader
  | .beginArray => some (.firstItem stack)
  | .beginObject => some (.firstName stack)
  | .null => some (put .null stack)
  | .bool b => some (put (.bool b) stack)
  | .number spelling => some (put (.number spelling) stack)
  | .string spelling => some (put (.string spelling) stack)
  | .endArray | .endObject | .comma | .colon => none

/-- Takes one token. -/
def step : Reader → Token → Option Reader
  | .value stack, token => begin stack token
  | .firstItem stack, .endArray => some (put (.array []) stack)
  | .firstItem stack, token => begin (.array [] :: stack) token
  | .firstName stack, .endObject => some (put (.object []) stack)
  | .firstName stack, .string key => some (.colon [] key stack)
  | .name members stack, .string key => some (.colon members key stack)
  | .colon members key stack, .colon => some (.value (.object members key :: stack))
  | .item items stack, .comma => some (.value (.array items :: stack))
  | .item items stack, .endArray => some (put (.array items.reverse) stack)
  | .member members stack, .comma => some (.name members stack)
  | .member members stack, .endObject => some (put (.object members.reverse) stack)
  | _, _ => none

/-- The document, if it is complete. -/
def result? : Reader → Option Json
  | .done json => some json
  | _ => none

end Reader

def isSpace (c : Char) : Bool := c = ' ' || c = '\t' || c = '\n' || c = '\r'

/-- Reads on to the end of a text. -/
def readFrom (reader : Reader) (text : List Char) : Option Json :=
  match text with
  | [] => reader.result?
  | c :: rest =>
    if isSpace c then readFrom reader rest
    else match _h : Token.cut c rest with
      | none => none
      | some (token, left) =>
        match reader.step token with
        | none => none
        | some next => readFrom next left
termination_by text.length
decreasing_by
  · simp
  · simpa using Token.cut_length_lt _h

/-- The document that a text spells. -/
def read? (text : List Char) : Option Json := readFrom (.value []) text

end Triage.Json
