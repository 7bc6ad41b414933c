/-
# Triage.Proofs.SettingsApart -- no text is both settings and a snapshot

A snapshot is an object, so its text begins with a brace after white space (`first?_of_read?`): a
document whose text begins otherwise is a plain value, or an array all the way through
(`readFrom_ne_object`, by an invariant of the reader).  Settings do not begin with a brace, since no
key and no header does (`read?_of_first?`).
Main statement: `config_read?_eq_none`.
-/
import Triage.Config
import Triage.Proofs.WrittenJson
import Triage.Snapshot

namespace Triage

set_option autoImplicit false

namespace Json

/-! ## Texts of objects -/

/-- The outermost of the open containers is an array. -/
def InArray : List Frame → Prop
  | [] => False
  | [.array _] => True
  | _ :: stack => InArray stack

/-- What the reader is in is not, as a whole, an object. -/
def Reader.AvoidsObject : Reader → Prop
  | .value stack | .firstName stack | .name _ stack | .colon _ _ stack | .member _ stack =>
    InArray stack
  | .firstItem stack | .item _ stack => stack = [] ∨ InArray stack
  | .done json => ∀ members, json ≠ .object members

theorem inArray_cons {frame : Frame} {stack : List Frame} (inside : InArray stack) :
    InArray (frame :: stack) := by
  cases stack with
  | nil => cases inside
  | cons => cases frame <;> exact inside

theorem inArray_array {items : List Json} {stack : List Frame}
    (open_ : stack = [] ∨ InArray stack) : InArray (.array items :: stack) := by
  rcases open_ with rfl | inside
  · trivial
  · exact inArray_cons inside

namespace Reader

variable {reader next : Reader} {token : Token} {stack : List Frame}

theorem avoidsObject_put (json : Json) (inside : InArray stack) :
    (put json stack).AvoidsObject := by
  match stack, inside with
  | [.array _], _ => exact .inl rfl
  | .array _ :: _ :: _, inside => exact .inr inside
  | .object _ _ :: _ :: _, inside => exact inside

/-- A value that is no object, at the top or inside an array. -/
theorem avoidsObject_put_of_ne {json : Json} (other : ∀ members, json ≠ .object members)
    (open_ : stack = [] ∨ InArray stack) : (put json stack).AvoidsObject := by
  rcases open_ with rfl | inside
  · exact other
  · exact avoidsObject_put json inside

theorem avoidsObject_begin (begun : begin stack token = some next)
    (open_ : (stack = [] ∧ token ≠ .beginObject) ∨ InArray stack) : next.AvoidsObject := by
  have within : stack = [] ∨ InArray stack := open_.imp_left And.left
  cases token with
  | beginArray => cases begun; exact within
  | beginObject =>
      cases begun
      rcases open_ with ⟨-, other⟩ | inside
      · exact absurd rfl other
      · exact inside
  | null | bool | number | string =>
      cases begun
      exact avoidsObject_put_of_ne (by simp) within
  | endArray | endObject | comma | colon => cases begun

theorem avoidsObject_step (avoids : reader.AvoidsObject) (stepped : reader.step token = some next) :
    next.AvoidsObject := by
  unfold step at stepped
  split at stepped
  case h_1 => exact avoidsObject_begin stepped (.inr avoids)
  case h_2 => cases stepped; exact avoidsObject_put_of_ne (by simp) avoids
  case h_3 => exact avoidsObject_begin stepped (.inr (inArray_array avoids))
  case h_4 => cases stepped; exact avoidsObject_put _ avoids
  case h_5 => cases stepped; exact avoids
  case h_6 => cases stepped; exact avoids
  case h_7 => cases stepped; exact inArray_cons avoids
  case h_8 => cases stepped; exact inArray_array avoids
  case h_9 => cases stepped; exact avoidsObject_put_of_ne (by simp) avoids
  case h_10 => cases stepped; exact avoids
  case h_11 => cases stepped; exact avoidsObject_put _ avoids
  case h_12 => cases stepped

end Reader

theorem readFrom_ne_object {reader : Reader} (avoids : reader.AvoidsObject) (text : List Char)
    (members : List (List Char × Json)) : readFrom reader text ≠ some (.object members) := by
  fun_induction readFrom reader text with
  | case1 reader =>
      cases reader <;> simp [Reader.result?]
      exact avoids members
  | case2 reader c rest space ih => exact ih avoids
  | case3 => simp
  | case4 => simp
  | case5 reader c rest space token left cut next stepped ih =>
      exact ih (Reader.avoidsObject_step avoids stepped)

/-- What stands first in a text, after white space. -/
def first? (text : List Char) : Option Char := (text.dropWhile isSpace).head?

theorem first?_cons (c : Char) (rest : List Char) :
    first? (c :: rest) = if isSpace c then first? rest else some c := by
  rw [first?, List.dropWhile_cons]
  split <;> rfl

/-- The text of an object begins, after white space, with its brace. -/
theorem first?_of_read? {text : List Char} {members : List (List Char × Json)}
    (read : read? text = some (.object members)) : first? text = some '\x7b' := by
  rw [read?] at read
  induction text with
  | nil =>
      rw [readFrom_nil] at read
      cases read
  | cons c rest ih =>
      rw [first?_cons]
      cases space : isSpace c with
      | true => exact ih (by rwa [readFrom_space space] at read)
      | false =>
          rw [readFrom, if_neg (by rw [space]; decide)] at read
          split at read
          · cases read
          · next token left cut =>
              split at read
              · cases read
              · next next stepped =>
                  by_cases opens : token = .beginObject
                  · rw [(bracket_of_cut cut).2 opens]
                    rfl
                  · have avoids := Reader.avoidsObject_begin stepped (.inl ⟨rfl, opens⟩)
                    exact absurd read (readFrom_ne_object avoids left members)

end Json

namespace Toml

/-! ## Texts of settings -/

theorem key?_of_not_bare {c : Char} (plain : isBare c = false) (notBasic : c ≠ '"')
    (notLiteral : c ≠ '\'') (rest : List Char) : key? (c :: rest) = none := by
  unfold key?
  split
  · next same => exact absurd (List.cons.inj same).1 notBasic
  · next same => exact absurd (List.cons.inj same).1 notLiteral
  · simp [plain]

/-- No statement begins with such a character. -/
theorem statement?_of_not_bare {c : Char} (plain : isBare c = false) (notBasic : c ≠ '"')
    (notLiteral : c ≠ '\'') (notHeader : c ≠ '[') (rest : List Char) :
    statement? (c :: rest) = none := by
  unfold statement?
  split
  · next same => exact absurd (List.cons.inj same).1 notHeader
  · next same => exact absurd (List.cons.inj same).1 notHeader
  · have noKey : keyPath? maxParts (c :: rest) = none := by
      rw [maxParts, keyPath?, key?_of_not_bare plain notBasic notLiteral]
      rfl
    rw [assignment?, noKey]
    rfl

theorem isSpace_iff {c : Char} : isSpace c = true ↔ c = ' ' ∨ c = '\t' := by
  simp [isSpace]

/-- In a text that begins with a brace, filler ends with this brace or before it, with a carriage
return that ends no line. -/
theorem skipFiller_of_first? {text : List Char} (brace : Json.first? text = some '\x7b') :
    ∃ c rest, skipFiller false text = some (c :: rest) ∧ (c = '\x7b' ∨ c = '\r') := by
  generalize outside : false = inComment
  fun_induction skipFiller inComment text with
  | case1 => cases brace
  | case2 inComment rest ih => exact ih (by simpa [Json.first?_cons, Json.isSpace] using brace) rfl
  | case3 inComment rest ih => exact ih (by simpa [Json.first?_cons, Json.isSpace] using brace) rfl
  | case4 | case5 => cases outside
  | case6 inComment c rest _ _ _ blank ih =>
      have white : Json.isSpace c = true := by
        rcases isSpace_iff.mp blank with rfl | rfl <;> rfl
      rw [Json.first?_cons, if_pos white] at brace
      exact ih brace rfl
  | case7 => cases brace
  | case8 inComment c rest notLine _ _ notBlank _ =>
      refine ⟨c, rest, rfl, ?_⟩
      rw [Json.first?_cons] at brace
      split at brace
      · next white =>
          have : c = ' ' ∨ c = '\t' ∨ c = '\n' ∨ c = '\r' := by
            simpa [Json.isSpace, or_assoc] using white
          rcases this with rfl | rfl | rfl | rfl
          · exact absurd rfl notBlank
          · exact absurd rfl notBlank
          · cases notLine rfl
          · exact .inr rfl
      · exact .inl (Option.some.inj brace)

/-- No settings begin with a brace. -/
theorem read?_of_first? {text : List Char} (brace : Json.first? text = some '\x7b') :
    read? text = none := by
  have unmarked : skipMark text = text := by
    cases text with
    | nil => rfl
    | cons c rest =>
        refine if_neg ?_
        rintro rfl
        cases brace
  obtain ⟨c, rest, skipped, first⟩ := skipFiller_of_first? brace
  have noStatement : statement? (c :: rest) = none := by
    rcases first with rfl | rfl <;>
      exact statement?_of_not_bare (by decide) (by decide) (by decide) (by decide) rest
  rw [read?, unmarked, fill?, skipped]
  simp only [Option.bind_eq_bind, Option.bind_some, noStatement]
  rfl

end Toml

/-- No text is both a snapshot and settings. -/
theorem config_read?_eq_none {text : String} {snapshot : Snapshot}
    (read : Snapshot.read? text = some snapshot) : Config.read? text = none := by
  obtain ⟨json, parsed, taken⟩ := Option.bind_eq_some_iff.mp read
  obtain ⟨members, rfl⟩ : ∃ members, json = .object members := by
    cases json with
    | object members => exact ⟨members, rfl⟩
    | null | bool | number | string | array => cases taken
  rw [Config.read?, Toml.read?_of_first? (Json.first?_of_read? parsed)]
  rfl

end Triage
