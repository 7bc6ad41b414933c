/-
# Triage.Config -- the settings of a workspace

A workspace says where its snapshot is and in which format queries are answered; both have a
default. The settings are kept as a TOML document, in which other entries are ignored. Main
statement: `read?_text`, written settings read back.
-/
import Triage.Files.Path
import Triage.Toml.Quoted

namespace Triage

open Toml

set_option autoImplicit false

/-- The format of an answer. -/
inductive Format where
  | text
  | json
deriving DecidableEq

namespace Format

def name : Format → String
  | .text => "text"
  | .json => "json"

/-- The format whose name is exactly this. -/
def ofName? (name : String) : Option Format :=
  if name = "text" then some .text else if name = "json" then some .json else none

/-- A format is written as its name, or as a table whose only entry has that name and holds
nothing. -/
def ofValue? : Value → Option Format
  | .text name => ofName? name
  | .inline [(name, value)] | .table _ [(name, value)] =>
    if value.isHollow then ofName? name else none
  | _ => none

end Format

structure Config where
  /-- The path of the snapshot, seen from the work directory. -/
  snapshot : String := "snapshot.json"
  format : Format := .text
deriving DecidableEq

namespace Config

/-- Entries with other keys are ignored, but their numbers must be within range. -/
def ofEntries? (entries : Entries) : Option Config := do
  guard (entries.all fun (key, value) => key = "snapshot" || key = "format" || value.inRange)
  let snapshot ← match entries.lookup "snapshot" with
    | none => some ({} : Config).snapshot
    | some (.text path) => some path
    | some _ => none
  let format ← match entries.lookup "format" with
    | none => some ({} : Config).format
    | some value => Format.ofValue? value
  return { snapshot, format }

/-- The settings of a file text. -/
def read? (text : String) : Option Config := (Toml.read? text.toList).bind ofEntries?

/-- The settings as a document of two lines. -/
def chars (config : Config) : List Char :=
  line "snapshot".toList config.snapshot.toList ++ line "format".toList config.format.name.toList

def text (config : Config) : String := String.ofList config.chars

theorem read?_chars (config : Config) :
    Toml.read? config.chars =
      some [("snapshot", .text config.snapshot), ("format", .text config.format.name)] := by
  obtain ⟨steps, h⟩ : ∃ n, config.chars.length = n + 2 :=
    ⟨config.chars.length - 2, by simp [chars, line]⟩
  have unmarked : skipMark config.chars = config.chars := rfl
  have first : Document.add {} (.assign [] "snapshot" (.text config.snapshot)) =
      some ⟨⟨.header, [("snapshot", .text config.snapshot)]⟩, []⟩ := rfl
  have second : Document.add ⟨⟨.header, [("snapshot", .text config.snapshot)]⟩, []⟩
        (.assign [] "format" (.text config.format.name)) =
      some ⟨⟨.header, [("snapshot", .text config.snapshot),
        ("format", .text config.format.name)]⟩, []⟩ := rfl
  have lines : config.chars = line "snapshot".toList config.snapshot.toList ++
      (line "format".toList config.format.name.toList ++ []) := by
    rw [chars, List.append_nil]
  rw [Toml.read?, unmarked, h, lines,
    fill?_line _ _ _ _ _ (by decide +kernel) (by decide +kernel)]
  simp only [String.ofList_toList]
  rw [first, Option.bind_some, fill?_line _ _ _ _ _ (by decide +kernel) (by decide +kernel)]
  simp only [String.ofList_toList]
  rw [second]
  rfl

/-- Written settings read back. -/
theorem read?_text (config : Config) : read? config.text = some config := by
  have entries : ofEntries? [("snapshot", .text config.snapshot),
      ("format", .text config.format.name)] = some config := by
    obtain ⟨snapshot, format⟩ := config
    cases format <;> rfl
  rw [read?, text, String.toList_ofList, read?_chars]
  exact entries

/-- The path of the snapshot of a work directory. -/
def snapshotPath (config : Config) (workDir : String) : String :=
  Path.join workDir config.snapshot

end Config

end Triage
