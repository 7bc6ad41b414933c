/-
# Triage.Workspace -- where the data of a command is

A work directory holds the settings and, unless they say otherwise, the snapshot. A command uses
the work directory of the nearest directory above it that has one. Its settings are read in any
case; a snapshot named by the caller or by the environment goes before the one they name. Main
definitions: `Workspace.resolve`, the path of the snapshot with the settings, and
`Workspace.create`.
-/
import Triage.Config
import Triage.Failure
import Triage.Files.Tree
import Triage.Snapshot

namespace Triage

set_option autoImplicit false

/-- The value of a variable of the environment. -/
inductive Variable where
  | unset
  /-- Bytes that are no Unicode text. -/
  | notUnicode
  | text (value : String)
deriving DecidableEq

namespace Variable

def ofText? : Option String → Variable
  | none => .unset
  | some value => .text value

instance : Coe (Option String) Variable := ⟨ofText?⟩

/-- The text of a variable; one that is not Unicode has none, as if it were not set. -/
def text? : Variable → Option String
  | .text value => some value
  | .unset | .notUnicode => none

end Variable

/-- Where and when a command runs. -/
structure Setting where
  here : Location := []
  /-- The snapshot that the environment names. An empty path names none, and neither does a value
  that is not Unicode, which counts as unset. -/
  envSnapshot : Variable := .unset
  now : Instant
  /-- The time at each edit of a command, the first edit being number zero. -/
  clock : Nat → Instant := fun _ => now

/-- The path of a snapshot, and the settings that go with it. -/
structure Source where
  path : String
  config : Config
deriving DecidableEq

namespace Workspace

/-- The name of every work directory. -/
def directoryName : String := ".hubq"

/-- The name of the settings in a work directory. -/
def configName : String := "config.toml"

/-- The nearest work directory. -/
def nearest? (tree : FileTree) (here : Location) : Option Location :=
  (here.ancestors.map (· ++ [directoryName])).find? tree.isDirectory

/-- The settings of a work directory. -/
def config (tree : FileTree) (workDir : Location) : Except Failure Config :=
  match tree.read? [] (Path.join workDir.path configName) with
  | none => .error (.config .unreadable)
  | some text =>
    match Config.read? text with
    | none => .error (.config .malformed)
    | some config => .ok config

/-- The path that the caller or the environment names. -/
def named? (setting : Setting) (flag : Option String) : Option String :=
  flag <|> setting.envSnapshot.text?.filter fun path => !path.isEmpty

/-- Finds the snapshot of a command that runs in a setting. -/
def resolve (tree : FileTree) (setting : Setting) (flag : Option String) :
    Except Failure Source :=
  match nearest? tree setting.here with
  | some workDir => do
    let config ← config tree workDir
    return ⟨(named? setting flag).getD (config.snapshotPath workDir.path), config⟩
  | none =>
    match named? setting flag with
    | some path => .ok ⟨path, {}⟩
    | none => .error .notInitialized

/-- Reads the snapshot at a path. -/
def snapshot (tree : FileTree) (here : Location) (path : String) : Except Failure Snapshot :=
  match tree.read? here path with
  | none => .error (.snapshot path .unreadable)
  | some text =>
    match Snapshot.read? text with
    | none => .error (.snapshot path .malformed)
    | some snapshot => .ok snapshot

/-- Finds and reads the snapshot of a command. -/
def load (tree : FileTree) (setting : Setting) (flag : Option String) :
    Except Failure (Source × Snapshot) := do
  let source ← resolve tree setting flag
  return (source, ← snapshot tree setting.here source.path)

/-- A tree after a change of files, which may have failed halfway. -/
structure Change where
  tree : FileTree
  failure : Option Failure := none

/-- Writes a file. -/
def write (tree : FileTree) (here : Location) (path text : String) : Change :=
  match tree.write? here path text with
  | some tree => ⟨tree, none⟩
  | none => ⟨tree, some (.unwritable path)⟩

/-- Makes a work directory in a directory, with settings and an empty snapshot, and the directory
itself if it does not exist. -/
def create (tree : FileTree) (here : Location) (workDir : String) : Change :=
  if (tree.entry? here workDir).isSome then ⟨tree, some (.alreadyInitialized workDir)⟩
  else
    let (tree, made) := tree.makeDirectories here workDir
    if !made then ⟨tree, some (.unwritable workDir)⟩
    else
      let config : Config := {}
      let settled := write tree here (Path.join workDir configName) config.text
      match settled.failure with
      | some _ => settled
      | none =>
        write settled.tree here (config.snapshotPath workDir) ({} : Snapshot).text

end Workspace

end Triage
