/-
# Triage.Main -- the command line

The program reads the part of the file system that a command can see into a tree, runs the command
on it, and writes the difference back. Errors go to the error output; the exit code is 1 for a
command that failed and 2 for a command line that is not in order.
-/
import Std.Time.DateTime
import Triage.Arguments

namespace Triage.Main

set_option autoImplicit false

def version : String := "hubq 0.1.0"

def usage : String :=
  "Query and edit issue snapshots with filter expressions\n\n" ++
  "Usage: hubq [--snapshot <path>] <command>\n\n" ++
  "Commands:\n" ++
  "  init [path]                                     make a work directory\n" ++
  "  query <expr> [-o text|json]                     list issues matching an expression\n" ++
  "  apply <expr> <ids>...                           set the fields an expression names\n" ++
  "  prune <expr> (--drop <kind> | --keep <kind>)... remove qualifiers by kind\n" ++
  "  check <expr>                                    show how an expression reads\n"

/-! ## What the program sees -/

/-- The value of a variable in the table of the environment, where every entry ends with a zero. -/
def variableIn (table : ByteArray) (name : String) : Variable :=
  let front := (name ++ "=").toUTF8.toList
  let entries := table.toList.splitBy fun byte _ => byte ≠ 0
  match entries.find? front.isPrefixOf with
  | none => .unset
  | some entry =>
    let value := (entry.drop front.length).filter (· ≠ 0)
    match String.fromUTF8? ⟨value.toArray⟩ with
    | some text => .text text
    | none => .notUnicode

/-- The value of a variable. Where no table can be read all values are taken for texts. -/
def readVariable (name : String) : IO Variable := do
  try return variableIn (← IO.FS.readBinFile "/proc/self/environ") name
  catch _ => return (← IO.getEnv name)

/-- The place of an absolute path. -/
def placeOf (path : String) : Location := (Path.names path).filter fun name => !name.isEmpty

/-- The places that following a path can touch. -/
def placesAlong (here : Location) (path : String) : List Location :=
  let walk (places : List Location) (name : String) : List Location :=
    let place := places.headD []
    (if name = "" ∨ name = "." then place
      else if name = ".." then place.dropLast else place ++ [name]) :: places
  (Path.names path).foldl walk [FileTree.start here path]

/-- Whether a path leads to a directory. -/
def isDirectory (path : String) : IO Bool := do
  try
    let _ ← IO.FS.realPath (path ++ "/.")
    return true
  catch _ => return false

/-- Adds what is at a place to a tree, if anything is. -/
def observe (tree : FileTree) (place : Location) : IO FileTree := do
  if place.isEmpty then return tree
  else if ← isDirectory place.path then return tree.put place .directory
  else
    try return tree.put place (.file (← IO.FS.readFile place.path))
    catch _ => return tree

/-- Adds all that following some paths can find. -/
def observePaths (tree : FileTree) (here : Location) (paths : List String) : IO FileTree :=
  let places := paths.flatMap fun path => (placesAlong here path).flatMap Location.ancestors
  places.eraseDups.foldlM observe tree

/-- The paths that a command may follow, whatever the settings say. -/
def pathsOf (invocation : Invocation) (setting : Setting) : List String :=
  let workDirs := setting.here.ancestors.map fun place =>
    Path.join (Path.join place.path Workspace.directoryName) Workspace.configName
  let target := match invocation.command with
    | .create target => [Path.join (target.getD setting.here.path) Workspace.directoryName]
    | _ => []
  workDirs ++ target ++ invocation.snapshot.toList ++ setting.envSnapshot.text?.toList

/-- The tree for a command: the snapshot comes last, for the settings may name it. -/
def survey (invocation : Invocation) (setting : Setting) : IO FileTree := do
  let tree ← observePaths {} setting.here (pathsOf invocation setting)
  match Workspace.resolve tree setting invocation.snapshot with
  | .ok source => observePaths tree setting.here [source.path]
  | .error _ => return tree

/-! ## What the program does -/

/-- Makes the new directories and writes the changed files, the first made first. -/
def writeBack (before after : FileTree) : IO Unit := do
  for (place, entry) in after.entries.reverse do
    unless before.get? place = some entry do
      match entry with
      | .directory => IO.FS.createDirAll place.path
      | .file text => IO.FS.writeFile place.path text

/-- The present time. -/
def now? : IO (Option Instant) := do
  let time := (← Std.Time.Timestamp.now).val
  let seconds := time.second.val
  let date := Std.Time.PlainDate.ofEpochDay ⟨seconds / 86400⟩
  let second := (seconds % 86400).toNat
  return do
    let date ← Date.of? date.year.toInt date.month.val.toNat date.day.val.toNat
    let clock ← Clock.of? (second / 3600) (second / 60 % 60) (second % 60) time.nano.val.toNat
    return ⟨date, clock⟩

def complain (message : String) : IO UInt32 := do
  IO.eprintln s!"error: {message}"
  return 1

def run (invocation : Invocation) : IO UInt32 := do
  let some now ← now? | complain "the clock is out of reach"
  let here := placeOf (← IO.currentDir).toString
  let setting : Setting := { here, envSnapshot := ← readVariable "HUBQ_SNAPSHOT", now }
  let tree ← survey invocation setting
  let outcome := invocation.run tree setting
  writeBack tree outcome.tree
  IO.print outcome.output
  match outcome.failure with
  | none => return 0
  | some failure => complain failure.message

end Triage.Main

open Triage in
def main (arguments : List String) : IO UInt32 := do
  match Request.read? arguments with
  | some (.run invocation) =>
    try Main.run invocation
    catch fault => Main.complain s!"io error: {fault}"
  | some .help =>
    IO.print Main.usage
    return 0
  | some .version =>
    IO.println Main.version
    return 0
  | none =>
    IO.eprint Main.usage
    return 2
