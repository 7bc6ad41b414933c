/-
# Triage.Arguments -- what the words of a command line ask for

A command line names a command and gives it words and options; the option for the snapshot may
also stand before the command. Every option takes a value, attached to it or as the next argument,
which then does not begin with a hyphen. After `--` all arguments are words. Arguments are taken
from left to right, and the first that is wrong or asks for help decides. Main definition:
`Request.read?`.
-/
import Triage.Command

namespace Triage

open Triage.Text

set_option autoImplicit false

/-- The commands by name. -/
inductive Verb where
  | create
  | query
  | apply
  | prune
  | check
deriving DecidableEq

/-- The options that take a value. -/
inductive Flag where
  | snapshot
  | output
  | drop
  | keep
deriving DecidableEq

inductive Request where
  | run (invocation : Invocation)
  | help
  | version
deriving DecidableEq

namespace Verb

def all : List Verb := [.create, .query, .apply, .prune, .check]

def name : Verb → String
  | .create => "init"
  | .query => "query"
  | .apply => "apply"
  | .prune => "prune"
  | .check => "check"

def ofName? (name : String) : Option Verb := all.find? fun verb => decide (verb.name = name)

/-- The options of a command. -/
def flags : Verb → List Flag
  | .query => [.snapshot, .output]
  | .prune => [.snapshot, .drop, .keep]
  | .create | .apply | .check => [.snapshot]

end Verb

namespace Flag

def name : Flag → String
  | .snapshot => "snapshot"
  | .output => "output"
  | .drop => "drop"
  | .keep => "keep"

/-- The short form of an option. -/
def letter? : Flag → Option Char
  | .output => some 'o'
  | _ => none

end Flag

/-! ## One argument -/

/-- The part of a command line that arguments are read for: before the name of the command, or
after it. -/
inductive Level where
  | root
  | after (verb : Verb)

/-- What an argument is by its form. -/
inductive Argument where
  | word
  /-- Two hyphens. -/
  | separator
  | option (flag : Flag) (attached : Option String)
  | help
  | version
  | unknown
deriving DecidableEq

namespace Level

def flags : Level → List Flag
  | .root => [.snapshot]
  | .after verb => verb.flags

def isRoot : Level → Bool
  | .root => true
  | .after _ => false

/-- An argument of two hyphens and a name, perhaps with a value after an equals sign. -/
def readLong (level : Level) (body : List Char) : Argument :=
  let name := String.ofList (body.takeWhile (· ≠ '='))
  let attached := match body.dropWhile (· ≠ '=') with
    | _ :: value => some (String.ofList value)
    | [] => none
  if name = "help" ∧ attached = none then .help
  else if name = "version" ∧ attached = none ∧ level.isRoot then .version
  else match level.flags.find? fun flag => decide (flag.name = name) with
    | some flag => .option flag attached
    | none => .unknown

/-- An argument of one hyphen and a letter, perhaps with a value right after it or after an equals
sign. -/
def readShort (level : Level) (letter : Char) (body : List Char) : Argument :=
  let attached := match body with
    | [] => none
    | '=' :: value | value => some (String.ofList value)
  if letter = 'h' then .help
  else if letter = 'V' ∧ level.isRoot then .version
  else match level.flags.find? fun flag => decide (flag.letter? = some letter) with
    | some flag => .option flag attached
    | none => .unknown

/-- A single hyphen is a word. -/
def readArgument (level : Level) (text : String) : Argument :=
  match text.toList with
  | ['-', '-'] => .separator
  | '-' :: '-' :: body => level.readLong body
  | '-' :: letter :: body => level.readShort letter body
  | _ => .word

end Level

/-- Whether an argument is a word at any level. -/
def isWord (text : String) : Bool := decide (Level.root.readArgument text = .word)

/-! ## The arguments of a level -/

/-- What was read so far. -/
structure Draft where
  snapshot : Option String := none
  format : Option Format := none
  drop : List Kind := []
  keep : List Kind := []
  words : List String := []

namespace Draft

/-- Adds an option; the kinds of an option collect, any other option is given once. -/
def addOption (draft : Draft) (flag : Flag) (value : String) : Option Draft :=
  match flag with
  | .snapshot =>
    if draft.snapshot.isSome ∨ value = "" then none else some { draft with snapshot := some value }
  | .output =>
    if draft.format.isSome then none
    else (Format.ofName? value).map fun format => { draft with format := some format }
  | .drop => (Kind.ofName? value).map fun kind => { draft with drop := draft.drop ++ [kind] }
  | .keep => (Kind.ofName? value).map fun kind => { draft with keep := draft.keep ++ [kind] }

/-- Adds a word for a command: a path, or an expression and, to apply it, ids. -/
def addWord (verb : Verb) (draft : Draft) (word : String) : Option Draft :=
  let fits := match verb with
    | .create => draft.words.isEmpty && !word.isEmpty
    | .query | .prune | .check => draft.words.isEmpty
    | .apply => draft.words.isEmpty || (readWord word.toList).isSome
  if fits then some { draft with words := draft.words ++ [word] } else none

/-- The command, if all that it needs is there. -/
def command? (verb : Verb) (draft : Draft) : Option Command :=
  match verb, draft.words with
  | .create, words => some (.create words.head?)
  | .query, [expr] => some (.query expr draft.format)
  | .apply, expr :: id :: ids =>
    ((id :: ids).mapM fun word => readWord word.toList).map (.apply expr)
  | .prune, [expr] =>
    if draft.drop.isEmpty = draft.keep.isEmpty then none
    else some (.prune expr draft.drop draft.keep)
  | .check, [expr] => some (.check expr)
  | _, _ => none

end Draft

/-- How the arguments of a level end. -/
inductive Ending where
  | done
  /-- With the name of a command, and its arguments. -/
  | command (name : String) (arguments : List String)
  | help
  | version

/-- Reads the arguments of a level. -/
def Level.read? (level : Level) (draft : Draft) : List String → Option (Draft × Ending)
  | [] => some (draft, .done)
  | argument :: rest =>
    match level.readArgument argument with
    | .word =>
      match level with
      | .root => some (draft, .command argument rest)
      | .after verb => (draft.addWord verb argument).bind fun draft => level.read? draft rest
    | .separator =>
      match level with
      | .root => none
      | .after verb => (rest.foldlM (Draft.addWord verb) draft).map (·, .done)
    | .option flag (some value) =>
      (draft.addOption flag value).bind fun draft => level.read? draft rest
    | .option flag none =>
      match rest with
      | value :: rest =>
        if isWord value then (draft.addOption flag value).bind fun draft => level.read? draft rest
        else none
      | [] => none
    | .help => some (draft, .help)
    | .version => some (draft, .version)
    | .unknown => none

namespace Request

/-- The word that asks for help where a command could stand. -/
def helpName : String := "help"

/-- Help may name one command, or itself. -/
def readHelp? (arguments : List String) : Option Request :=
  match arguments with
  | [] => some .help
  | [name] =>
    if (Verb.ofName? name).isSome ∨ name = helpName then some .help else none
  | _ => none

/-- The command of a name with its arguments. A snapshot named here goes before one named in front
of the command. -/
def readCommand? (front : Draft) (name : String) (arguments : List String) : Option Request := do
  let verb ← Verb.ofName? name
  match ← Level.read? (.after verb) {} arguments with
  | (draft, .done) =>
    return .run ⟨draft.snapshot <|> front.snapshot, ← draft.command? verb⟩
  | (_, .help) => return .help
  | _ => none

/-- What the arguments of a command line ask for, if they are in order. -/
def read? (arguments : List String) : Option Request := do
  match ← Level.root.read? {} arguments with
  | (front, .command name rest) =>
    if name = helpName then readHelp? rest else readCommand? front name rest
  | (_, .help) => return .help
  | (_, .version) => return .version
  | (_, .done) => none

end Request

end Triage
