/-
# Triage.Command -- the commands

Every command is a function of a tree of files and a setting. It prints a text, may fail, and
leaves a tree behind. Only `create` and `apply` write; `apply` writes the snapshot back if all
edits succeeded or the last one stopped halfway, and leaves it alone after any other failure.
-/
import Triage.Batch
import Triage.Expr.Pruning
import Triage.Expr.Selection
import Triage.Listing
import Triage.Workspace

namespace Triage

set_option autoImplicit false

inductive Command where
  /-- Makes a work directory in a directory, or here. -/
  | create (target : Option String)
  /-- Lists the issues that satisfy an expression. -/
  | query (expr : String) (format : Option Format)
  /-- Sets the fields that an expression names on some issues. -/
  | apply (expr : String) (ids : List UInt64)
  /-- Prints an expression without some kinds of qualifier, or with some kinds only. -/
  | prune (expr : String) (drop keep : List Kind)
  /-- Prints how an expression reads and whether it can be applied. -/
  | check (expr : String)
deriving DecidableEq

/-- A command with the snapshot that the caller names. -/
structure Invocation where
  snapshot : Option String := none
  command : Command
deriving DecidableEq

/-- What a command leaves behind. -/
structure Outcome where
  tree : FileTree
  output : String := ""
  failure : Option Failure := none

/-! ## Answers that need no file -/

namespace Expr

/-- The canonical text, with a word for the empty expression. -/
def shown (expr : Expr) : String := if expr.isEmpty then "(empty)" else expr.text

/-- Keeps the qualifiers of the kinds to keep, if there are any; otherwise removes those of the
kinds to drop. -/
def pruneKinds (drop keep : List Kind) (expr : Expr) : Expr :=
  if keep.isEmpty then expr.withoutKinds drop else expr.onlyKinds keep

/-- Whether an expression can be applied, in words. -/
def verdict (expr : Expr) : String :=
  if expr.isApplicable then "yes"
  else if hasConflict expr.kinds then "no (a qualifier kind repeats)"
  else "no"

/-- How an expression reads. -/
def report (expr : Expr) : String :=
  unlines [s!"expression: {expr.text}",
    "qualifiers: " ++ ", ".intercalate (expr.kinds.map Kind.name),
    s!"applicable: {expr.verdict}"]

end Expr

/-- Reads the expression of a command. -/
def readExpr (text : String) : Except Failure Expr := (Expr.read text).mapError .expression

namespace Command

def pruned (text : String) (drop keep : List Kind) : Except Failure String := do
  let expr ← readExpr text
  if drop.isEmpty && keep.isEmpty then .error .noKinds
  else .ok (unlines [(expr.pruneKinds drop keep).shown])

def checked (text : String) : Except Failure String := (readExpr text).map Expr.report

/-- The issues of a snapshot that satisfy an expression. -/
def found (snapshot : Snapshot) (text : String) (format : Format) : Except Failure String := do
  let expr ← readExpr text
  return listing format snapshot.catalog expr (expr.select snapshot.catalog snapshot.issues)

/-! ## Runs -/

/-- The outcome of a command that changes no file. -/
def reply (tree : FileTree) : Except Failure String → Outcome
  | .ok output => { tree, output }
  | .error failure => { tree, failure := some failure }

def runCreate (tree : FileTree) (setting : Setting) (target : Option String) : Outcome :=
  let workDir := Path.join (target.getD setting.here.path) Workspace.directoryName
  let change := Workspace.create tree setting.here workDir
  match change.failure with
  | some failure => { tree := change.tree, failure := some failure }
  | none => { tree := change.tree, output := unlines [s!"Initialized hubq in {workDir}"] }

def runQuery (tree : FileTree) (setting : Setting) (flag : Option String) (expr : String)
    (format : Option Format) : Outcome :=
  reply tree do
    let (source, snapshot) ← Workspace.load tree setting flag
    found snapshot expr (format.getD source.config.format)

def runApply (tree : FileTree) (setting : Setting) (flag : Option String) (expr : String)
    (ids : List UInt64) : Outcome :=
  match Workspace.load tree setting flag with
  | .error failure => { tree, failure := some failure }
  | .ok (source, snapshot) =>
    let batch := snapshot.apply expr ids setting.clock
    let output := unlines batch.lines
    if batch.failure.all Failure.keepsEdits then
      let change := Workspace.write tree setting.here source.path batch.snapshot.text
      { tree := change.tree, output, failure := change.failure <|> batch.failure }
    else { tree, output, failure := batch.failure }

end Command

/-- Runs a command. -/
def Invocation.run (invocation : Invocation) (tree : FileTree) (setting : Setting) : Outcome :=
  match invocation.command with
  | .create target => Command.runCreate tree setting target
  | .query expr format => Command.runQuery tree setting invocation.snapshot expr format
  | .apply expr ids => Command.runApply tree setting invocation.snapshot expr ids
  | .prune expr drop keep => Command.reply tree (Command.pruned expr drop keep)
  | .check expr => Command.reply tree (Command.checked expr)

end Triage
