/-
# Triage.Failure -- why a command fails

Each constructor is one cause, with the values its message names; `Failure.message` holds the
wording.
-/
import Triage.Expr.Edit
import Triage.Expr.ReadError

namespace Triage

set_option autoImplicit false

/-- What is wrong with a file that a command needs. -/
inductive FileFault where
  | unreadable
  | malformed
deriving DecidableEq

inductive Failure where
  /-- Neither the caller nor a work directory says where the snapshot is. -/
  | notInitialized
  | alreadyInitialized (workDir : String)
  | issueNotFound (id : UInt64)
  /-- The text is no expression. -/
  | expression (error : ReadError)
  /-- The expression is no edit. -/
  | notApplicable (expr : Expr)
  /-- The edit of an issue stopped; what it had set before stays. -/
  | edit (id : UInt64) (error : EditError)
  /-- Pruning was asked for, but no kind was named. -/
  | noKinds
  | config (fault : FileFault)
  | snapshot (path : String) (fault : FileFault)
  | unwritable (path : String)
deriving DecidableEq

namespace Failure

def message : Failure → String
  | .notInitialized => "not initialized: run 'hubq init' first or pass --snapshot"
  | .alreadyInitialized workDir => s!"already initialized at {workDir}"
  | .issueNotFound id => s!"issue not found: #{id}"
  | .expression error => error.message
  | .notApplicable expr =>
    s!"'{expr.text}' cannot be applied to an issue\n  hint: use only title, milestone, label, " ++
      "assignee and state qualifiers joined by AND; only label may repeat"
  | .edit id error => s!"issue #{id}: {error.message}"
  | .noKinds => "either --drop or --keep is required"
  | .config .unreadable => "config error: failed to read config"
  | .config .malformed => "config error: failed to parse config"
  | .snapshot path .unreadable => s!"snapshot error: {path}: cannot be read"
  | .snapshot path .malformed => s!"snapshot error: {path}: not a snapshot"
  | .unwritable path => s!"io error: {path}: cannot be written"

/-- Whether the edits made before the failure are kept. -/
def keepsEdits : Failure → Bool
  | .edit _ _ => true
  | _ => false

end Failure

end Triage
