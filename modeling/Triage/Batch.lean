/-
# Triage.Batch -- an edit of several issues

An expression is applied to the issues of a list of ids, in the order of the list. Every id is
looked up before any issue is touched, and the first edit that fails ends the batch. An issue that
an edit changed gets a new time of update. Main definition: `Snapshot.apply`.
-/
import Triage.Expr.Reading
import Triage.Failure
import Triage.Snapshot

namespace Triage

set_option autoImplicit false

/-- A snapshot after a batch, a line for every edit that succeeded, and what ended the batch
early. -/
structure Batch where
  snapshot : Snapshot
  lines : List String
  failure : Option Failure

/-- An issue after an edit: if anything changed, its time of update is `now`. -/
def Edited.stamp (now : Instant) (before : Issue) (edited : Edited) : Issue :=
  if edited.issue = before then before else { edited.issue with updatedAt := now }

namespace Snapshot

/-- The line that reports an edit. -/
def appliedLine (expr : Expr) (id : UInt64) : String := s!"Applied {expr.text} to #{id}"

/-- Applies an expression to the first issue of every id in turn; `clock n` is the time at the
application after `n` others. -/
def applyEach (expr : Expr) (clock : Nat → Instant) (snapshot : Snapshot) : List UInt64 → Batch
  | [] => ⟨snapshot, [], none⟩
  | id :: ids =>
    match snapshot.issue? id with
    | none => ⟨snapshot, [], some (.issueNotFound id)⟩
    | some issue =>
      let edited := expr.edit snapshot.catalog issue
      let next := snapshot.update id fun _ => edited.stamp (clock 0) issue
      match edited.error with
      | some error => ⟨next, [], some (.edit id error)⟩
      | none =>
        let rest := next.applyEach expr (fun n => clock (n + 1)) ids
        { rest with lines := appliedLine expr id :: rest.lines }

/-- Applies the expression of a text to the issues of a list of ids. -/
def apply (snapshot : Snapshot) (text : String) (ids : List UInt64) (clock : Nat → Instant) :
    Batch :=
  match Expr.read text with
  | .error error => ⟨snapshot, [], some (.expression error)⟩
  | .ok expr =>
    if !expr.isApplicable then ⟨snapshot, [], some (.notApplicable expr)⟩
    else match ids.find? fun id => (snapshot.issue? id).isNone with
      | some id => ⟨snapshot, [], some (.issueNotFound id)⟩
      | none => snapshot.applyEach expr clock ids

end Snapshot

end Triage
