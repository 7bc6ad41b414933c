/-
# Triage.Proofs.Sessions -- what commands leave in the files

An edit loads a snapshot, runs its batch and writes the result back, unless the batch was refused,
and then there is nothing to write (`runApply_of_load`).  No other command but `create` changes a
file.  A session is therefore a run of batches on one snapshot (`load_foldl_run`, by induction on
the calls; each of them leaves a tree in which the snapshot is found again).
Main statement: `sessions_are_atomic`.
-/
import Triage.Command
import Triage.Proofs.BatchEffect
import Triage.Proofs.Overwriting

namespace Triage

set_option autoImplicit false

/-! ## Edits of a snapshot file -/

namespace Snapshot

/-- A batch whose edits are not kept has made none. -/
theorem snapshot_apply_of_not_kept {snapshot : Snapshot} {text : String} {ids : List UInt64}
    {clock : Nat → Instant}
    (dropped : (snapshot.apply text ids clock).failure.all Failure.keepsEdits = false) :
    (snapshot.apply text ids clock).snapshot = snapshot := by
  rcases apply_eq snapshot text ids clock with ⟨failure, -, same⟩ | ⟨expr, accepts, same⟩
  · rw [same]
  · rw [same] at dropped
    rcases applyEach_course expr clock snapshot ids accepts.known with ⟨clear, -⟩ |
      ⟨_, _, _, _, _, -, stopped, -⟩
    · rw [clear] at dropped
      cases dropped
    · rw [stopped] at dropped
      cases dropped

end Snapshot

/-- The commands that ask for no change. -/
def Command.isReading : Command → Bool
  | .query _ _ | .prune _ _ _ | .check _ => true
  | .create _ | .apply _ _ => false

/-- What a command makes of the snapshot that it runs on. -/
def Command.effect (clock : Nat → Instant) (snapshot : Snapshot) : Command → Snapshot
  | .apply expr ids => (snapshot.apply expr ids clock).snapshot
  | .query _ _ | .prune _ _ _ | .check _ | .create _ => snapshot

theorem Command.effect_of_isReading {command : Command} (reads : command.isReading = true)
    (clock : Nat → Instant) (snapshot : Snapshot) : command.effect clock snapshot = snapshot := by
  cases command <;> first | rfl | cases reads

theorem Invocation.tree_run_of_isReading {invocation : Invocation}
    (reads : invocation.command.isReading = true) (tree : FileTree) (setting : Setting) :
    (invocation.run tree setting).tree = tree := by
  have silent (answer : Except Failure String) : (Command.reply tree answer).tree = tree := by
    cases answer <;> rfl
  unfold run
  split
  case h_1 command => rw [command] at reads; cases reads
  case h_3 command => rw [command] at reads; cases reads
  all_goals exact silent _

namespace Command

variable {tree : FileTree} {setting later : Setting} {flag : Option String} {source : Source}
  {snapshot : Snapshot}

/-- A query answers from the snapshot that is loaded. -/
theorem runQuery_of_load (loaded : Workspace.load tree setting flag = .ok (source, snapshot))
    (expr : String) (format : Option Format) :
    runQuery tree setting flag expr format =
      reply tree (found snapshot expr (format.getD source.config.format)) := by
  rw [runQuery, loaded]
  rfl

theorem runApply_of_error {failure : Failure}
    (failed : Workspace.load tree setting flag = .error failure) (expr : String)
    (ids : List UInt64) :
    runApply tree setting flag expr ids = { tree, failure := some failure } := by
  rw [runApply, failed]

/-- An edit of a snapshot that is loaded ends as its batch does.  The tree stays as it is, for a
refused batch, or holds the edited snapshot in place of the loaded one. -/
theorem runApply_of_load (loaded : Workspace.load tree setting flag = .ok (source, snapshot))
    (expr : String) (ids : List UInt64) :
    let batch := snapshot.apply expr ids setting.clock
    let outcome := runApply tree setting flag expr ids
    outcome.failure = batch.failure ∧ outcome.output = unlines batch.lines ∧
      (batch.failure.all Failure.keepsEdits = false → outcome.tree = tree) ∧
      Workspace.load outcome.tree setting flag = .ok (source, batch.snapshot) ∧
      outcome.tree.locate? = tree.locate? ∧
      ∃ place, tree.locate? setting.here source.path = some place ∧
        ∀ other, other ≠ place → outcome.tree.get? other = tree.get? other := by
  intro batch outcome
  obtain ⟨place, written, located, change, frame, paths, reloaded⟩ :=
    Workspace.exists_write_of_load loaded batch.snapshot
  cases kept : batch.failure.all Failure.keepsEdits with
  | true =>
      have run : outcome =
          { tree := written, output := unlines batch.lines, failure := batch.failure } := by
        simp only [outcome, runApply, loaded, batch] at kept change ⊢
        rw [if_pos kept, change]
        rfl
      rw [run]
      exact ⟨rfl, rfl, nofun, reloaded, paths, place, located, frame⟩
  | false =>
      have run : outcome = { tree, output := unlines batch.lines, failure := batch.failure } := by
        simp only [outcome, runApply, loaded, batch] at kept ⊢
        rw [if_neg (by rw [kept]; decide)]
      have same : batch.snapshot = snapshot := Snapshot.snapshot_apply_of_not_kept kept
      rw [run, same]
      exact ⟨rfl, rfl, fun _ => rfl, loaded, rfl, place, located, fun _ _ => rfl⟩

end Command

/-! ## Sessions -/

/-- A command line in the setting in which it runs. -/
structure Call where
  setting : Setting
  invocation : Invocation

namespace Call

variable {call : Call} {calls : List Call} {tree : FileTree} {setting : Setting}
  {flag : Option String} {source : Source} {snapshot : Snapshot}

/-- The tree that a call leaves. -/
def run (tree : FileTree) (call : Call) : FileTree := (call.invocation.run tree call.setting).tree

/-- What a call makes of the snapshot that it runs on. -/
def effect (snapshot : Snapshot) (call : Call) : Snapshot :=
  call.invocation.command.effect call.setting.clock snapshot

/-- The call works on the snapshot of a setting: it runs there, and asks a question or edits. -/
structure WorksOn (setting : Setting) (flag : Option String) (call : Call) : Prop where
  agrees : setting.Agrees call.setting
  names : call.invocation.snapshot = flag
  works : call.invocation.command.isReading = true ∨
    ∃ expr ids, call.invocation.command = .apply expr ids

theorem run_apply {expr : String} {ids : List UInt64}
    (edits : call.invocation.command = .apply expr ids) (tree : FileTree) :
    call.run tree =
      (Command.runApply tree call.setting call.invocation.snapshot expr ids).tree := by
  rw [run, Invocation.run, edits]

/-- Without a snapshot to work on, nothing changes. -/
theorem WorksOn.run_of_error {failure : Failure} (worksOn : call.WorksOn setting flag)
    (failed : Workspace.load tree setting flag = .error failure) : call.run tree = tree := by
  obtain ⟨agrees, rfl, reads | ⟨expr, ids, edits⟩⟩ := worksOn
  · exact Invocation.tree_run_of_isReading reads tree call.setting
  · rw [← Workspace.load_of_agrees agrees] at failed
    rw [run_apply edits, Command.runApply_of_error failed]

/-- A call leaves its effect in the file of the snapshot, and the rest of the tree alone. -/
theorem WorksOn.run_of_load (worksOn : call.WorksOn setting flag)
    (loaded : Workspace.load tree setting flag = .ok (source, snapshot)) :
    Workspace.load (call.run tree) setting flag = .ok (source, call.effect snapshot) ∧
      (call.run tree).locate? = tree.locate? ∧
      ∀ other, tree.locate? setting.here source.path ≠ some other →
        (call.run tree).get? other = tree.get? other := by
  obtain ⟨agrees, rfl, reads | ⟨expr, ids, edits⟩⟩ := worksOn
  · have same : call.run tree = tree :=
      Invocation.tree_run_of_isReading reads tree call.setting
    rw [same, effect, Command.effect_of_isReading reads]
    exact ⟨loaded, rfl, fun _ _ => rfl⟩
  · rw [← Workspace.load_of_agrees agrees] at loaded ⊢
    obtain ⟨-, -, -, reloaded, paths, place, located, frame⟩ :=
      Command.runApply_of_load loaded expr ids
    rw [run_apply edits, effect, edits]
    refine ⟨reloaded, paths, fun other different => frame other ?_⟩
    rintro rfl
    rw [agrees.1] at located
    exact different located

/-- A session leaves the effects of its calls in the file of the snapshot, and the rest of the tree
alone. -/
theorem load_foldl_run (worksOn : ∀ call ∈ calls, call.WorksOn setting flag)
    (loaded : Workspace.load tree setting flag = .ok (source, snapshot)) :
    Workspace.load (calls.foldl run tree) setting flag =
        .ok (source, calls.foldl effect snapshot) ∧
      ∀ other, tree.locate? setting.here source.path ≠ some other →
        (calls.foldl run tree).get? other = tree.get? other := by
  induction calls generalizing tree snapshot with
  | nil => exact ⟨loaded, fun _ _ => rfl⟩
  | cons call calls ih =>
      obtain ⟨first, others⟩ := List.forall_mem_cons.mp worksOn
      obtain ⟨reloaded, paths, frame⟩ := first.run_of_load loaded
      obtain ⟨last, rest⟩ := ih others reloaded
      refine ⟨last, fun other different => ?_⟩
      rw [List.foldl_cons, rest other (by rwa [paths]), frame other different]

theorem foldl_run_of_error {failure : Failure}
    (worksOn : ∀ call ∈ calls, call.WorksOn setting flag)
    (failed : Workspace.load tree setting flag = .error failure) : calls.foldl run tree = tree := by
  induction calls with
  | nil => rfl
  | cons call calls ih =>
      obtain ⟨first, others⟩ := List.forall_mem_cons.mp worksOn
      rw [List.foldl_cons, first.run_of_error failed, ih others]

end Call

/-- Commands that ask for no change make none.  An edit changes at most the file that its setting
resolves to; if it ends with any failure but that of an edit that stopped, it changes nothing; and
if it ends well or with an edit that stopped, this file holds what the batch made of the snapshot,
which is what the next query of the setting sees.  A whole session of such commands leaves the
effects of all its edits in this one file. -/
theorem sessions_are_atomic :
    (∀ (tree : FileTree) (setting : Setting) (invocation : Invocation),
      invocation.command.isReading = true → (invocation.run tree setting).tree = tree) ∧
    (∀ (tree : FileTree) (setting : Setting) (flag : Option String) (expr : String)
        (ids : List UInt64),
      let outcome := Invocation.run ⟨flag, .apply expr ids⟩ tree setting
      (∀ place, outcome.tree.get? place ≠ tree.get? place →
        ∃ source, Workspace.resolve tree setting flag = .ok source ∧
          tree.locate? setting.here source.path = some place) ∧
      (∀ failure, outcome.failure = some failure → failure.keepsEdits = false →
        outcome.tree = tree) ∧
      (outcome.failure.all Failure.keepsEdits = true →
        ∃ source snapshot, Workspace.load tree setting flag = .ok (source, snapshot) ∧
          let batch := snapshot.apply expr ids setting.clock
          outcome.failure = batch.failure ∧ outcome.output = unlines batch.lines ∧
          ∀ later, setting.Agrees later →
            Workspace.load outcome.tree later flag = .ok (source, batch.snapshot) ∧
            ∀ question format,
              Invocation.run ⟨flag, .query question format⟩ outcome.tree later =
                Command.reply outcome.tree
                  (Command.found batch.snapshot question
                    (format.getD source.config.format)))) ∧
    ∀ (tree : FileTree) (setting : Setting) (flag : Option String) (calls : List Call),
      (∀ call ∈ calls, call.WorksOn setting flag) →
      match Workspace.load tree setting flag with
      | .error _ => calls.foldl Call.run tree = tree
      | .ok (source, snapshot) =>
        Workspace.load (calls.foldl Call.run tree) setting flag =
            .ok (source, calls.foldl Call.effect snapshot) ∧
          ∀ place, tree.locate? setting.here source.path ≠ some place →
            (calls.foldl Call.run tree).get? place = tree.get? place := by
  refine ⟨fun tree setting invocation reads => Invocation.tree_run_of_isReading reads tree setting,
    ?_, ?_⟩
  · intro tree setting flag expr ids outcome
    cases loading : Workspace.load tree setting flag with
    | error failure =>
        have run : outcome = { tree, failure := some failure } :=
          Command.runApply_of_error loading expr ids
        have dropped := Workspace.keepsEdits_of_load loading
        rw [run]
        refine ⟨fun place changed => absurd rfl changed, fun _ _ _ => rfl, fun kept => ?_⟩
        rw [Option.all_some, dropped] at kept
        cases kept
    | ok loaded =>
        obtain ⟨source, snapshot⟩ := loaded
        obtain ⟨ended, printed, unchanged, reloaded, -, place, located, frame⟩ :=
          Command.runApply_of_load loading expr ids
        refine ⟨fun other changed => ?_, fun failure failed dropped => ?_, fun _ => ?_⟩
        · obtain rfl : other = place :=
            Decidable.byContradiction fun different => changed (frame other different)
          exact ⟨source, (Workspace.load_eq_ok_iff.mp loading).1, located⟩
        · refine unchanged ?_
          rw [← ended]
          exact failed ▸ dropped
        · refine ⟨source, snapshot, rfl, ended, printed, fun later agrees => ?_⟩
          have loaded := (Workspace.load_of_agrees agrees).trans reloaded
          exact ⟨loaded, Command.runQuery_of_load loaded⟩
  · intro tree setting flag calls worksOn
    cases loading : Workspace.load tree setting flag with
    | error failure => exact Call.foldl_run_of_error worksOn loading
    | ok loaded => exact Call.load_foldl_run worksOn loading

/-- An edit stops at a label that the catalog lacks.  The label before it is in the file, where the
next query finds it, and stays there through the query and a refused edit. -/
theorem sessions_are_atomic_halfway :
    let dawn : Instant := ⟨⟨2024, 1, 1, by decide⟩, ⟨6, 0, 0, 0, by decide⟩⟩
    let noon : Instant := ⟨⟨2024, 1, 1, by decide⟩, ⟨12, 0, 0, 0, by decide⟩⟩
    let snapshot : Snapshot :=
      { catalog := { labels := [⟨"bug"⟩] }, issues := [Issue.create 7 "Crash" "ada" dawn] }
    let tree : FileTree := ⟨[(["w"], .directory), (["w", ".hubq"], .directory),
      (["w", ".hubq", "config.toml"], .file ({} : Config).text),
      (["w", ".hubq", "snapshot.json"], .file snapshot.text)]⟩
    let setting : Setting := { here := ["w"], now := dawn }
    let later : Setting := { here := ["w"], now := noon }
    let source : Source := ⟨"/w/.hubq/snapshot.json", {}⟩
    let halfway : Expr := (Expr.ofText .label "bug").and (.ofText .label "wontfix")
    let refused : Expr := (Expr.ofText .label "bug").or (.ofText .label "wontfix")
    let edit : Invocation := ⟨none, .apply halfway.text [7]⟩
    let asked : Expr := .ofText .label "bug"
    let question : Invocation := ⟨none, .query asked.text none⟩
    let shown := "- [issue] (open) #7: Crash  \x7bbug\x7d\n"
    let batch := snapshot.apply halfway.text [7] setting.clock
    let calls : List Call :=
      [⟨setting, edit⟩, ⟨later, question⟩, ⟨later, ⟨none, .apply refused.text [7]⟩⟩]
    Workspace.load tree setting none = .ok (source, snapshot) ∧
      (question.run tree setting).tree = tree ∧
      ((edit.run tree setting).failure =
          some (.edit 7 (.unresolved (.ofText .label "wontfix") .label "wontfix")) ∧
        Workspace.load (edit.run tree setting).tree later none = .ok (source, batch.snapshot) ∧
        (question.run (edit.run tree setting).tree later).output = shown) ∧
      Workspace.load (calls.foldl Call.run tree) setting none = .ok (source, batch.snapshot) ∧
      batch.snapshot.issues.map Issue.labels = [["bug"]] := by
  intro dawn noon snapshot tree setting later source halfway refused edit asked question shown batch
    calls
  have loaded : Workspace.load tree setting none = .ok (source, snapshot) := by
    have nearest : Workspace.nearest? tree setting.here = some ["w", ".hubq"] := by decide +kernel
    have configAt : tree.locate? []
        (Path.join (Location.path ["w", ".hubq"]) Workspace.configName) =
          some ["w", ".hubq", "config.toml"] := by decide +kernel
    have snapshotAt : tree.locate? setting.here source.path =
        some ["w", ".hubq", "snapshot.json"] := by decide +kernel
    have path : Config.snapshotPath {} (Location.path ["w", ".hubq"]) = source.path := by
      decide +kernel
    have config : Workspace.config tree ["w", ".hubq"] = .ok {} :=
      Workspace.config_eq_ok_iff.mpr ⟨_, FileTree.read?_eq_some_iff.mpr ⟨_, configAt, rfl⟩,
        Config.read?_text {}⟩
    refine Workspace.load_eq_ok_iff.mpr ⟨?_, Workspace.snapshot_eq_ok_iff.mpr
      ⟨_, FileTree.read?_eq_some_iff.mpr ⟨_, snapshotAt, rfl⟩, Snapshot.read?_text snapshot⟩⟩
    rw [Workspace.resolve, nearest]
    simp only [config]
    exact congrArg (fun path => Except.ok (Source.mk path {})) path
  have readHalfway : Expr.read halfway.text = .ok halfway :=
    (Expr.read_text_eq_ok_iff (by decide) (by decide)).mpr ⟨rfl, by decide, by decide, by decide⟩
  have readRefused : Expr.read refused.text = .ok refused :=
    (Expr.read_text_eq_ok_iff (by decide) (by decide)).mpr ⟨rfl, by decide, by decide, by decide⟩
  have readAsked : Expr.read asked.text = .ok asked :=
    (Expr.read_text_eq_ok_iff (by decide) (by decide)).mpr ⟨rfl, by decide, by decide, by decide⟩
  have run : batch = snapshot.applyEach halfway setting.clock [7] := by
    have applicable : halfway.isApplicable = true := by decide
    have listed : ([7].find? fun id => (snapshot.issue? id).isNone) = none := by decide
    simp [batch, Snapshot.apply, readHalfway, applicable, listed]
  have stopped : batch.failure =
      some (.edit 7 (.unresolved (.ofText .label "wontfix") .label "wontfix")) := by
    rw [run]; decide +kernel
  have labels : batch.snapshot.issues.map Issue.labels = [["bug"]] := by rw [run]; decide +kernel
  have answer : listing .text batch.snapshot.catalog asked
      (asked.select batch.snapshot.catalog batch.snapshot.issues) = shown := by
    rw [run]; decide +kernel
  have effects : calls.foldl Call.effect snapshot = batch.snapshot := by
    have unsound : refused.isApplicable = false := by decide
    simp [calls, Call.effect, Command.effect, edit, question, Snapshot.apply, readRefused, unsound,
      batch]
  have ended : (edit.run tree setting).failure = batch.failure :=
    (Command.runApply_of_load loaded halfway.text [7]).1
  obtain ⟨reading, editing, session⟩ := sessions_are_atomic
  have kept := (editing tree setting none halfway.text [7]).2.2 (by
    show (edit.run tree setting).failure.all Failure.keepsEdits = true
    rw [ended, stopped]
    rfl)
  obtain ⟨source', snapshot', loaded', -, -, reloads⟩ := kept
  obtain ⟨rfl, rfl⟩ : source = source' ∧ snapshot = snapshot' := by
    simpa using loaded.symm.trans loaded'
  have works : ∀ call ∈ calls, call.WorksOn setting none := by
    simp only [calls, List.forall_mem_cons]
    exact ⟨⟨⟨rfl, rfl⟩, rfl, .inr ⟨_, _, rfl⟩⟩, ⟨⟨rfl, rfl⟩, rfl, .inl rfl⟩,
      ⟨⟨rfl, rfl⟩, rfl, .inr ⟨_, _, rfl⟩⟩, List.forall_mem_nil _⟩
  have last := session tree setting none calls works
  rw [loaded] at last
  obtain ⟨last, -⟩ := last
  rw [effects] at last
  obtain ⟨reloaded, answers⟩ := reloads later ⟨rfl, rfl⟩
  have answered : (question.run (edit.run tree setting).tree later).output = shown := by
    rw [answers asked.text none, Command.found, readExpr, readAsked]
    exact answer
  exact ⟨loaded, reading tree setting question rfl,
    ⟨ended.trans stopped, reloaded, answered⟩, last, labels⟩

end Triage
