/-
# Triage.Proofs.Overwriting -- a new snapshot in place of the loaded one

Writing over a file changes what is at its place and nothing else, and every path leads where it
led before (`read?_overwrite`).  So the settings that named a snapshot are found again, unless they
are in the file that was written; but this file held a snapshot, and no text is both.
Main statement: `exists_write_of_load`, the new snapshot is loaded where the old one was.
-/
import Triage.Proofs.SettingsApart
import Triage.Proofs.SnapshotText
import Triage.Workspace

namespace Triage

set_option autoImplicit false

/-! ## Outcomes of two steps -/

theorem bind_eq_ok_iff {ε α β : Type} {x : Except ε α} {f : α → Except ε β} {b : β} :
    x >>= f = .ok b ↔ ∃ a, x = .ok a ∧ f a = .ok b := by
  cases x <;> simp [bind, Except.bind]

theorem bind_eq_error_iff {ε α β : Type} {x : Except ε α} {f : α → Except ε β} {e : ε} :
    x >>= f = .error e ↔ x = .error e ∨ ∃ a, x = .ok a ∧ f a = .error e := by
  cases x <;> simp [bind, Except.bind]

/-! ## One file overwritten -/

namespace FileTree

variable {tree : FileTree} {here : Location} {path : String} {place : Location} {old : String}

theorem read?_eq_some_iff {text : String} :
    tree.read? here path = some text ↔
      ∃ place, tree.locate? here path = some place ∧ tree.get? place = some (.file text) := by
  unfold read? entry?
  constructor
  · intro read
    split at read
    · next other found =>
        obtain rfl : other = text := Option.some.inj read
        exact Option.bind_eq_some_iff.mp found
    · cases read
  · rintro ⟨place, located, held⟩
    rw [located, Option.bind_some, held]

theorem isDirectory_eq_false (held : tree.get? place = some (.file old)) :
    tree.isDirectory place = false := by
  rw [isDirectory, held]
  rfl

/-- The paths of a tree lead to the same places when a file is overwritten. -/
theorem locate?_overwrite (held : tree.get? place = some (.file old)) (new : String) :
    (tree.put place (.file new)).locate? = tree.locate? :=
  locate?_congr (isDirectory_put_file new (isDirectory_eq_false held))

theorem get?_overwrite (held : tree.get? place = some (.file old)) (new : String)
    (other : Location) :
    (tree.put place (.file new)).get? other =
      if other = place then some (.file new) else tree.get? other := by
  refine get?_put tree (.file new) ?_
  rintro rfl
  cases held

theorem read?_overwrite (held : tree.get? place = some (.file old)) (new : String) :
    (tree.put place (.file new)).read? here path =
      if tree.locate? here path = some place then some new else tree.read? here path := by
  rw [read?, entry?, locate?_overwrite held, read?, entry?]
  cases tree.locate? here path with
  | none => rfl
  | some other =>
      rw [Option.bind_some, Option.bind_some, get?_overwrite held]
      by_cases same : other = place
      · simp [same]
      · simp [same]

theorem write?_of_locate? (held : tree.get? place = some (.file old))
    (located : tree.locate? here path = some place) (new : String) :
    tree.write? here path new = some (tree.put place (.file new)) := by
  rw [write?, located, Option.bind_eq_bind, Option.bind_some, isDirectory_eq_false held]
  rfl

end FileTree

/-! ## The snapshot of a setting -/

/-- Two settings of the same place, perhaps at different times. -/
def Setting.Agrees (setting later : Setting) : Prop :=
  later.here = setting.here ∧ later.envSnapshot = setting.envSnapshot

namespace Workspace

variable {tree : FileTree} {setting later : Setting} {flag : Option String} {source : Source}
  {snapshot : Snapshot} {place : Location} {old : String}

theorem config_eq_ok_iff {workDir : Location} {settings : Config} :
    config tree workDir = .ok settings ↔
      ∃ text, tree.read? [] (Path.join workDir.path configName) = some text ∧
        Config.read? text = some settings := by
  unfold config
  cases tree.read? [] (Path.join workDir.path configName) with
  | none => simp
  | some text => cases taken : Config.read? text <;> simp [taken]

theorem snapshot_eq_ok_iff {here : Location} {path : String} :
    Workspace.snapshot tree here path = .ok snapshot ↔
      ∃ text, tree.read? here path = some text ∧ Snapshot.read? text = some snapshot := by
  unfold Workspace.snapshot
  cases tree.read? here path with
  | none => simp
  | some text => cases taken : Snapshot.read? text <;> simp [taken]

theorem load_eq_ok_iff :
    load tree setting flag = .ok (source, snapshot) ↔
      resolve tree setting flag = .ok source ∧
        Workspace.snapshot tree setting.here source.path = .ok snapshot := by
  simp only [load, bind_eq_ok_iff, pure, Except.pure, Except.ok.injEq, Prod.mk.injEq]
  constructor
  · rintro ⟨_, resolved, _, taken, rfl, rfl⟩
    exact ⟨resolved, taken⟩
  · rintro ⟨resolved, taken⟩
    exact ⟨source, resolved, snapshot, taken, rfl, rfl⟩

theorem load_of_agrees (agrees : setting.Agrees later) :
    load tree later flag = load tree setting flag := by
  obtain ⟨here, env⟩ := agrees
  simp only [load, resolve, named?, here, env]

/-! ### Failures -/

/-- A snapshot that is not found or not read is no edit that stops. -/
theorem keepsEdits_of_load {failure : Failure} (failed : load tree setting flag = .error failure) :
    failure.keepsEdits = false := by
  rcases bind_eq_error_iff.mp failed with unresolved | ⟨source, -, unread⟩
  · unfold resolve at unresolved
    split at unresolved
    · next workDir _ =>
        rcases bind_eq_error_iff.mp unresolved with misread | ⟨_, -, returned⟩
        · unfold config at misread
          split at misread
          · cases misread
            rfl
          · split at misread <;> cases misread
            rfl
        · cases returned
    · split at unresolved <;> cases unresolved
      rfl
  · rcases bind_eq_error_iff.mp unread with misread | ⟨_, -, returned⟩
    · unfold Workspace.snapshot at misread
      split at misread
      · cases misread
        rfl
      · split at misread <;> cases misread
        rfl
    · cases returned

/-! ### Writing over it -/

theorem resolve_overwrite (held : tree.get? place = some (.file old))
    (kept : Snapshot.read? old = some snapshot)
    (resolved : resolve tree setting flag = .ok source) (new : String) :
    resolve (tree.put place (.file new)) setting flag = .ok source := by
  have nearest : nearest? (tree.put place (.file new)) setting.here =
      nearest? tree setting.here := by
    rw [nearest?, FileTree.isDirectory_put_file new (FileTree.isDirectory_eq_false held), nearest?]
  unfold resolve at resolved ⊢
  rw [nearest]
  split at resolved
  · next workDir _ =>
      obtain ⟨settings, found, rest⟩ := bind_eq_ok_iff.mp resolved
      refine bind_eq_ok_iff.mpr ⟨settings, ?_, rest⟩
      obtain ⟨text, read, taken⟩ := config_eq_ok_iff.mp found
      refine config_eq_ok_iff.mpr ⟨text, ?_, taken⟩
      -- The settings are not in this file, for it holds a snapshot.
      have elsewhere : tree.locate? [] (Path.join workDir.path configName) ≠ some place := by
        intro located
        obtain ⟨other, found, holds⟩ := FileTree.read?_eq_some_iff.mp read
        obtain rfl : other = place := Option.some.inj (found.symm.trans located)
        obtain rfl : text = old := by simpa using holds.symm.trans held
        cases taken.symm.trans (config_read?_eq_none kept)
      rw [FileTree.read?_overwrite held, if_neg elsewhere, read]
  · exact resolved

/-- A loaded snapshot can be written over, and then the new one is loaded. -/
theorem exists_write_of_load (loaded : load tree setting flag = .ok (source, snapshot))
    (next : Snapshot) :
    ∃ place written, tree.locate? setting.here source.path = some place ∧
      write tree setting.here source.path next.text = ⟨written, none⟩ ∧
      (∀ other, other ≠ place → written.get? other = tree.get? other) ∧
      written.locate? = tree.locate? ∧
      load written setting flag = .ok (source, next) := by
  obtain ⟨resolved, taken⟩ := load_eq_ok_iff.mp loaded
  obtain ⟨old, read, kept⟩ := snapshot_eq_ok_iff.mp taken
  obtain ⟨place, located, held⟩ := FileTree.read?_eq_some_iff.mp read
  have written := FileTree.write?_of_locate? held located next.text
  refine ⟨place, tree.put place (.file next.text), located, ?_, ?_, ?_, ?_⟩
  · rw [write, written]
  · intro other different
    rw [FileTree.get?_overwrite held, if_neg different]
  · exact FileTree.locate?_overwrite held next.text
  · refine load_eq_ok_iff.mpr ⟨resolve_overwrite held kept resolved next.text, ?_⟩
    exact snapshot_eq_ok_iff.mpr
      ⟨next.text, FileTree.read?_write? written, Snapshot.read?_text next⟩

end Workspace

end Triage
