/-
# Triage.Proofs.Creation -- a work directory is made once

Whether there is a work directory is asked before the directories of the path are made, so the
answer counts for the path as it leads then.  A path that goes up from a directory that is only made
afterwards, as `new/..` does, leads nowhere when it is asked and to the files of another work
directory when they are written.  Every straight path leads to the same place both times.
Main statement: `create_sets_up_once`; its session part is an induction on the calls, each of which
leaves every directory where it is.
-/
import Triage.Proofs.Sessions
import Triage.Proofs.SnapshotSource
import Triage.Proofs.Trails

namespace Triage

set_option autoImplicit false

/-! ## Directories stay -/

namespace FileTree

variable {tree later last : FileTree} {here spot : Location} {path : String}

/-- Every directory of a tree is one of a later tree. -/
def KeepsDirectories (tree later : FileTree) : Prop :=
  ∀ spot, tree.isDirectory spot = true → later.isDirectory spot = true

/-- Two trees have the same files. -/
def SameFiles (tree later : FileTree) : Prop :=
  ∀ spot text, later.get? spot = some (.file text) ↔ tree.get? spot = some (.file text)

theorem KeepsDirectories.refl (tree : FileTree) : tree.KeepsDirectories tree :=
  fun _ inside => inside

theorem KeepsDirectories.trans (first : tree.KeepsDirectories later)
    (second : later.KeepsDirectories last) : tree.KeepsDirectories last :=
  fun spot inside => second spot (first spot inside)

theorem keepsDirectories_put_file (free : tree.isDirectory spot = false) (text : String) :
    tree.KeepsDirectories (tree.put spot (.file text)) := by
  intro other inside
  rwa [isDirectory_put_file text free]

theorem Widens.keepsDirectories (widens : tree.Widens later) : tree.KeepsDirectories later := by
  intro spot inside
  have held : tree.get? spot = some .directory := of_decide_eq_true inside
  refine decide_eq_true ?_
  rcases widens spot with same | ⟨absent, -⟩
  · rw [same, held]
  · cases absent.symm.trans held

theorem Widens.sameFiles (widens : tree.Widens later) : tree.SameFiles later := by
  intro spot text
  rcases widens spot with same | ⟨absent, new⟩
  · rw [same]
  · simp [absent, new]

theorem Opens.mono (opens : tree.Opens here path) (kept : tree.KeepsDirectories later) :
    later.Opens here path :=
  fun stop member => kept stop (opens stop member)

end FileTree

/-! ## How the making of a work directory ends -/

namespace Workspace

variable {tree : FileTree} {here : Location} {path name : String}

/-- Something in a place has the name of a work directory. -/
def IsTaken (tree : FileTree) (place : Location) : Prop :=
  (tree.get? (place ++ [directoryName])).isSome = true

instance (place : Location) : Decidable (IsTaken tree place) := inferInstanceAs (Decidable (_ = _))

theorem entry?_join_isSome (plain : Location.IsPlain [name]) :
    (tree.entry? here (Path.join path name)).isSome = true ↔
      tree.Opens here path ∧ (tree.get? (Path.place here path ++ [name])).isSome = true := by
  rw [FileTree.entry?, Option.isSome_iff_exists]
  simp only [Option.bind_eq_some_iff, FileTree.locate?_join plain]
  constructor
  · rintro ⟨entry, _, ⟨opens, rfl⟩, held⟩
    exact ⟨opens, by rw [held]; rfl⟩
  · rintro ⟨opens, held⟩
    obtain ⟨entry, held⟩ := Option.isSome_iff_exists.mp held
    exact ⟨entry, _, ⟨opens, rfl⟩, held⟩

/-- A file is written into the directory of a path that is open. -/
theorem write_join (plain : Location.IsPlain [name]) (opens : tree.Opens here path)
    (text : String) :
    write tree here (Path.join path name) text =
      if tree.isDirectory (Path.place here path ++ [name])
      then ⟨tree, some (.unwritable (Path.join path name))⟩
      else ⟨tree.put (Path.place here path ++ [name]) (.file text), none⟩ := by
  have located := (FileTree.locate?_join plain).mpr ⟨opens, rfl⟩
  rw [write, FileTree.write?, located, Option.bind_eq_bind, Option.bind_some]
  cases tree.isDirectory (Path.place here path ++ [name]) <;> rfl

theorem keepsDirectories_write (tree : FileTree) (here : Location) (path text : String) :
    tree.KeepsDirectories (write tree here path text).tree := by
  rw [write, FileTree.write?]
  cases tree.locate? here path with
  | none => exact .refl tree
  | some spot =>
      cases free : tree.isDirectory spot with
      | true => simpa [free] using FileTree.KeepsDirectories.refl tree
      | false => simpa [free] using FileTree.keepsDirectories_put_file free text

/-- The place of a work directory in the directory of a path. -/
def workPlace (here : Location) (path : String) : Location :=
  Path.place here path ++ [directoryName]

/-- The tree with the directories that lead to a work directory. -/
def opened (tree : FileTree) (here : Location) (path : String) : FileTree :=
  (tree.makeDirectories here (Path.join path directoryName)).1

def settled (tree : FileTree) (here : Location) (path : String) : FileTree :=
  (opened tree here path).put (workPlace here path ++ [configName]) (.file ({} : Config).text)

def filled (tree : FileTree) (here : Location) (path : String) : FileTree :=
  (settled tree here path).put (workPlace here path ++ ["snapshot.json"])
    (.file ({} : Snapshot).text)

theorem isDirectory_settled
    (settings : (opened tree here path).isDirectory (workPlace here path ++ [configName]) = false) :
    (settled tree here path).isDirectory = (opened tree here path).isDirectory :=
  FileTree.isDirectory_put_file _ settings

theorem isDirectory_filled
    (settings : (opened tree here path).isDirectory (workPlace here path ++ [configName]) = false)
    (snapshot :
      (opened tree here path).isDirectory (workPlace here path ++ ["snapshot.json"]) = false) :
    (filled tree here path).isDirectory = (opened tree here path).isDirectory := by
  rw [← isDirectory_settled settings] at snapshot ⊢
  exact FileTree.isDirectory_put_file _ snapshot

/-- A work directory is found where a path leads. -/
def IsFound (tree : FileTree) (here : Location) (path : String) : Prop :=
  tree.Opens here path ∧ IsTaken tree (Path.place here path)

/-- Every way in which the making of a work directory in the directory of a path ends. -/
inductive Creates (tree : FileTree) (here : Location) (path : String) : Change → Prop
  | refused : IsFound tree here path →
      Creates tree here path
        ⟨tree, some (.alreadyInitialized (Path.join path directoryName))⟩
  /-- A file is in the way of the directories. -/
  | blocked : ¬ IsFound tree here path →
      ¬ tree.IsClear here (Path.join path directoryName) →
      Creates tree here path
        ⟨opened tree here path, some (.unwritable (Path.join path directoryName))⟩
  /-- A directory has the name of the settings. -/
  | unsettled : ¬ IsFound tree here path →
      tree.IsClear here (Path.join path directoryName) →
      (opened tree here path).isDirectory (workPlace here path ++ [configName]) = true →
      Creates tree here path ⟨opened tree here path,
        some (.unwritable (Path.join (Path.join path directoryName) configName))⟩
  /-- A directory has the name of the snapshot. -/
  | unfilled : ¬ IsFound tree here path →
      tree.IsClear here (Path.join path directoryName) →
      (opened tree here path).isDirectory (workPlace here path ++ [configName]) = false →
      (opened tree here path).isDirectory (workPlace here path ++ ["snapshot.json"]) = true →
      Creates tree here path ⟨settled tree here path,
        some (.unwritable (Path.join (Path.join path directoryName) "snapshot.json"))⟩
  | done : ¬ IsFound tree here path →
      tree.IsClear here (Path.join path directoryName) →
      (opened tree here path).isDirectory (workPlace here path ++ [configName]) = false →
      (opened tree here path).isDirectory (workPlace here path ++ ["snapshot.json"]) = false →
      Creates tree here path ⟨filled tree here path, none⟩

theorem opens_opened (clear : tree.IsClear here (Path.join path directoryName)) :
    (opened tree here path).Opens here (Path.join path directoryName) :=
  FileTree.opens_makeDirectories clear

theorem place_join_directoryName (here : Location) (path : String) :
    Path.place here (Path.join path directoryName) = workPlace here path :=
  Path.place_join (by decide) here path

theorem create_creates (tree : FileTree) (here : Location) (path : String) :
    Creates tree here path (create tree here (Path.join path directoryName)) := by
  unfold create
  split
  · next found => exact .refused ((entry?_join_isSome (by decide)).mp found)
  · next absent =>
      have lost : ¬ IsFound tree here path :=
        fun found => absent ((entry?_join_isSome (by decide)).mpr found)
      by_cases clear : tree.IsClear here (Path.join path directoryName)
      · have made := FileTree.makeDirectories_eq_true_iff.mpr clear
        have opens := opens_opened clear
        simp only [made]
        have settle := write_join (by decide : Location.IsPlain [configName]) opens
          ({} : Config).text
        rw [place_join_directoryName] at settle
        rw [← opened, settle]
        cases settings : (opened tree here path).isDirectory
          (workPlace here path ++ [configName]) with
        | true => exact .unsettled lost clear settings
        | false =>
            have still := isDirectory_settled settings
            have opens' : (settled tree here path).Opens here (Path.join path directoryName) :=
              opens.mono fun _ inside => still ▸ inside
            show Creates tree here path (write (settled tree here path) here
              (Path.join (Path.join path directoryName) "snapshot.json") ({} : Snapshot).text)
            rw [write_join (by decide) opens', place_join_directoryName, still]
            cases snapshot : (opened tree here path).isDirectory
              (workPlace here path ++ ["snapshot.json"]) with
            | true => exact .unfilled lost clear settings snapshot
            | false => exact .done lost clear settings snapshot
      · have unmade : (tree.makeDirectories here (Path.join path directoryName)).2 = false :=
          Bool.eq_false_iff.mpr fun made => clear (FileTree.makeDirectories_eq_true_iff.mp made)
        simp only [unmade]
        exact .blocked lost clear

/-! ### The tree afterwards -/

section Afterwards

variable {change : Change} {spot : Location}

theorem widens_opened (tree : FileTree) (here : Location) (path : String) :
    tree.Widens (opened tree here path) :=
  FileTree.widens_makeAlong _ _ _

theorem get?_opened (clear : tree.IsClear here (Path.join path directoryName)) (spot : Location) :
    (opened tree here path).get? spot =
      (tree.get? spot).or (if spot ∈ Path.stops here path ∨ spot = workPlace here path
        then some .directory else none) := by
  rw [opened, FileTree.get?_makeDirectories clear]
  exact congrArg _ (if_congr (Path.mem_stops_join (by decide)) rfl rfl)

theorem isDirectory_opened_below (clear : tree.IsClear here (Path.join path directoryName))
    (name : String) :
    (opened tree here path).isDirectory (workPlace here path ++ [name]) = false ↔
      tree.isDirectory (workPlace here path ++ [name]) = false ∧
        workPlace here path ++ [name] ∉ Path.stops here path := by
  have below : workPlace here path ++ [name] ≠ workPlace here path := by simp
  rw [FileTree.isDirectory, FileTree.isDirectory, get?_opened clear]
  by_cases member : workPlace here path ++ [name] ∈ Path.stops here path
  · rcases clear.2 _ ((Path.mem_stops_join (by decide)).mpr (.inl member)) with inside | absent
    · have held : tree.get? (workPlace here path ++ [name]) = some .directory :=
        of_decide_eq_true inside
      simp [held, member]
    · simp [absent, member]
  · simp [member, below]

theorem isClear_join :
    tree.IsClear here (Path.join path directoryName) ↔
      tree.IsClear here path ∧ tree.IsFree (workPlace here path) := by
  simp only [FileTree.IsClear, Path.start_join (by decide : '/' ∉ directoryName.toList),
    Path.mem_stops_join (by decide : Location.IsPlain [directoryName]), or_imp, forall_and,
    forall_eq, and_assoc, workPlace]

theorem isDirectory_workPlace (clear : tree.IsClear here (Path.join path directoryName)) :
    (opened tree here path).isDirectory (workPlace here path) = true := by
  rw [← place_join_directoryName]
  exact opens_opened clear _ (Path.place_mem_stops _ _)

theorem isRooted_opened (rooted : tree.IsRooted) : (opened tree here path).IsRooted :=
  rooted.makeAlong _ _

/-- A work directory with the default settings and an empty snapshot. -/
structure IsFresh (tree : FileTree) (workDir : Location) : Prop where
  settings : tree.get? (workDir ++ [configName]) = some (.file ({} : Config).text)
  snapshot : tree.get? (workDir ++ ["snapshot.json"]) = some (.file ({} : Snapshot).text)

/-- Two trees have the same files, but for those of a work directory. -/
def SameElsewhere (workDir : Location) (tree later : FileTree) : Prop :=
  ∀ spot text, spot ≠ workDir ++ [configName] → spot ≠ workDir ++ ["snapshot.json"] →
    (later.get? spot = some (.file text) ↔ tree.get? spot = some (.file text))

theorem get?_settled (tree : FileTree) (here : Location) (path : String) (spot : Location) :
    (settled tree here path).get? spot =
      if spot = workPlace here path ++ [configName] then some (.file ({} : Config).text)
      else (opened tree here path).get? spot :=
  FileTree.get?_put _ _ (by simp)

theorem get?_filled (tree : FileTree) (here : Location) (path : String) (spot : Location) :
    (filled tree here path).get? spot =
      if spot = workPlace here path ++ ["snapshot.json"] then some (.file ({} : Snapshot).text)
      else (settled tree here path).get? spot :=
  FileTree.get?_put _ _ (by simp)

theorem isFresh_filled (tree : FileTree) (here : Location) (path : String) :
    IsFresh (filled tree here path) (workPlace here path) where
  settings := by
    have apart : workPlace here path ++ [configName] ≠ workPlace here path ++ ["snapshot.json"] :=
      fun same => absurd (List.append_cancel_left same) (by decide)
    rw [get?_filled, if_neg apart, get?_settled, if_pos rfl]
  snapshot := by rw [get?_filled, if_pos rfl]

namespace Creates

theorem of_isFound (creates : Creates tree here path change) (found : IsFound tree here path) :
    change = ⟨tree, some (.alreadyInitialized (Path.join path directoryName))⟩ := by
  cases creates with
  | refused => rfl
  | blocked lost | unsettled lost | unfilled lost | done lost => exact absurd found lost

theorem refuses_iff (creates : Creates tree here path change) (shown : String) :
    change.failure = some (.alreadyInitialized shown) ↔
      shown = Path.join path directoryName ∧ IsFound tree here path := by
  cases creates with
  | refused found => simpa [found] using eq_comm
  | blocked lost | unsettled lost | unfilled lost | done lost => simp [lost]

theorem sameElsewhere (creates : Creates tree here path change) :
    SameElsewhere (workPlace here path) tree change.tree := by
  intro spot text apart apart'
  have same := (widens_opened tree here path).sameFiles spot text
  cases creates with
  | refused => rfl
  | blocked | unsettled => exact same
  | unfilled => rwa [get?_settled, if_neg apart]
  | done => rwa [get?_filled, if_neg apart', get?_settled, if_neg apart]

theorem keepsDirectories (creates : Creates tree here path change) :
    tree.KeepsDirectories change.tree := by
  intro spot inside
  have kept := (widens_opened tree here path).keepsDirectories spot inside
  cases creates with
  | refused => exact inside
  | blocked | unsettled => exact kept
  | unfilled _ _ settings => rwa [isDirectory_settled settings]
  | done _ _ settings snapshot => rwa [isDirectory_filled settings snapshot]

/-- All goes well unless there is a work directory where the path leads, a file where a directory
should be, or a directory where a file should be, perhaps one that the path itself leads through. -/
theorem success_iff (creates : Creates tree here path change) :
    change.failure = none ↔ ¬ IsFound tree here path ∧
      tree.IsClear here path ∧ tree.IsFree (workPlace here path) ∧
      ∀ name ∈ [configName, "snapshot.json"],
        tree.isDirectory (workPlace here path ++ [name]) = false ∧
          workPlace here path ++ [name] ∉ Path.stops here path := by
  cases creates with
  | refused found => simp [found]
  | blocked lost blocked =>
      simp only [reduceCtorEq, false_iff]
      exact fun ⟨_, clear, free, _⟩ => blocked (isClear_join.mpr ⟨clear, free⟩)
  | unsettled lost clear held =>
      simp only [reduceCtorEq, false_iff]
      rintro ⟨-, -, -, files⟩
      rw [(isDirectory_opened_below clear _).mpr (files _ (by simp))] at held
      cases held
  | unfilled lost clear _ held =>
      simp only [reduceCtorEq, false_iff]
      rintro ⟨-, -, -, files⟩
      rw [(isDirectory_opened_below clear _).mpr (files _ (by simp))] at held
      cases held
  | done lost clear settings snapshot =>
      obtain ⟨clear', free⟩ := isClear_join.mp clear
      refine iff_of_true rfl ⟨lost, clear', free, ?_⟩
      simp only [List.forall_mem_cons, List.not_mem_nil]
      exact ⟨(isDirectory_opened_below clear _).mp settings,
        (isDirectory_opened_below clear _).mp snapshot, nofun⟩

/-- Where all went well there is a new work directory, which the path leads to. -/
theorem of_success (creates : Creates tree here path change) (success : change.failure = none) :
    IsFresh change.tree (workPlace here path) ∧ change.tree.Opens here path ∧
      (tree.IsRooted → change.tree.IsRooted) := by
  cases creates with
  | refused | blocked | unsettled | unfilled => cases success
  | done lost clear settings snapshot =>
      have still := isDirectory_settled settings
      have inside := isDirectory_workPlace clear
      refine ⟨isFresh_filled tree here path, fun stop member => ?_, fun rooted => ?_⟩
      · rw [isDirectory_filled settings snapshot]
        exact opens_opened clear stop ((Path.mem_stops_join (by decide)).mpr (.inl member))
      · have rooted' : (settled tree here path).IsRooted :=
          (isRooted_opened rooted).put inside settings _
        exact rooted'.put (by rw [still, inside]) (by rw [still, snapshot]) _

end Creates

end Afterwards

/-! ### Straight paths -/

section Straight

variable {change : Change}

theorem get?_below (rooted : tree.IsRooted) (vacant : ¬ IsTaken tree (Path.place here path))
    (name : String) : tree.get? (workPlace here path ++ [name]) = none := by
  refine Option.not_isSome_iff_eq_none.mp fun held => vacant ?_
  exact Option.isSome_iff_exists.mpr ⟨_, of_decide_eq_true (rooted _ name held)⟩

theorem isFound_iff (rooted : tree.IsRooted) (straight : tree.IsStraight here path) :
    IsFound tree here path ↔ IsTaken tree (Path.place here path) :=
  ⟨And.right, fun taken => ⟨straight.opens rooted taken, taken⟩⟩

/-- A straight path leads through nothing below a new work directory. -/
theorem free_below (rooted : tree.IsRooted) (straight : tree.IsStraight here path)
    (vacant : ¬ IsTaken tree (Path.place here path)) (name : String) :
    tree.isDirectory (workPlace here path ++ [name]) = false ∧
      workPlace here path ++ [name] ∉ Path.stops here path := by
  have free : tree.isDirectory (workPlace here path ++ [name]) = false := by
    rw [FileTree.isDirectory, get?_below rooted vacant]
    rfl
  refine ⟨free, fun member => ?_⟩
  rcases straight _ member with inside | front
  · cases free.symm.trans inside
  · have longer := front.length_le
    simp only [workPlace, List.length_append, List.length_singleton] at longer
    omega

namespace Creates

theorem success_iff_of_isStraight (creates : Creates tree here path change)
    (rooted : tree.IsRooted) (straight : tree.IsStraight here path) :
    change.failure = none ↔ ¬ IsTaken tree (Path.place here path) ∧ tree.IsClear here path := by
  rw [creates.success_iff, isFound_iff rooted straight]
  constructor
  · exact fun ⟨vacant, clear, _⟩ => ⟨vacant, clear⟩
  · rintro ⟨vacant, clear⟩
    have free : tree.IsFree (workPlace here path) :=
      .inr (Option.not_isSome_iff_eq_none.mp vacant)
    exact ⟨vacant, clear, free, fun name _ => free_below rooted straight vacant name⟩

theorem sameFiles (creates : Creates tree here path change) (rooted : tree.IsRooted)
    (straight : tree.IsStraight here path) (failed : change.failure ≠ none) :
    tree.SameFiles change.tree := by
  cases creates with
  | refused => exact (FileTree.Widens.refl tree).sameFiles
  | blocked | unsettled => exact (widens_opened tree here path).sameFiles
  | unfilled lost clear _ held =>
      have vacant := mt (isFound_iff rooted straight).mpr lost
      rw [(isDirectory_opened_below clear _).mpr (free_below rooted straight vacant _)] at held
      cases held
  | done => exact absurd rfl failed

end Creates

end Straight

/-! ### The new work directory -/

/-- From the place of a work directory, and from every place below it that has no nearer one, a
command that is told of no snapshot finds the default settings and the empty snapshot in it. -/
def IsUsable (tree : FileTree) (place : Location) : Prop :=
  ∀ setting : Setting, place <+: setting.here → setting.here.IsPlain →
    (∀ other, place <+: other → other <+: setting.here → HasWorkDir tree other → other = place) →
    setting.envSnapshot.IsSilent →
    let file := place ++ [directoryName] ++ ["snapshot.json"]
    resolve tree setting none = .ok ⟨file.path, {}⟩ ∧
      tree.locate? setting.here file.path = some file ∧
      Workspace.snapshot tree setting.here file.path = .ok {}

theorem IsFresh.isUsable {place : Location} (rooted : tree.IsRooted)
    (fresh : IsFresh tree (place ++ [directoryName])) : IsUsable tree place := by
  intro setting front plain nearest unnamed file
  have inside := FileTree.isDirectory_of_get? rooted fresh.settings
  have near : IsNearest tree setting.here (place ++ [directoryName]) := by
    refine ⟨place, rfl, front, isDirectory_iff_hasWorkDir.mp inside, fun other front' has => ?_⟩
    rcases List.prefix_or_prefix_of_prefix front' front with above | below
    · exact above.length_le
    · exact Nat.le_of_eq (congrArg List.length (nearest other below front' has))
  have settings : HasSettings tree (place ++ [directoryName]) {} :=
    ⟨_, (read?_settings_iff rooted plain near _).mpr fresh.settings, Config.read?_text {}⟩
  have entry : file.path = entryPath (place ++ [directoryName]) {} :=
    Location.path_concat _ (by simp) _
  have names : file.IsPlain := by
    simp only [file, Location.IsPlain, List.forall_mem_append]
    exact ⟨⟨fun name member => plain name (front.subset member), by decide⟩, by decide⟩
  have located : tree.locate? setting.here file.path = some file := by
    have top : FileTree.start setting.here file.path = FileTree.start [] file.path := by
      rw [FileTree.start, FileTree.start, if_pos file.isAbsolute_path, if_pos file.isAbsolute_path]
    rw [FileTree.locate?, top, ← FileTree.locate?]
    exact FileTree.locate?_path rooted inside names
  refine ⟨resolve_eq_ok_iff.mpr (.inl ⟨_, near, settings, ?_⟩), located, ?_⟩
  · exact .entry rfl unnamed (congrArg some entry.symm)
  · exact snapshot_eq_ok_iff.mpr ⟨_, FileTree.read?_eq_some_iff.mpr ⟨file, located, fresh.snapshot⟩,
      Snapshot.read?_text {}⟩

end Workspace

/-! ## Sessions -/

open Workspace

namespace Invocation

variable {tree : FileTree} {setting : Setting} {flag target : Option String}

theorem creates_run (tree : FileTree) (setting : Setting) (flag target : Option String) :
    let outcome := run ⟨flag, .create target⟩ tree setting
    Creates tree setting.here (target.getD setting.here.path) ⟨outcome.tree, outcome.failure⟩ := by
  intro outcome
  have creates := create_creates tree setting.here (target.getD setting.here.path)
  have same : Workspace.Change.mk outcome.tree outcome.failure = create tree setting.here
      (Path.join (target.getD setting.here.path) directoryName) := by
    simp only [outcome, run, Command.runCreate]
    generalize create tree setting.here _ = change
    obtain ⟨later, _ | failure⟩ := change <;> rfl
  rwa [same]

theorem run_of_isFound (found : IsFound tree setting.here (target.getD setting.here.path)) :
    run ⟨flag, .create target⟩ tree setting =
      { tree, failure := some (.alreadyInitialized
          (Path.join (target.getD setting.here.path) directoryName)) } := by
  have creates := create_creates tree setting.here (target.getD setting.here.path)
  have refused := creates.of_isFound found
  simp only [run, Command.runCreate, refused]

/-- No command takes a directory away. -/
theorem keepsDirectories_run (invocation : Invocation) (tree : FileTree) (setting : Setting) :
    tree.KeepsDirectories (invocation.run tree setting).tree := by
  obtain ⟨flag, command⟩ := invocation
  cases command with
  | create target => exact (creates_run tree setting flag target).keepsDirectories
  | apply expr ids =>
      show tree.KeepsDirectories (Command.runApply tree setting flag expr ids).tree
      unfold Command.runApply
      split
      · exact .refl tree
      · simp only
        split
        · exact keepsDirectories_write _ _ _ _
        · exact .refl tree
  | query | prune | check =>
      rw [tree_run_of_isReading rfl]
      exact .refl tree

end Invocation

theorem Call.keepsDirectories_foldl_run (calls : List Call) (tree : FileTree) :
    tree.KeepsDirectories (calls.foldl run tree) := by
  induction calls generalizing tree with
  | nil => exact .refl tree
  | cons call calls ih =>
      exact (call.invocation.keepsDirectories_run tree call.setting).trans (ih _)

/-- A work directory is still there after any commands. -/
theorem Call.isFound_foldl_run {tree : FileTree} {here : Location} {path : String}
    {calls : List Call} (opens : (calls.foldl run tree).Opens here path)
    (inside : tree.isDirectory (Path.place here path ++ [directoryName]) = true) :
    IsFound (calls.foldl run tree) here path := by
  have held := of_decide_eq_true (keepsDirectories_foldl_run calls tree _ inside)
  exact ⟨opens, Option.isSome_iff_exists.mpr ⟨_, held⟩⟩

/-- A work directory is refused exactly where the path leads to one, which leaves the tree as it is;
and whatever happens, no file changes but the two of the work directory.  Otherwise all that counts
is that directories can be made and files written where they should be.  A straight path, as every
path is that never goes up or leads through directories only, leads to whatever is where it ends: a
work directory is refused exactly if there is something of its name, any failure leaves the files as
they are, and a success, which takes a clear path, makes two new files.  After any success, from the
place where the path ends and from every place below it that has no nearer work directory, a command
finds the default settings and the empty snapshot; and whatever commands a session goes on with, the
same path is refused, and so is every path that leads to the same place. -/
theorem Invocation.create_sets_up_once {tree : FileTree} (rooted : tree.IsRooted)
    (setting : Setting) (flag target : Option String) :
    let path := target.getD setting.here.path
    let place := Path.place setting.here path
    let workDir := place ++ [directoryName]
    let refusal := Failure.alreadyInitialized (Path.join path directoryName)
    let outcome := run ⟨flag, .create target⟩ tree setting
    (target = none → setting.here.IsPlain → place = setting.here) ∧
    (outcome.failure = some refusal ↔ tree.Opens setting.here path ∧ IsTaken tree place) ∧
    (∀ shown, outcome.failure = some (.alreadyInitialized shown) →
      outcome = { tree, failure := some refusal }) ∧
    SameElsewhere workDir tree outcome.tree ∧
    (outcome.failure = none ↔
      ¬ (tree.Opens setting.here path ∧ IsTaken tree place) ∧
        tree.IsClear setting.here path ∧ tree.IsFree workDir ∧
        ∀ name ∈ [configName, "snapshot.json"], tree.isDirectory (workDir ++ [name]) = false ∧
          workDir ++ [name] ∉ Path.stops setting.here path) ∧
    (".." ∉ Path.names path ∨ tree.Opens setting.here path → tree.IsStraight setting.here path) ∧
    (tree.IsStraight setting.here path →
      (outcome.failure = some refusal ↔ IsTaken tree place) ∧
      (outcome.failure ≠ none → tree.SameFiles outcome.tree) ∧
      (outcome.failure = none ↔ ¬ IsTaken tree place ∧ tree.IsClear setting.here path) ∧
      (outcome.failure = none → tree.get? (workDir ++ [configName]) = none ∧
        tree.get? (workDir ++ ["snapshot.json"]) = none)) ∧
    (outcome.failure = none →
      IsFresh outcome.tree workDir ∧ IsUsable outcome.tree place ∧
      ∀ (calls : List Call) (later : Setting) (flag' target' : Option String),
        let path' := target'.getD later.here.path
        let after := calls.foldl Call.run outcome.tree
        (later.here = setting.here ∧ target' = target ∨
          after.Opens later.here path' ∧ Path.place later.here path' = place) →
        run ⟨flag', .create target'⟩ after later =
          { tree := after,
            failure := some (.alreadyInitialized (Path.join path' directoryName)) }) := by
  intro path place workDir refusal outcome
  have creates := creates_run tree setting flag target
  have refuses (shown : String) : outcome.failure = some (.alreadyInitialized shown) ↔ _ :=
    creates.refuses_iff shown
  refine ⟨?_, ?_, ?_, creates.sameElsewhere, creates.success_iff, ?_, ?_, ?_⟩
  · rintro rfl plain
    exact Path.place_path plain
  · rw [refuses, eq_self, true_and]
    rfl
  · intro shown refused
    exact run_of_isFound ((refuses shown).mp refused).2
  · rintro (down | opens)
    · exact FileTree.isStraight_of_not_mem down
    · exact opens.isStraight
  · intro straight
    have success_iff := creates.success_iff_of_isStraight rooted straight
    refine ⟨?_, creates.sameFiles rooted straight, success_iff, fun success => ?_⟩
    · rw [refuses, eq_self, true_and]
      exact isFound_iff rooted straight
    · have vacant := (success_iff.mp success).1
      exact ⟨get?_below rooted vacant _, get?_below rooted vacant _⟩
  · intro success
    obtain ⟨fresh, opens, rooted'⟩ := creates.of_success success
    refine ⟨fresh, fresh.isUsable (rooted' rooted), fun calls later flag' target' => ?_⟩
    intro path' after leads
    have leads' : after.Opens later.here path' ∧ Path.place later.here path' = place := by
      rcases leads with ⟨here, rfl⟩ | leads
      · simp only [path', here]
        exact ⟨opens.mono (Call.keepsDirectories_foldl_run calls outcome.tree), rfl⟩
      · exact leads
    have inside := FileTree.isDirectory_of_get? (rooted' rooted) fresh.settings
    exact run_of_isFound (Call.isFound_foldl_run leads'.1 (leads'.2 ▸ inside))

/-- A work directory is made in a new directory and found from below.  The same name makes the path
`new/..` lead back into a work directory that was not seen from it before; both of its files are
lost. -/
theorem Invocation.create_sets_up_once_upwards :
    let noon : Instant := ⟨⟨2024, 1, 1, by decide⟩, ⟨12, 0, 0, 0, by decide⟩⟩
    let snapshot : Snapshot := { catalog := { labels := [⟨"bug"⟩] } }
    let empty : FileTree := ⟨[(["w"], .directory)]⟩
    let held : FileTree := ⟨[(["w"], .directory), (["w", ".hubq"], .directory),
      (["w", ".hubq", "config.toml"], .file "format = \"json\"\n"),
      (["w", ".hubq", "snapshot.json"], .file snapshot.text)]⟩
    let setting : Setting := { here := ["w"], now := noon }
    let below : Setting := { here := ["w", "new", "src"], now := noon }
    let made := run ⟨none, .create (some "new")⟩ empty setting
    let lost := run ⟨none, .create (some "new/..")⟩ held setting
    (empty.IsRooted ∧ held.IsRooted) ∧
      (made.failure = none ∧
        Workspace.load made.tree below none = .ok (⟨"/w/new/.hubq/snapshot.json", {}⟩, {}) ∧
        run ⟨none, .create (some "new")⟩ made.tree setting =
          { tree := made.tree, failure := some (.alreadyInitialized "new/.hubq") }) ∧
      (IsTaken held ["w"] ∧ ¬ held.IsStraight ["w"] "new/.." ∧ lost.failure = none ∧
        lost.tree.get? ["w", ".hubq", "config.toml"] = some (.file ({} : Config).text) ∧
        lost.tree.get? ["w", ".hubq", "snapshot.json"] = some (.file ({} : Snapshot).text)) := by
  intro noon snapshot empty held setting below made lost
  have rooted : empty.IsRooted := FileTree.isRooted_of_entries (by decide +kernel)
  have rooted' : held.IsRooted := FileTree.isRooted_of_entries (by decide +kernel)
  have ends : Path.place setting.here ((some "new").getD setting.here.path) = ["w", "new"] := by
    decide +kernel
  have ends' : Path.place setting.here ((some "new/..").getD setting.here.path) = ["w"] := by
    decide +kernel
  have sets := create_sets_up_once rooted setting none (some "new")
  have sets' := create_sets_up_once rooted' setting none (some "new/..")
  simp only [ends] at sets
  simp only [ends'] at sets'
  obtain ⟨-, -, -, -, -, straight_of, straight, ready⟩ := sets
  obtain ⟨-, -, -, -, success, -, -, ready'⟩ := sets'
  have vacant : ¬ IsTaken empty ["w", "new"] := by decide +kernel
  have clear : empty.IsClear ["w"] "new" := by decide +kernel
  have first : made.failure = none :=
    (straight (straight_of (.inl (by decide +kernel)))).2.2.1.mpr ⟨vacant, clear⟩
  have second : lost.failure = none := success.mpr (by decide +kernel)
  obtain ⟨-, usable, refused⟩ := ready first
  obtain ⟨⟨settings, emptied⟩, -⟩ := ready' second
  have nearest : ∀ other, ["w", "new"] <+: other → other <+: below.here →
      Workspace.HasWorkDir made.tree other → other = ["w", "new"] := by
    intro other front front' has
    have none_ : made.tree.get? ["w", "new", "src", ".hubq"] ≠ some .directory := by
      decide +kernel
    rcases List.prefix_concat_iff.mp (show other <+: ["w", "new"] ++ ["src"] from front')
      with rfl | above
    · exact absurd has none_
    · exact above.eq_of_length_le front.length_le
  obtain ⟨resolved, -, read⟩ := usable below (by decide) (by decide) nearest (.inl rfl)
  have path : Location.path ["w", "new", ".hubq", "snapshot.json"] =
      "/w/new/.hubq/snapshot.json" := by decide +kernel
  refine ⟨⟨rooted, rooted'⟩, ⟨first, ?_, ?_⟩, by decide +kernel, by decide +kernel, second,
    settings, emptied⟩
  · rw [← path]
    exact Workspace.load_eq_ok_iff.mpr ⟨resolved, read⟩
  · have joined : Path.join "new" directoryName = "new/.hubq" := by decide +kernel
    rw [← joined]
    exact refused [] setting none (some "new") (.inl ⟨rfl, rfl⟩)

end Triage
