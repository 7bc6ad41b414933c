/-
# Triage.Proofs.SnapshotSource -- where a command finds its snapshot

The search for a work directory goes up one directory at a time (`nearest?_concat`) and ends at the
longest place above that has one (`nearest?_eq_some_iff`).  Its settings come first: without them
nothing is found, whatever the caller and the environment say.  Only then is a path chosen, from the
caller, the environment and the settings in this order (`Prevails`).  The caller cannot name an
empty path (`Request.snapshot_ne_empty`), and the environment names none by one
(`Variable.IsSilent`).
Main statement: `resolve_exactly`, every outcome of `Workspace.resolve` with its exact condition.
-/
import Triage.Arguments
import Triage.Proofs.Overwriting
import Triage.Proofs.PlacePaths

namespace Triage

set_option autoImplicit false

/-! ## What the caller can name -/

namespace Draft

variable {draft next : Draft} {verb : Verb}

/-- If a snapshot is named, then by a path that is not empty. -/
def NamesPath (draft : Draft) : Prop := draft.snapshot ≠ some ""

theorem namesPath_fresh : NamesPath {} := nofun

theorem NamesPath.addOption (names : draft.NamesPath) {flag : Flag} {value : String}
    (added : draft.addOption flag value = some next) : next.NamesPath := by
  cases flag with
  | snapshot =>
      rw [Draft.addOption] at added
      split at added
      · cases added
      · next fits =>
          obtain rfl := Option.some.inj added
          exact fun empty => fits (.inr (Option.some.inj empty))
  | output =>
      rw [Draft.addOption] at added
      split at added
      · cases added
      · obtain ⟨format, -, rfl⟩ := Option.map_eq_some_iff.mp added
        exact names
  | drop | keep =>
      obtain ⟨kind, -, rfl⟩ := Option.map_eq_some_iff.mp added
      exact names

theorem NamesPath.addWord (names : draft.NamesPath) {word : String}
    (added : draft.addWord verb word = some next) : next.NamesPath := by
  unfold Draft.addWord at added
  extract_lets fits at added
  split at added
  · obtain rfl := Option.some.inj added
    exact names
  · cases added

theorem NamesPath.addWords (names : draft.NamesPath) {words : List String}
    (added : words.foldlM (Draft.addWord verb) draft = some next) : next.NamesPath := by
  induction words generalizing draft with
  | nil =>
      obtain rfl := Option.some.inj added
      exact names
  | cons word words ih =>
      rw [List.foldlM_cons] at added
      obtain ⟨first, taken, rest⟩ := Option.bind_eq_some_iff.mp added
      exact ih (names.addWord taken) rest

end Draft

/-- No argument makes an empty path of the option, whatever stands around it. -/
theorem Level.namesPath_of_read? {level : Level} {draft last : Draft} {arguments : List String}
    {ending : Ending} (names : draft.NamesPath)
    (read : level.read? draft arguments = some (last, ending)) : last.NamesPath := by
  -- By the clauses of the reader; a word or an option goes on with the draft that it was added to.
  fun_induction Level.read? level draft arguments with
  | case1 | case2 =>
      cases read
      exact names
  | case3 draft argument rest form verb same ih =>
      subst same
      obtain ⟨next, added, read⟩ := Option.bind_eq_some_iff.mp read
      exact ih next (names.addWord added) read
  | case4 | case8 | case9 | case12 => cases read
  | case5 draft argument rest form verb =>
      obtain ⟨next, added, same⟩ := Option.map_eq_some_iff.mp read
      cases same
      exact names.addWords added
  | case6 draft argument rest flag value form ih
  | case7 draft argument flag form value rest word ih =>
      obtain ⟨next, added, read⟩ := Option.bind_eq_some_iff.mp read
      exact ih next (names.addOption added) read
  | case10 | case11 =>
      cases read
      exact names

namespace Request

variable {front : Draft} {name : String} {arguments : List String} {invocation : Invocation}

theorem readHelp?_ne_run (words : List String) : readHelp? words ≠ some (.run invocation) := by
  unfold readHelp?
  split
  · nofun
  · split <;> nofun
  · nofun

theorem snapshot_ne_of_readCommand? (names : front.NamesPath)
    (read : readCommand? front name arguments = some (.run invocation)) :
    invocation.snapshot ≠ some "" := by
  simp only [readCommand?, Option.bind_eq_bind, Option.bind_eq_some_iff] at read
  obtain ⟨verb, -, ⟨draft, ending⟩, inside, read⟩ := read
  have named := Level.namesPath_of_read? Draft.namesPath_fresh inside
  cases ending with
  | done =>
      obtain ⟨command, -, made⟩ := Option.bind_eq_some_iff.mp read
      cases made
      -- The path inside the command goes first.
      unfold Draft.NamesPath at names named
      show (draft.snapshot <|> front.snapshot) ≠ some ""
      revert named
      cases draft.snapshot with
      | none => exact fun _ => names
      | some path => exact id
  | help | command | version => cases read

/-- No command line names an empty path. -/
theorem snapshot_ne_empty (read : read? arguments = some (.run invocation)) :
    invocation.snapshot ≠ some "" := by
  simp only [read?, Option.bind_eq_bind, Option.bind_eq_some_iff] at read
  obtain ⟨⟨front, ending⟩, before, read⟩ := read
  have named := Level.namesPath_of_read? Draft.namesPath_fresh before
  cases ending with
  | command name rest =>
      simp only at read
      split at read
      · exact absurd read (readHelp?_ne_run rest)
      · exact snapshot_ne_of_readCommand? named read
  | help | version | done => cases read

end Request

/-! ## What the environment can name -/

namespace Variable

/-- No path is named: the variable is not set, or not Unicode, or empty. -/
def IsSilent (env : Variable) : Prop := env = .unset ∨ env = .notUnicode ∨ env = .text ""

theorem text?_eq_some_iff {env : Variable} {value : String} :
    env.text? = some value ↔ env = .text value := by
  cases env <;> simp [text?]

end Variable

namespace Workspace

variable {tree : FileTree} {here workDir : Location} {setting : Setting} {flag : Option String}

/-! ## The nearest work directory -/

/-- There is a work directory in this place; a file of the name is none. -/
def HasWorkDir (tree : FileTree) (place : Location) : Prop :=
  tree.get? (place ++ [directoryName]) = some .directory

theorem isDirectory_iff_hasWorkDir {place : Location} :
    tree.isDirectory (place ++ [directoryName]) = true ↔ HasWorkDir tree place :=
  decide_eq_true_iff

/-- The work directory of the nearest place that has one, `here` or above it. -/
def IsNearest (tree : FileTree) (here workDir : Location) : Prop :=
  ∃ above, workDir = above ++ [directoryName] ∧ above <+: here ∧ HasWorkDir tree above ∧
    ∀ other, other <+: here → HasWorkDir tree other → other.length ≤ above.length

/-- Neither `here` nor any place above it has a work directory. -/
def IsOutside (tree : FileTree) (here : Location) : Prop :=
  ∀ above, above <+: here → ¬ HasWorkDir tree above

theorem ancestors_concat (above : Location) (name : String) :
    Location.ancestors (above ++ [name]) = (above ++ [name]) :: above.ancestors := by
  have short : ∀ n ∈ (List.range (above.length + 1)).reverse,
      List.take n (above ++ [name]) = List.take n above := by
    intro n member
    have : n < above.length + 1 := by simpa using member
    exact List.take_append_of_le_length (by omega)
  rw [Location.ancestors, List.length_append, List.length_singleton, List.range_succ,
    List.reverse_append, List.reverse_singleton, List.singleton_append, List.map_cons,
    List.map_congr_left short, List.take_of_length_le (by simp), Location.ancestors]

/-- The search goes up where there is no work directory. -/
theorem nearest?_concat (tree : FileTree) (above : Location) (name : String) :
    nearest? tree (above ++ [name]) =
      if tree.isDirectory (above ++ [name] ++ [directoryName])
      then some (above ++ [name] ++ [directoryName]) else nearest? tree above := by
  rw [nearest?, ancestors_concat, List.map_cons, List.find?_cons, nearest?]
  split
  · next found => rw [if_pos found]
  · next absent => rw [if_neg (by rw [absent]; decide)]

theorem nearest?_nil (tree : FileTree) :
    nearest? tree [] =
      if tree.isDirectory [directoryName] then some [directoryName] else none := by
  show List.find? tree.isDirectory [[directoryName]] = _
  rw [List.find?_cons, List.find?_nil]
  split
  · next found => rw [if_pos found]
  · next absent => rw [if_neg (by rw [absent]; decide)]

/-- A place with a work directory has the nearest one itself. -/
theorem isNearest_of_hasWorkDir (has : HasWorkDir tree here) :
    IsNearest tree here workDir ↔ workDir = here ++ [directoryName] := by
  constructor
  · rintro ⟨above, rfl, front, -, nearest⟩
    rw [front.eq_of_length_le (nearest here List.prefix_rfl has)]
  · rintro rfl
    exact ⟨here, rfl, List.prefix_rfl, has, fun other front _ => front.length_le⟩

/-- Any other place has that of the place above it. -/
theorem isNearest_concat {above : Location} {name : String}
    (none_ : ¬ HasWorkDir tree (above ++ [name])) :
    IsNearest tree (above ++ [name]) workDir ↔ IsNearest tree above workDir := by
  have fronts {other : Location} (has : HasWorkDir tree other) :
      other <+: above ++ [name] ↔ other <+: above := by
    rw [List.prefix_concat_iff]
    refine or_iff_right ?_
    rintro rfl
    exact none_ has
  constructor
  · rintro ⟨other, rfl, front, has, nearest⟩
    exact ⟨other, rfl, (fronts has).mp front, has, fun third front' has' =>
      nearest third ((fronts has').mpr front') has'⟩
  · rintro ⟨other, rfl, front, has, nearest⟩
    exact ⟨other, rfl, (fronts has).mpr front, has, fun third front' has' =>
      nearest third ((fronts has').mp front') has'⟩

/-- The search ends at the nearest work directory. -/
theorem nearest?_eq_some_iff : nearest? tree here = some workDir ↔ IsNearest tree here workDir := by
  -- The induction goes up from `here` by its last name, as the search does.
  induction here using List.reverseRecOn with
  | nil =>
      rw [nearest?_nil]
      split
      · next found =>
          rw [isNearest_of_hasWorkDir (isDirectory_iff_hasWorkDir.mp found), Option.some.injEq,
            eq_comm, List.nil_append]
      · next absent =>
          simp only [reduceCtorEq, false_iff]
          rintro ⟨above, rfl, front, has, -⟩
          obtain rfl := List.prefix_nil.mp front
          exact absent (isDirectory_iff_hasWorkDir.mpr has)
  | append_singleton above name ih =>
      rw [nearest?_concat]
      split
      · next found =>
          rw [isNearest_of_hasWorkDir (isDirectory_iff_hasWorkDir.mp found), Option.some.injEq,
            eq_comm]
      · next absent =>
          rw [ih, isNearest_concat fun has => absent (isDirectory_iff_hasWorkDir.mpr has)]

/-- The search ends with nothing outside of all work directories. -/
theorem nearest?_eq_none_iff : nearest? tree here = none ↔ IsOutside tree here := by
  simp only [nearest?, List.find?_eq_none, List.mem_map, Location.ancestors, List.mem_reverse,
    List.mem_range]
  constructor
  · intro nothing above front has
    refine nothing _ ⟨above, ⟨above.length, ?_, ?_⟩, rfl⟩ (isDirectory_iff_hasWorkDir.mpr has)
    · exact Nat.lt_succ_of_le front.length_le
    · exact (List.prefix_iff_eq_take.mp front).symm
  · rintro outside _ ⟨_, ⟨n, -, rfl⟩, rfl⟩ found
    exact outside _ (List.take_prefix n here) (isDirectory_iff_hasWorkDir.mp found)

/-! ## The settings of a work directory -/

/-- What is wrong with the settings: there is no such file, or it holds no settings. -/
def IsFaulty (tree : FileTree) (workDir : Location) : FileFault → Prop
  | .unreadable => tree.read? [] (workDir.path ++ "/" ++ configName) = none
  | .malformed => ∃ text, tree.read? [] (workDir.path ++ "/" ++ configName) = some text ∧
      Config.read? text = none

def HasSettings (tree : FileTree) (workDir : Location) (settings : Config) : Prop :=
  ∃ text, tree.read? [] (workDir.path ++ "/" ++ configName) = some text ∧
    Config.read? text = some settings

/-- The snapshot that settings name: an absolute path as it is, any other from the work
directory. -/
def entryPath (workDir : Location) (settings : Config) : String :=
  if Path.isAbsolute settings.snapshot then settings.snapshot
  else workDir.path ++ "/" ++ settings.snapshot

theorem config_eq_error_iff {failure : Failure} :
    config tree workDir = .error failure ↔
      (tree.read? [] (Path.join workDir.path configName) = none ∧
        failure = .config .unreadable) ∨
      ∃ text, tree.read? [] (Path.join workDir.path configName) = some text ∧
        Config.read? text = none ∧ failure = .config .malformed := by
  unfold config
  cases tree.read? [] (Path.join workDir.path configName) with
  | none => simp [eq_comm]
  | some text => cases taken : Config.read? text <;> simp [taken, eq_comm]

section Nearest

variable {settings : Config}

theorem join_of_isNearest (near : IsNearest tree here workDir) {path : String}
    (relative : Path.isAbsolute path = false) :
    Path.join workDir.path path = workDir.path ++ "/" ++ path := by
  obtain ⟨above, rfl, -⟩ := near
  exact Location.join_path rfl (by decide) relative

theorem hasSettings_iff (near : IsNearest tree here workDir) :
    config tree workDir = .ok settings ↔ HasSettings tree workDir settings := by
  rw [config_eq_ok_iff, join_of_isNearest near (by decide), HasSettings]

theorem isFaulty_iff (near : IsNearest tree here workDir) {failure : Failure} :
    config tree workDir = .error failure ↔
      ∃ fault, IsFaulty tree workDir fault ∧ failure = .config fault := by
  rw [config_eq_error_iff, join_of_isNearest near (by decide)]
  constructor
  · rintro (⟨unread, rfl⟩ | ⟨text, read, refused, rfl⟩)
    · exact ⟨.unreadable, unread, rfl⟩
    · exact ⟨.malformed, ⟨text, read, refused⟩, rfl⟩
  · rintro ⟨_ | _, fault, rfl⟩
    · exact .inl ⟨fault, rfl⟩
    · obtain ⟨text, read, refused⟩ := fault
      exact .inr ⟨text, read, refused, rfl⟩

theorem snapshotPath_of_isNearest (near : IsNearest tree here workDir) :
    settings.snapshotPath workDir.path = entryPath workDir settings := by
  unfold Config.snapshotPath entryPath
  split
  · next absolute => exact Path.join_of_isAbsolute absolute _
  · next relative => exact join_of_isNearest near (Bool.eq_false_iff.mpr relative)

/-- The settings are the file in the work directory. -/
theorem read?_settings_iff (rooted : tree.IsRooted) (plain : here.IsPlain)
    (near : IsNearest tree here workDir) (text : String) :
    tree.read? [] (workDir.path ++ "/" ++ configName) = some text ↔
      tree.get? (workDir ++ [configName]) = some (.file text) := by
  obtain ⟨above, rfl, front, has, -⟩ := near
  have names : (above ++ [directoryName] ++ [configName]).IsPlain := by
    simp only [Location.IsPlain, List.forall_mem_append, List.forall_mem_singleton]
    exact ⟨⟨fun name member => plain name (front.subset member), by decide⟩, by decide⟩
  rw [← Location.path_concat _ (by simp)]
  exact FileTree.read?_path rooted names (isDirectory_iff_hasWorkDir.mpr has)

end Nearest

/-! ## Which path prevails -/

/-- The path that a command takes: what the caller names, or else what the environment names, if
that is a text and not empty, or else what the settings name. -/
inductive Prevails (flag : Option String) (env : Variable) (entry : Option String) : String → Prop
  | flag {path : String} : flag = some path → Prevails flag env entry path
  | env {path : String} :
      flag = none → env = .text path → path ≠ "" → Prevails flag env entry path
  | entry {path : String} :
      flag = none → env.IsSilent → entry = some path → Prevails flag env entry path

theorem named?_eq_none_iff :
    named? setting flag = none ↔ flag = none ∧ setting.envSnapshot.IsSilent := by
  cases flag <;> cases env : setting.envSnapshot <;>
    simp [named?, env, Variable.text?, Variable.IsSilent, Option.filter_eq_none_iff]

theorem prevails_iff {entry : Option String} {path : String} :
    Prevails flag setting.envSnapshot entry path ↔
      (named? setting flag).or entry = some path := by
  constructor
  · intro prevails
    cases prevails with
    | flag given => simp [named?, given]
    | env absent given solid =>
        simp [named?, absent, given, Variable.text?, Option.filter_some, solid]
    | entry absent empty given => rw [named?_eq_none_iff.mpr ⟨absent, empty⟩, Option.none_or, given]
  · intro chosen
    cases called : flag with
    | some path' =>
        have same : path' = path := by simpa [named?, called] using chosen
        exact .flag (congrArg some same)
    | none =>
        cases named : named? setting flag with
        | none =>
            rw [named, Option.none_or] at chosen
            exact .entry rfl (named?_eq_none_iff.mp named).2 chosen
        | some path' =>
            obtain rfl : path' = path := by simpa [named] using chosen
            have given : setting.envSnapshot.text?.filter (fun path => !path.isEmpty) =
                some path' := by
              simpa [named?, called] using named
            obtain ⟨given, solid⟩ := Option.filter_eq_some_iff.mp given
            exact .env rfl (Variable.text?_eq_some_iff.mp given) (by simpa using solid)

/-! ## Every outcome -/

theorem eq_of_isNearest {other : Location} (near : nearest? tree here = some workDir)
    (near' : IsNearest tree here other) : other = workDir :=
  Option.some.inj ((nearest?_eq_some_iff.mpr near').symm.trans near)

theorem not_isOutside (near : nearest? tree here = some workDir) : ¬ IsOutside tree here := by
  rw [← nearest?_eq_none_iff, near]
  nofun

theorem not_isNearest (outside : nearest? tree here = none) (other : Location) :
    ¬ IsNearest tree here other := by
  rw [← nearest?_eq_some_iff, outside]
  nofun

/-- Where there is a work directory its settings come first. -/
theorem resolve_of_nearest (near : nearest? tree setting.here = some workDir) :
    resolve tree setting flag = (config tree workDir).map fun settings =>
      ⟨(named? setting flag).getD (settings.snapshotPath workDir.path), settings⟩ := by
  simp only [resolve, near]
  cases config tree workDir <;> rfl

theorem resolve_eq_error_iff {failure : Failure} :
    resolve tree setting flag = .error failure ↔
      (∃ workDir fault, IsNearest tree setting.here workDir ∧ IsFaulty tree workDir fault ∧
        failure = .config fault) ∨
      (failure = .notInitialized ∧ IsOutside tree setting.here ∧ flag = none ∧
        setting.envSnapshot.IsSilent) := by
  cases search : nearest? tree setting.here with
  | some workDir =>
      have near := nearest?_eq_some_iff.mp search
      have failed : resolve tree setting flag = .error failure ↔
          config tree workDir = .error failure := by
        rw [resolve_of_nearest search]
        cases config tree workDir <;> simp [Except.map]
      rw [failed, isFaulty_iff near]
      constructor
      · rintro ⟨fault, wrong, rfl⟩
        exact .inl ⟨workDir, fault, near, wrong, rfl⟩
      · rintro (⟨other, fault, near', wrong, rfl⟩ | ⟨-, outside, -⟩)
        · obtain rfl := eq_of_isNearest search near'
          exact ⟨fault, wrong, rfl⟩
        · exact absurd outside (not_isOutside search)
  | none =>
      have failed : resolve tree setting flag = .error failure ↔
          failure = .notInitialized ∧ named? setting flag = none := by
        simp only [resolve, search]
        cases named? setting flag <;> simp [eq_comm]
      rw [failed, named?_eq_none_iff]
      constructor
      · rintro ⟨rfl, unnamed⟩
        exact .inr ⟨rfl, nearest?_eq_none_iff.mp search, unnamed⟩
      · rintro (⟨other, fault, near, -⟩ | ⟨rfl, -, unnamed⟩)
        · exact absurd near (not_isNearest search other)
        · exact ⟨rfl, unnamed⟩

theorem resolve_eq_ok_iff {source : Source} :
    resolve tree setting flag = .ok source ↔
      (∃ workDir, IsNearest tree setting.here workDir ∧ HasSettings tree workDir source.config ∧
        Prevails flag setting.envSnapshot (some (entryPath workDir source.config)) source.path) ∨
      (IsOutside tree setting.here ∧ source.config = ⟨"snapshot.json", .text⟩ ∧
        Prevails flag setting.envSnapshot none source.path) := by
  obtain ⟨path, settings⟩ := source
  cases search : nearest? tree setting.here with
  | some workDir =>
      have near := nearest?_eq_some_iff.mp search
      have found : resolve tree setting flag = .ok ⟨path, settings⟩ ↔
          HasSettings tree workDir settings ∧
            Prevails flag setting.envSnapshot (some (entryPath workDir settings)) path := by
        rw [← hasSettings_iff near, prevails_iff, ← snapshotPath_of_isNearest near,
          resolve_of_nearest search]
        cases config tree workDir with
        | error failure => simp [Except.map]
        | ok read =>
            simp only [Except.map, Except.ok.injEq, Source.mk.injEq]
            constructor
            · rintro ⟨rfl, rfl⟩
              cases named? setting flag <;> exact ⟨rfl, rfl⟩
            · rintro ⟨rfl, chosen⟩
              refine ⟨?_, rfl⟩
              cases named : named? setting flag <;> simpa [named] using chosen
      rw [found]
      constructor
      · exact fun both => .inl ⟨workDir, near, both⟩
      · rintro (⟨other, near', both⟩ | ⟨outside, -⟩)
        · obtain rfl := eq_of_isNearest search near'
          exact both
        · exact absurd outside (not_isOutside search)
  | none =>
      have found : resolve tree setting flag = .ok ⟨path, settings⟩ ↔
          settings = ⟨"snapshot.json", .text⟩ ∧
            Prevails flag setting.envSnapshot none path := by
        rw [prevails_iff, Option.or_none]
        simp only [resolve, search]
        cases named? setting flag <;> simp [eq_comm, and_comm]
      rw [found]
      constructor
      · exact fun both => .inr ⟨nearest?_eq_none_iff.mp search, both⟩
      · rintro (⟨other, near, -⟩ | ⟨-, both⟩)
        · exact absurd near (not_isNearest search other)
        · exact both

end Workspace

end Triage
