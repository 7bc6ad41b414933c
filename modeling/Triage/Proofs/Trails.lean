/-
# Triage.Proofs.Trails -- the places that a path leads through

Where a path ends does not depend on the tree (`Path.place`); what the tree decides is whether one
gets there, for every place on the way has to be a directory (`FileTree.Opens`).  Making the
directories of a path opens it, unless a file is in the way, and adds the places on the way to the
tree, nothing else (`get?_makeDirectories`).  Places on the way need not lie above the place at the
end: `new/..` ends where it begins, but makes `new` first.
Main statement: `makeDirectories_eq_true_iff`, when a path can be opened.
-/
import Triage.Proofs.PlacePaths

namespace Triage

set_option autoImplicit false

/-! ## Places on the way -/

namespace Location

/-- Where a name leads from a directory. -/
def enter (place : Location) (name : String) : Location :=
  if name = "" ∨ name = "." then place
  else if name = ".." then place.dropLast
  else place ++ [name]

/-- The places that names lead through, from the first to the last. -/
def trail (place : Location) : List String → List Location
  | [] => [place]
  | name :: names => place :: trail (place.enter name) names

variable {place stop : Location}

theorem isAbsolute_path (place : Location) : Path.isAbsolute place.path = true := by
  cases place with
  | nil => rfl
  | cons name names =>
      rw [Path.isAbsolute, toList_path (List.cons_ne_nil name names)]
      rfl

theorem enter_plain {name : String} (solid : name ≠ "") (other : name ≠ ".") (other' : name ≠ "..")
    (place : Location) : place.enter name = place ++ [name] := by
  rw [enter, if_neg (by simp [solid, other]), if_neg other']

theorem foldl_enter (plain : place.IsPlain) (above : Location) :
    place.foldl enter above = above ++ place := by
  induction place generalizing above with
  | nil => simp
  | cons name names ih =>
      obtain ⟨⟨-, solid, other, other'⟩, others⟩ := List.forall_mem_cons.mp plain
      rw [List.foldl_cons, enter_plain solid other other', ih others]
      simp

theorem mem_trail_self (place : Location) (names : List String) : place ∈ place.trail names := by
  cases names <;> simp [trail]

theorem foldl_enter_mem_trail (place : Location) (names : List String) :
    names.foldl enter place ∈ place.trail names := by
  induction names generalizing place with
  | nil => exact List.mem_singleton_self place
  | cons name names ih => exact List.mem_cons_of_mem place (ih (place.enter name))

/-- One more name adds one more place. -/
theorem mem_trail_concat {names : List String} {name : String} :
    stop ∈ place.trail (names ++ [name]) ↔
      stop ∈ place.trail names ∨ stop = (names.foldl enter place).enter name := by
  induction names generalizing place with
  | nil => simp [trail]
  | cons first names ih => simp [trail, ih, or_assoc]

theorem prefix_enter {name : String} (down : name ≠ "..") (place : Location) :
    place <+: place.enter name := by
  rw [enter, if_neg down]
  split
  · exact List.prefix_rfl
  · exact List.prefix_append place [name]

/-- Names that never go up lead through places above the last one. -/
theorem prefix_of_mem_trail {names : List String} (down : ".." ∉ names)
    (member : stop ∈ place.trail names) : stop <+: names.foldl enter place := by
  induction names generalizing place stop with
  | nil =>
      obtain rfl := List.mem_singleton.mp member
      exact List.prefix_rfl
  | cons name names ih =>
      have parts : ".." ≠ name ∧ ".." ∉ names := by simpa using down
      rcases List.mem_cons.mp member with rfl | later
      · exact (prefix_enter parts.1.symm stop).trans (ih parts.2 (mem_trail_self _ names))
      · exact ih parts.2 later

end Location

namespace Path

variable {here stop : Location} {path name : String}

theorem isAbsolute_eq_false (absent : '/' ∉ path.toList) : isAbsolute path = false :=
  decide_eq_false fun first => absent (List.mem_of_mem_head? first)

/-- A name that is joined to a path becomes its last name.  An empty name behind the last slash of
the path gives way to it. -/
theorem exists_names_join (absent : '/' ∉ name.toList) (path : String) :
    ∃ front, names (join path name) = front ++ [name] ∧
      (names path = front ∨ names path = front ++ [""]) := by
  have relative : isAbsolute name = false := isAbsolute_eq_false absent
  have alone : (split name.toList).map String.ofList = [name] := by
    rw [split_of_no_slash absent, List.map_singleton, String.ofList_toList]
  have behind (front : List Char) : (split (front ++ '/' :: name.toList)).map String.ofList =
      (split front).map String.ofList ++ [name] := by
    rw [split_append, List.map_append, alone]
  rw [join, relative]
  by_cases empty : path = ""
  · subst empty
    exact ⟨[], by simpa [names] using alone, .inr rfl⟩
  by_cases closed : path.toList.getLast? = some '/'
  · obtain ⟨front, cut⟩ := List.getLast?_eq_some_iff.mp closed
    refine ⟨(split front).map String.ofList, ?_, .inr ?_⟩
    · simpa [names, empty, closed, cut] using behind front
    · rw [names, cut, split_append, List.map_append]
      rfl
  · refine ⟨names path, ?_, .inl rfl⟩
    simpa [names, empty, closed] using behind path.toList

/-- It begins where the path begins. -/
theorem start_join (absent : '/' ∉ name.toList) (here : Location) (path : String) :
    FileTree.start here (join path name) = FileTree.start here path := by
  have relative : isAbsolute name = false := isAbsolute_eq_false absent
  have same : isAbsolute (join path name) = isAbsolute path := by
    rw [join, relative, if_neg Bool.false_ne_true]
    cases chars : path.toList with
    | nil =>
        obtain rfl : path = "" := String.toList_eq_nil_iff.mp chars
        exact relative
    | cons c rest => split <;> simp [isAbsolute, chars]
  rw [FileTree.start, same, FileTree.start]

/-- The place where a path ends. -/
def place (here : Location) (path : String) : Location :=
  (names path).foldl Location.enter (FileTree.start here path)

/-- The places on the way of a path, its end included. -/
def stops (here : Location) (path : String) : List Location :=
  (FileTree.start here path).trail (names path)

theorem place_mem_stops (here : Location) (path : String) : place here path ∈ stops here path :=
  Location.foldl_enter_mem_trail _ _

example :
    stops ["w"] "new/.." = [["w"], ["w", "new"], ["w"]] ∧ place ["w"] "new/.." = ["w"] := by
  decide +kernel

/-- Without its last name, a path with a name joined to it leads through the same places. -/
theorem exists_front_join (absent : '/' ∉ name.toList) (here : Location) (path : String) :
    ∃ front, names (join path name) = front ++ [name] ∧
      front.foldl Location.enter (FileTree.start here path) = place here path ∧
      ∀ stop, stop ∈ (FileTree.start here path).trail front ↔ stop ∈ stops here path := by
  obtain ⟨front, joined, same | closed⟩ := exists_names_join absent path
  · exact ⟨front, joined, by rw [place, same], fun stop => by rw [stops, same]⟩
  · refine ⟨front, joined, ?_, fun stop => ?_⟩
    · rw [place, closed, List.foldl_append]
      rfl
    · rw [stops, closed, Location.mem_trail_concat, iff_self_or]
      rintro rfl
      exact Location.foldl_enter_mem_trail _ _

theorem place_join (plain : Location.IsPlain [name]) (here : Location) (path : String) :
    place here (join path name) = place here path ++ [name] := by
  obtain ⟨absent, solid, other, other'⟩ := List.forall_mem_singleton.mp plain
  obtain ⟨front, joined, ends, -⟩ := exists_front_join absent here path
  rw [place, joined, start_join absent, List.foldl_append, ends]
  exact Location.enter_plain solid other other' _

theorem mem_stops_join (plain : Location.IsPlain [name]) :
    stop ∈ stops here (join path name) ↔
      stop ∈ stops here path ∨ stop = place here path ++ [name] := by
  obtain ⟨absent, solid, other, other'⟩ := List.forall_mem_singleton.mp plain
  obtain ⟨front, joined, ends, leads⟩ := exists_front_join absent here path
  rw [stops, joined, start_join absent, Location.mem_trail_concat, ends, leads,
    Location.enter_plain solid other other']

/-- The path of a place ends there. -/
theorem place_path (plain : here.IsPlain) : place here here.path = here := by
  cases here with
  | nil => rfl
  | cons name names =>
      have top : FileTree.start (name :: names) (Location.path (name :: names)) = [] :=
        if_pos (Location.isAbsolute_path _)
      rw [place, top, Location.names_path (List.cons_ne_nil name names) fun name member =>
        (plain name member).1, List.foldl_cons]
      exact Location.foldl_enter plain []

end Path

/-! ## The tree on the way -/

namespace FileTree

variable {tree later last : FileTree} {here place spot : Location} {path name : String}
  {names : List String}

/-- Every place on the way of a path is a directory. -/
def Opens (tree : FileTree) (here : Location) (path : String) : Prop :=
  ∀ stop ∈ Path.stops here path, tree.isDirectory stop = true

instance : Decidable (tree.Opens here path) :=
  inferInstanceAs (Decidable (∀ stop ∈ Path.stops here path, _))

/-- There is a directory or nothing. -/
def IsFree (tree : FileTree) (place : Location) : Prop :=
  tree.isDirectory place = true ∨ tree.get? place = none

instance : Decidable (tree.IsFree place) := inferInstanceAs (Decidable (_ ∨ _))

/-- A path begins in a directory, and no file is in its way. -/
def IsClear (tree : FileTree) (here : Location) (path : String) : Prop :=
  tree.isDirectory (start here path) = true ∧ ∀ stop ∈ Path.stops here path, tree.IsFree stop

instance : Decidable (tree.IsClear here path) :=
  inferInstanceAs (Decidable (_ ∧ ∀ stop ∈ Path.stops here path, _))

/-- A path goes up from directories only: a place that has to be made is above its end. -/
def IsStraight (tree : FileTree) (here : Location) (path : String) : Prop :=
  ∀ stop ∈ Path.stops here path, tree.isDirectory stop = true ∨ stop <+: Path.place here path

instance : Decidable (tree.IsStraight here path) :=
  inferInstanceAs (Decidable (∀ stop ∈ Path.stops here path, _))

theorem step?_eq (tree : FileTree) (place : Location) (name : String) :
    tree.step? place name = if tree.isDirectory place then some (place.enter name) else none := by
  unfold step? Location.enter
  split
  · split
    · rfl
    · split <;> rfl
  · rfl

/-- Names lead on as long as there are directories; at the last of them there may be anything. -/
theorem foldlM_step?_concat :
    (names ++ [name]).foldlM tree.step? place = some spot ↔
      (∀ stop ∈ place.trail names, tree.isDirectory stop = true) ∧
        spot = (names.foldl Location.enter place).enter name := by
  induction names generalizing place with
  | nil =>
      rw [List.nil_append, List.foldlM_cons, step?_eq]
      split
      · next inside => simpa [Location.trail, inside] using eq_comm
      · next outside => simp [Location.trail, outside]
  | cons first names ih =>
      rw [List.cons_append, List.foldlM_cons, step?_eq]
      split
      · next inside =>
          rw [Option.bind_eq_bind, Option.bind_some, ih]
          simp [Location.trail, inside]
      · next outside => simp [Location.trail, outside]

/-- The entry of a name in the directory of a path is found through the whole path. -/
theorem locate?_join (plain : Location.IsPlain [name]) :
    tree.locate? here (Path.join path name) = some spot ↔
      tree.Opens here path ∧ spot = Path.place here path ++ [name] := by
  obtain ⟨absent, solid, other, other'⟩ := List.forall_mem_singleton.mp plain
  obtain ⟨front, joined, ends, leads⟩ := Path.exists_front_join absent here path
  have below : Path.join path name ≠ "" := by
    intro empty
    have alone : front ++ [name] = [""] := by rw [← joined, empty]; rfl
    exact solid (by simpa using congrArg List.getLast? alone)
  rw [locate?, if_neg below, joined, Path.start_join absent, foldlM_step?_concat, ends,
    Location.enter_plain solid other other']
  simp only [leads, Opens]

/-! ### Directories are made -/

/-- A directory where there was nothing. -/
def withDirectory (tree : FileTree) (place : Location) : FileTree :=
  if (tree.get? place).isSome then tree else tree.put place .directory

theorem get?_withDirectory (tree : FileTree) (place spot : Location) :
    (tree.withDirectory place).get? spot =
      (tree.get? spot).or (if spot = place then some .directory else none) := by
  unfold withDirectory
  split
  · next held =>
      by_cases same : spot = place
      · subst same
        rw [Option.or_of_isSome held]
      · rw [if_neg same, Option.or_none]
  · next absent =>
      have top : place ≠ [] := by
        rintro rfl
        exact absent rfl
      rw [get?_put tree _ top]
      by_cases same : spot = place
      · subst same
        rw [Option.not_isSome_iff_eq_none.mp absent]
        simp
      · simp [same]

theorem makeAlong_cons (tree : FileTree) (place : Location) (name : String) (names : List String) :
    tree.makeAlong place (name :: names) =
      if tree.isDirectory place then
        (tree.withDirectory (place.enter name)).makeAlong (place.enter name) names
      else (tree, false) := by
  rw [makeAlong, step?_eq]
  by_cases inside : tree.isDirectory place
  · cases held : tree.get? (place.enter name) <;> simp [inside, held, withDirectory]
  · simp [inside]

/-- Some directories may be new in a later tree; everything else is as it was. -/
def Widens (tree later : FileTree) : Prop :=
  ∀ spot, later.get? spot = tree.get? spot ∨
    tree.get? spot = none ∧ later.get? spot = some .directory

theorem Widens.refl (tree : FileTree) : tree.Widens tree := fun _ => .inl rfl

theorem Widens.trans (first : tree.Widens later) (second : later.Widens last) :
    tree.Widens last := by
  intro spot
  rcases second spot with same | ⟨absent, new⟩
  · rw [same]
    exact first spot
  · rcases first spot with same | ⟨-, held⟩
    · exact .inr ⟨by rw [← same, absent], new⟩
    · rw [absent] at held
      cases held

theorem widens_withDirectory (tree : FileTree) (place : Location) :
    tree.Widens (tree.withDirectory place) := by
  intro spot
  rw [get?_withDirectory]
  cases tree.get? spot with
  | some entry => exact .inl rfl
  | none => split <;> simp

theorem widens_makeAlong (tree : FileTree) (place : Location) (names : List String) :
    tree.Widens (tree.makeAlong place names).1 := by
  induction names generalizing tree place with
  | nil => exact .refl tree
  | cons name names ih =>
      rw [makeAlong_cons]
      split
      · exact (widens_withDirectory tree _).trans (ih _ _)
      · exact .refl tree

theorem isFree_withDirectory : (tree.withDirectory place).IsFree spot ↔ tree.IsFree spot := by
  rw [IsFree, IsFree, isDirectory, isDirectory, get?_withDirectory]
  cases tree.get? spot with
  | some entry => rfl
  | none => split <;> simp

theorem isDirectory_withDirectory_self :
    (tree.withDirectory place).isDirectory place = true ↔ tree.IsFree place := by
  rw [IsFree, isDirectory, isDirectory, get?_withDirectory, if_pos rfl]
  cases tree.get? place <;> simp

theorem makeAlong_eq_true_iff :
    (tree.makeAlong place names).2 = true ↔
      tree.isDirectory place = true ∧ ∀ stop ∈ place.trail names, tree.IsFree stop := by
  induction names generalizing tree place with
  | nil => simpa [makeAlong, Location.trail, IsFree] using Or.inl
  | cons name names ih =>
      rw [makeAlong_cons]
      split
      · next inside =>
          have next := Location.mem_trail_self (place.enter name) names
          simp only [ih, isFree_withDirectory, isDirectory_withDirectory_self, Location.trail,
            List.forall_mem_cons, inside, true_and]
          exact ⟨fun both => ⟨.inl inside, both.2⟩, fun both => ⟨both.2 _ next, both.2⟩⟩
      · next outside => simp [outside]

/-- Once they are made, the places on the way are directories. -/
theorem get?_makeAlong (made : (tree.makeAlong place names).2 = true) (spot : Location) :
    (tree.makeAlong place names).1.get? spot =
      (tree.get? spot).or (if spot ∈ place.trail names then some .directory else none) := by
  induction names generalizing tree place with
  | nil =>
      have inside : tree.get? place = some .directory := of_decide_eq_true made
      by_cases same : spot = place
      · subst same
        simp [makeAlong, inside]
      · simp [makeAlong, Location.trail, same]
  | cons name names ih =>
      rw [makeAlong_cons] at made ⊢
      split at made
      · next within =>
          have inside : tree.get? place = some .directory := of_decide_eq_true within
          rw [if_pos within, ih made, get?_withDirectory, Location.trail]
          cases held : tree.get? spot with
          | some entry => rfl
          | none =>
              have other : spot ≠ place := by
                rintro rfl
                cases held.symm.trans inside
              by_cases next : spot = place.enter name
              · subst next
                simp [Location.mem_trail_self]
              · simp [next, other]
      · cases made

/-- A file or directory in a directory leaves the tree rooted, unless it takes the place of another
directory. -/
theorem IsRooted.put (rooted : tree.IsRooted) (inside : tree.isDirectory place = true)
    (free : tree.isDirectory (place ++ [name]) = false) (entry : Entry) :
    (tree.put (place ++ [name]) entry).IsRooted := by
  intro above other held
  rw [get?_put tree entry (by simp)] at held
  have within : tree.isDirectory above = true := by
    split at held
    · next same =>
        obtain rfl : above = place := (List.append_inj' same rfl).1
        exact inside
    · exact rooted above other held
  have apart : above ≠ place ++ [name] := by
    rintro rfl
    rw [free] at within
    cases within
  rw [isDirectory, get?_put tree entry (by simp), if_neg apart]
  exact within

theorem IsRooted.isDirectory_dropLast (rooted : tree.IsRooted)
    (inside : tree.isDirectory place = true) : tree.isDirectory place.dropLast = true := by
  induction place using List.reverseRecOn with
  | nil => rfl
  | append_singleton above name =>
      rw [List.dropLast_concat]
      exact isDirectory_of_get? rooted (of_decide_eq_true inside)

theorem IsRooted.withDirectory (rooted : tree.IsRooted) (inside : tree.isDirectory place = true)
    (name : String) : (tree.withDirectory (place.enter name)).IsRooted := by
  unfold FileTree.withDirectory
  split
  · exact rooted
  · next absent =>
      have missing : tree.isDirectory (place.enter name) = false := by
        rw [isDirectory, Option.not_isSome_iff_eq_none.mp absent]
        rfl
      unfold Location.enter at missing ⊢
      split at missing
      · cases missing.symm.trans inside
      · split at missing
        · cases missing.symm.trans (rooted.isDirectory_dropLast inside)
        · next still up =>
            rw [if_neg still, if_neg up]
            exact rooted.put inside missing _

theorem IsRooted.makeAlong (rooted : tree.IsRooted) (place : Location) (names : List String) :
    (tree.makeAlong place names).1.IsRooted := by
  induction names generalizing tree place with
  | nil => exact rooted
  | cons name names ih =>
      rw [makeAlong_cons]
      split
      · next inside => exact ih (rooted.withDirectory inside name) _
      · exact rooted

/-- A path can be opened exactly if it is clear. -/
theorem makeDirectories_eq_true_iff :
    (tree.makeDirectories here path).2 = true ↔ tree.IsClear here path :=
  makeAlong_eq_true_iff

theorem get?_makeDirectories (clear : tree.IsClear here path) (spot : Location) :
    (tree.makeDirectories here path).1.get? spot =
      (tree.get? spot).or (if spot ∈ Path.stops here path then some .directory else none) :=
  get?_makeAlong (makeDirectories_eq_true_iff.mpr clear) spot

theorem opens_makeDirectories (clear : tree.IsClear here path) :
    (tree.makeDirectories here path).1.Opens here path := by
  intro stop member
  rw [isDirectory, get?_makeDirectories clear, if_pos member]
  rcases clear.2 stop member with inside | absent
  · rw [of_decide_eq_true inside]
    rfl
  · rw [absent]
    rfl

/-! ### Straight paths -/

theorem IsRooted.isDirectory_of_prefix (rooted : tree.IsRooted)
    (inside : tree.isDirectory place = true) (front : spot <+: place) :
    tree.isDirectory spot = true := by
  induction place using List.reverseRecOn with
  | nil => rwa [List.prefix_nil.mp front]
  | append_singleton above name ih =>
      rcases List.prefix_concat_iff.mp front with rfl | front
      · exact inside
      · exact ih (isDirectory_of_get? rooted (of_decide_eq_true inside)) front

/-- If there is something in the directory where a straight path ends, the path leads there. -/
theorem IsStraight.opens (straight : tree.IsStraight here path) (rooted : tree.IsRooted)
    (held : (tree.get? (Path.place here path ++ [name])).isSome) : tree.Opens here path :=
  fun stop member => (straight stop member).elim id
    (rooted.isDirectory_of_prefix (rooted _ name held))

theorem Opens.isStraight (opens : tree.Opens here path) : tree.IsStraight here path :=
  fun stop member => .inl (opens stop member)

/-- A path that never goes up is straight. -/
theorem isStraight_of_not_mem (down : ".." ∉ Path.names path) : tree.IsStraight here path :=
  fun _ member => .inr (Location.prefix_of_mem_trail down member)

end FileTree

end Triage
