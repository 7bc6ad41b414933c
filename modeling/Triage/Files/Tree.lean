/-
# Triage.Files.Tree -- a tree of files

A tree knows an entry for some places; the top is always a directory. Paths are followed from a
directory: an empty name and `.` stay, `..` goes up, and every name needs a directory to start
from. Main statements: `get?_put`, what is found after an entry was put in its place;
`read?_write?`, a file that was written is read back.
-/
import Triage.Files.Path

namespace Triage

set_option autoImplicit false

inductive Entry where
  | file (text : String)
  | directory
deriving DecidableEq

structure FileTree where
  entries : List (Location × Entry) := []

namespace FileTree

def get? (tree : FileTree) (location : Location) : Option Entry :=
  if location = [] then some .directory else tree.entries.lookup location

def isDirectory (tree : FileTree) (location : Location) : Bool :=
  decide (tree.get? location = some .directory)

/-- Puts an entry in its place, where it hides any earlier one. -/
def put (tree : FileTree) (location : Location) (entry : Entry) : FileTree :=
  ⟨(location, entry) :: tree.entries.filter fun old => decide (old.1 ≠ location)⟩

theorem lookup_filter_ne (entries : List (Location × Entry)) {a b : Location} (h : b ≠ a) :
    (entries.filter fun old => decide (old.1 ≠ a)).lookup b = entries.lookup b := by
  induction entries with
  | nil => rfl
  | cons old entries ih =>
    obtain ⟨place, entry⟩ := old
    by_cases ha : place = a
    · have hb : (b == place) = false := by simpa [ha] using h
      rw [List.filter_cons_of_neg (by simp [ha]), ih, List.lookup_cons, hb]
    · rw [List.filter_cons_of_pos (by simp [ha]), List.lookup_cons, List.lookup_cons, ih]

/-- Another place keeps what it had. -/
theorem get?_put (tree : FileTree) {a b : Location} (entry : Entry) (top : a ≠ []) :
    (tree.put a entry).get? b = if b = a then some entry else tree.get? b := by
  by_cases hb : b = a
  · subst hb; simp [get?, put, top]
  · by_cases hn : b = []
    · subst hn; simp [get?, hb]
    · have := lookup_filter_ne tree.entries hb
      simp only [get?, put, hn, if_false, hb, List.lookup_cons]
      have ne : (b == a) = false := by simpa using hb
      rw [ne]
      exact this

/-! ## Following a path -/

/-- Goes on from a directory by one name. -/
def step? (tree : FileTree) (location : Location) (name : String) : Option Location :=
  if tree.isDirectory location then
    if name = "" ∨ name = "." then some location
    else if name = ".." then some location.dropLast
    else some (location ++ [name])
  else none

/-- Where a path begins. -/
def start (here : Location) (path : String) : Location := if Path.isAbsolute path then [] else here

/-- The place that a path leads to from `here`; there may be nothing at it yet. The empty path
leads nowhere. -/
def locate? (tree : FileTree) (here : Location) (path : String) : Option Location :=
  if path = "" then none else (Path.names path).foldlM tree.step? (start here path)

/-- The entry that a path leads to. -/
def entry? (tree : FileTree) (here : Location) (path : String) : Option Entry :=
  (tree.locate? here path).bind tree.get?

/-- The text of the file that a path leads to. -/
def read? (tree : FileTree) (here : Location) (path : String) : Option String :=
  match tree.entry? here path with
  | some (.file text) => some text
  | _ => none

/-- Writes a file, new or over an old one; not over a directory. -/
def write? (tree : FileTree) (here : Location) (path text : String) : Option FileTree := do
  let location ← tree.locate? here path
  if tree.isDirectory location then none else some (tree.put location (.file text))

/-- A new file leaves every directory as it was. -/
theorem isDirectory_put_file {tree : FileTree} {place : Location} (text : String)
    (h : tree.isDirectory place = false) :
    (tree.put place (.file text)).isDirectory = tree.isDirectory := by
  have top : place ≠ [] := by
    rintro rfl
    simp [isDirectory, get?] at h
  funext other
  by_cases same : other = place
  · subst same
    simp [isDirectory, get?_put, top] at h ⊢
    exact h
  · simp [isDirectory, get?_put, top, same]

theorem locate?_congr {tree tree' : FileTree} (h : tree'.isDirectory = tree.isDirectory) :
    tree'.locate? = tree.locate? := by
  have steps : tree'.step? = tree.step? := by
    funext place name
    simp [step?, h]
  funext here path
  simp [locate?, steps]

/-- A file that was written is read back. -/
theorem read?_write? {tree tree' : FileTree} {here : Location} {path text : String}
    (h : tree.write? here path text = some tree') : tree'.read? here path = some text := by
  unfold write? at h
  cases located : tree.locate? here path with
  | none => simp [located] at h
  | some place =>
    cases free : tree.isDirectory place with
    | true => simp [located, free] at h
    | false =>
      simp only [located, free, Option.bind_eq_bind, Option.bind_some] at h
      obtain rfl : tree.put place (.file text) = tree' := by simpa using h
      have top : place ≠ [] := by
        rintro rfl
        simp [isDirectory, get?] at free
      simp [read?, entry?, locate?_congr (isDirectory_put_file text free), located, get?_put, top]

/-- Makes the directories of a list of names that do not exist yet, and tells whether the names
lead through directories to the end. Directories made before a failure stay. -/
def makeAlong (tree : FileTree) (location : Location) : List String → FileTree × Bool
  | [] => (tree, tree.isDirectory location)
  | name :: names =>
    match tree.step? location name with
    | none => (tree, false)
    | some next =>
      match tree.get? next with
      | some _ => tree.makeAlong next names
      | none => (tree.put next .directory).makeAlong next names

/-- Makes the directory of a path, and all that lead to it. -/
def makeDirectories (tree : FileTree) (here : Location) (path : String) : FileTree × Bool :=
  tree.makeAlong (start here path) (Path.names path)

/-- The files of a tree. -/
def files (tree : FileTree) : List (Location × String) :=
  tree.entries.filterMap fun (location, entry) =>
    match entry with
    | .file text => some (location, text)
    | .directory => none

/-- The files that are new, or different from those of an earlier tree. -/
def changedSince (tree earlier : FileTree) : List (Location × String) :=
  tree.files.filter fun (location, text) => decide (earlier.get? location ≠ some (.file text))

end FileTree

end Triage
