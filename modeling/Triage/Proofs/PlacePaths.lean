/-
# Triage.Proofs.PlacePaths -- the path of a place leads to it

The absolute path of a place has a slash in front of every name (`toList_path`), so that cutting it
at the slashes gives the names back, if none of them holds a slash (`names_path`).  Followed from
the top, each name goes on to the next directory.  This takes names that mean themselves
(`IsPlain`) and a tree in which whatever is somewhere is in a directory (`IsRooted`).
Main statement: `read?_path`, what is read from the path of a place is the file there.
-/
import Mathlib.Data.List.Induction
import Triage.Files.Tree

namespace Triage

set_option autoImplicit false

namespace Path

theorem split_slash (rest : List Char) : split ('/' :: rest) = [] :: split rest := if_pos rfl

theorem split_ne_nil (chars : List Char) : split chars ≠ [] := by
  cases chars with
  | nil => exact List.cons_ne_nil _ _
  | cons c rest =>
      rw [split]
      split
      · exact List.cons_ne_nil _ _
      · split <;> exact List.cons_ne_nil _ _

/-- A text is cut at every slash in it. -/
theorem split_append (front rest : List Char) :
    split (front ++ '/' :: rest) = split front ++ split rest := by
  induction front with
  | nil => exact split_slash rest
  | cons c front ih =>
      obtain ⟨first, others, cut⟩ := List.exists_cons_of_ne_nil (split_ne_nil front)
      rw [List.cons_append, split, ih, split, cut]
      by_cases slash : c = '/' <;> simp [slash]

theorem split_of_no_slash {name : List Char} (absent : '/' ∉ name) : split name = [name] := by
  induction name with
  | nil => rfl
  | cons c name ih =>
      have parts : '/' ≠ c ∧ '/' ∉ name := by simpa using absent
      rw [split, if_neg (Ne.symm parts.1), ih parts.2]

end Path

namespace Location

variable {location above : Location} {name : String}

/-- Every name stands for itself: it is one name of a path, and neither stays nor goes up. -/
def IsPlain (location : Location) : Prop :=
  ∀ name ∈ location, '/' ∉ name.toList ∧ name ≠ "" ∧ name ≠ "." ∧ name ≠ ".."

instance (location : Location) : Decidable location.IsPlain :=
  inferInstanceAs (Decidable (∀ name ∈ location, _))

/-- Below the top, there is a slash in front of every name. -/
theorem toList_path (below : location ≠ []) :
    location.path.toList = location.flatMap fun name => '/' :: name.toList := by
  have slash : "/".toList = ['/'] := rfl
  rw [path, String.toList_append, String.toList_intercalate, slash]
  induction location with
  | nil => exact absurd rfl below
  | cons name rest ih =>
      cases rest with
      | nil => simp
      | cons next others =>
          have behind := ih (List.cons_ne_nil next others)
          rw [List.map_cons, List.intercalate_cons_of_ne_nil (by simp), List.flatMap_cons,
            ← behind]
          simp

theorem path_concat (location : Location) (below : location ≠ []) (name : String) :
    (location ++ [name]).path = location.path ++ "/" ++ name := by
  apply String.toList_inj.mp
  rw [toList_path (by simp), String.toList_append, String.toList_append, toList_path below]
  simp

/-- A relative path seen from a place stands behind a slash. -/
theorem join_path {c : Char} (last : name.toList.getLast? = some c) (solid : c ≠ '/')
    {path : String} (relative : Path.isAbsolute path = false) :
    Path.join (above ++ [name]).path path = (above ++ [name]).path ++ "/" ++ path := by
  have whole : (above ++ [name]).path.toList =
      (above.flatMap fun name => '/' :: name.toList) ++ '/' :: name.toList := by
    rw [toList_path (by simp), List.flatMap_append, List.flatMap_singleton]
  have some_ : (above ++ [name]).path.isEmpty = false := by
    rw [Bool.eq_false_iff, Ne, String.isEmpty_iff]
    intro empty
    rw [empty] at whole
    simp at whole
  have ends : (above ++ [name]).path.toList.getLast? ≠ some '/' := by
    rw [whole, List.getLast?_append, List.getLast?_cons, last]
    simpa using solid
  rw [Path.join, relative, some_, decide_eq_false ends]
  rfl

/-- The names of the path of a place are those of the place, behind an empty one for the top. -/
theorem names_path (below : location ≠ []) (plain : ∀ name ∈ location, '/' ∉ name.toList) :
    Path.names location.path = "" :: location := by
  have cut : Path.split (location.flatMap fun name => '/' :: name.toList) =
      [] :: location.map String.toList := by
    induction location with
    | nil => exact absurd rfl below
    | cons name rest ih =>
        obtain ⟨absent, others⟩ := List.forall_mem_cons.mp plain
        cases rest with
        | nil => simp [Path.split_slash, Path.split_of_no_slash absent]
        | cons next more =>
            have behind := ih (List.cons_ne_nil next more) others
            rw [List.flatMap_cons, List.cons_append, Path.split_slash] at behind ⊢
            rw [List.flatMap_cons, List.cons_append, Path.split_append,
              Path.split_of_no_slash absent, (List.cons.inj behind).2, List.map_cons]
            rfl
  rw [Path.names, toList_path below, cut]
  simp [Function.comp_def]

end Location

namespace FileTree

variable {tree : FileTree} {place : Location} {name : String}

/-- Whatever is somewhere is in a directory. -/
def IsRooted (tree : FileTree) : Prop :=
  ∀ place name, (tree.get? (place ++ [name])).isSome → tree.isDirectory place = true

theorem isDirectory_of_get? {entry : Entry} (rooted : tree.IsRooted)
    (held : tree.get? (place ++ [name]) = some entry) : tree.isDirectory place = true :=
  rooted place name (by rw [held]; rfl)

/-- It is enough that the entries of the tree are in directories. -/
theorem isRooted_of_entries
    (inside : ∀ old ∈ tree.entries, tree.isDirectory old.1.dropLast = true) : tree.IsRooted := by
  intro place name held
  rw [get?, if_neg (by simp)] at held
  obtain ⟨entry, found⟩ := Option.isSome_iff_exists.mp held
  obtain ⟨before, after, same, -⟩ := List.lookup_eq_some_iff.mp found
  have around := inside (place ++ [name], entry) (by rw [same]; simp)
  rwa [List.dropLast_concat] at around

/-- A plain name leads from a directory to the entry of this name. -/
theorem step?_plain (inside : tree.isDirectory place = true) (solid : name ≠ "")
    (other : name ≠ ".") (other' : name ≠ "..") :
    tree.step? place name = some (place ++ [name]) := by
  rw [step?, if_pos inside, if_neg (by simp [solid, other]), if_neg other']

/-- The names of a directory lead from the top to it. -/
theorem foldlM_step? (rooted : tree.IsRooted) (inside : tree.isDirectory place = true)
    (plain : place.IsPlain) : place.foldlM tree.step? [] = some place := by
  induction place using List.reverseRecOn with
  | nil => rfl
  | append_singleton above name ih =>
      obtain ⟨others, last⟩ := List.forall_mem_append.mp plain
      obtain ⟨-, solid, other, other'⟩ := List.forall_mem_singleton.mp last
      have around := isDirectory_of_get? rooted (of_decide_eq_true inside)
      rw [List.foldlM_append, ih around others]
      simp [step?_plain around solid other other']

/-- The path of a place in a directory leads there, whether there is something or not. -/
theorem locate?_path (rooted : tree.IsRooted) (inside : tree.isDirectory place = true)
    (plain : (place ++ [name]).IsPlain) :
    tree.locate? [] (place ++ [name]).path = some (place ++ [name]) := by
  obtain ⟨others, last⟩ := List.forall_mem_append.mp plain
  obtain ⟨-, solid, other, other'⟩ := List.forall_mem_singleton.mp last
  have whole := Location.toList_path (List.concat_ne_nil name place)
  have below : (place ++ [name]).path ≠ "" := by
    intro empty
    rw [empty] at whole
    simp at whole
  have top : start [] (place ++ [name]).path = [] := ite_self _
  have stays : tree.step? [] "" = some [] := rfl
  rw [locate?, if_neg below, top, Location.names_path (by simp) fun name member =>
    (plain name member).1, List.foldlM_cons, stays]
  rw [Option.bind_eq_bind, Option.bind_some, List.foldlM_append,
    foldlM_step? rooted inside others]
  simp [step?_plain inside solid other other']

/-- What is read from the path of a place is the file there. -/
theorem read?_path (rooted : tree.IsRooted) (plain : (place ++ [name]).IsPlain) {text : String}
    (inside : tree.isDirectory place = true) :
    tree.read? [] (place ++ [name]).path = some text ↔
      tree.get? (place ++ [name]) = some (.file text) := by
  rw [read?, entry?, locate?_path rooted inside plain, Option.bind_some]
  split
  · next found => simp [found]
  · next absent =>
      simp only [reduceCtorEq, false_iff]
      exact fun found => absent text found

end FileTree

end Triage
