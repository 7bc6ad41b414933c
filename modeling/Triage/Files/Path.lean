/-
# Triage.Files.Path -- paths and places

A path is a text as it was given; a place is the names that lead to a file or directory from the
top. Paths are joined as texts, so that they are shown as they were given, and are followed name
by name. Main statement: `join_of_isAbsolute`, an absolute path stays as it is.
-/

namespace Triage

set_option autoImplicit false

/-- The names from the top to a file or directory. -/
abbrev Location := List String

namespace Path

def isAbsolute (path : String) : Bool := decide (path.toList.head? = some '/')

/-- A path seen from another: the path itself if it is absolute. -/
def join (base path : String) : String :=
  if isAbsolute path then path
  else if base.isEmpty || decide (base.toList.getLast? = some '/') then base ++ path
  else base ++ "/" ++ path

theorem join_of_isAbsolute {path : String} (h : isAbsolute path = true) (base : String) :
    join base path = path := by
  simp [join, h]

/-- The texts between the slashes of a path. -/
def split : List Char → List (List Char)
  | [] => [[]]
  | c :: rest =>
    if c = '/' then [] :: split rest
    else match split rest with
      | [] => [[c]]
      | name :: names => (c :: name) :: names

/-- The names of a path, one after each slash; some may be empty. -/
def names (path : String) : List String := (split path.toList).map String.ofList

end Path

namespace Location

/-- The absolute path of a place. -/
def path (location : Location) : String := "/" ++ "/".intercalate location

/-- The place itself and all directories above it, nearest first. -/
def ancestors (location : Location) : List Location :=
  (List.range (location.length + 1)).reverse.map fun n => List.take n location

end Location

end Triage
