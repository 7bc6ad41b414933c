/-
# Triage.Toml.Basic -- TOML tables and how they grow

A document is a table that its lines fill one after another. A table remembers how it came about,
because that decides what may still be added: a header may open a table once, a dotted key may
extend only tables that dotted keys made, and an inline table is complete where it ends. Main
definitions: `assign`, for a key with a value, and `openTable` and `openItem`, for the two kinds of
header.
-/

namespace Triage.Toml

set_option autoImplicit false

/-- How a table came about. -/
inductive Origin where
  /-- Its own header opened it, or it is an item of an array of tables, or the document. -/
  | header
  /-- The header of a table inside it made it. -/
  | path
  /-- A dotted key made it. -/
  | dotted
deriving DecidableEq

inductive Value where
  | text (text : String)
  | bool (value : Bool)
  /-- A whole number by its sign and its size. -/
  | integer (isNegative : Bool) (size : Nat)
  /-- A number with a fraction or an exponent; `isFinite` says that it is near a finite double, or
  written as a special one. -/
  | float (isFinite : Bool)
  /-- A date, a time of day, or both. -/
  | moment
  | array (items : List Value)
  | inline (entries : List (String × Value))
  | table (origin : Origin) (entries : List (String × Value))
  /-- The tables of an array that headers made, the last one first. -/
  | tables (items : List (List (String × Value)))

mutual

/-- Whether every number in a value is within range: a whole number takes 128 bits, with or without
a sign, and any other is near a finite double. -/
def Value.inRange : Value → Bool
  | .text _ | .bool _ | .moment => true
  | .integer true size => decide (size ≤ Nat.pow 2 127)
  | .integer false size => decide (size < Nat.pow 2 128)
  | .float isFinite => isFinite
  | .array items => allInRange items
  | .inline entries => entriesInRange entries
  | .table _ entries => entriesInRange entries
  | .tables items => tablesInRange items

def allInRange : List Value → Bool
  | [] => true
  | value :: rest => value.inRange && allInRange rest

def entriesInRange : List (String × Value) → Bool
  | [] => true
  | (_, value) :: rest => value.inRange && entriesInRange rest

def tablesInRange : List (List (String × Value)) → Bool
  | [] => true
  | entries :: rest => entriesInRange entries && tablesInRange rest

end

/-- Whether a value is a container that holds nothing. -/
def Value.isHollow : Value → Bool
  | .array items => items.isEmpty
  | .inline entries => entries.isEmpty
  | .table _ entries => entries.isEmpty
  | _ => false

/-- The entries of a table, in the order in which they were made. -/
abbrev Entries := List (String × Value)

/-- A table with its origin. -/
structure Table where
  origin : Origin
  entries : Entries

namespace Entries

/-- The entries with the value of a key, new or replaced. -/
def put (entries : Entries) (key : String) (value : Value) : Entries :=
  match entries with
  | [] => [(key, value)]
  | (k, v) :: rest => if k = key then (key, value) :: rest else (k, v) :: put rest key value

end Entries

namespace Table

/-- Changes the table at the end of a path. Tables missing on the way are made, with the origin
`made`; an array of tables leads to its last item. A dotted path does not lead into a table that
has a header. -/
def descend (made : Origin) (change : Table → Option Table) : List String → Table → Option Table
  | [], table => change table
  | key :: path, table => do
    let child ← match table.entries.lookup key with
      | none => (descend made change path ⟨made, []⟩).map fun t => Value.table t.origin t.entries
      | some (.table origin entries) =>
        if made = .dotted ∧ origin = .header then none
        else (descend made change path ⟨origin, entries⟩).map fun t => .table t.origin t.entries
      | some (.tables (last :: earlier)) =>
        (descend made change path ⟨.header, last⟩).map fun t => .tables (t.entries :: earlier)
      | some _ => none
    return { table with entries := table.entries.put key child }

/-- Gives a key its value. The key must be new, and the path to it leads through tables that dotted
keys made. -/
def assign (path : List String) (key : String) (value : Value) (table : Table) : Option Table :=
  descend .dotted (fun inner =>
    if decide (inner.origin = .dotted) = path.isEmpty then none
    else match inner.entries.lookup key with
      | some _ => none
      | none => some { inner with entries := inner.entries ++ [(key, value)] }) path table

/-- Opens the table of a header, which has no header yet. -/
def openTable (path : List String) (key : String) (table : Table) : Option Table :=
  descend .path (fun parent =>
    match parent.entries.lookup key with
    | none => some { parent with entries := parent.entries ++ [(key, .table .header [])] }
    | some (.table .path entries) =>
      some { parent with entries := parent.entries.put key (.table .header entries) }
    | some _ => none) path table

/-- Opens one more item of an array of tables. -/
def openItem (path : List String) (key : String) (table : Table) : Option Table :=
  descend .path (fun parent =>
    match parent.entries.lookup key with
    | none => some { parent with entries := parent.entries ++ [(key, .tables [[]])] }
    | some (.tables items) =>
      some { parent with entries := parent.entries.put key (.tables ([] :: items)) }
    | some _ => none) path table

end Table

/-- A line of a document that says something. -/
inductive Statement where
  | assign (path : List String) (key : String) (value : Value)
  | openTable (path : List String) (key : String)
  | openItem (path : List String) (key : String)

/-- The root of a document, and the path to the table that is open. -/
structure Document where
  root : Table := ⟨.header, []⟩
  current : List String := []

/-- Adds a statement to a document; keys go into the table that was opened last. -/
def Document.add (document : Document) : Statement → Option Document
  | .assign path key value => do
    let root ← document.root.descend .path (Table.assign path key value) document.current
    return { document with root }
  | .openTable path key => do return ⟨← document.root.openTable path key, path ++ [key]⟩
  | .openItem path key => do return ⟨← document.root.openItem path key, path ++ [key]⟩

end Triage.Toml
