import SocketGraph.Document

/-! The tree that the assignments and headers of a TOML text build. Every table remembers how it
came about, since that decides what may still be added to it. -/
namespace SocketGraph.Toml

/-- How a table came about: it was defined as a whole, named on the way to another table, or named
on the way to a value. -/
inductive Origin
  | defined
  | implied
  | dotted
  deriving DecidableEq

/-- A value, a table, or a list of tables, of which only the last one may grow. -/
inductive Tree
  | value (d : Document)
  | table (origin : Origin) (entries : List (String × Tree))
  | tables (earlier : List Document) (last : List (String × Tree))

/-- The entries of a table, in ascending key order. -/
abbrev Entries := List (String × Tree)

mutual
def Tree.document : Tree → Document
  | .value d => d
  | .table _ entries => .mapping (entryDocuments entries)
  | .tables earlier last => .sequence (earlier ++ [.mapping (entryDocuments last)])

def entryDocuments : List (String × Tree) → List (String × Document)
  | [] => []
  | (key, t) :: rest => (key, t.document) :: entryDocuments rest
end

/-- Put what `place` makes of it at the end of a path. Tables that are missing on the way are made
with the origin `way`; on the way to a value no table that was defined is entered. `place` is told
whether the table that holds the last key is the one where the path starts or came about on the way
to a value. -/
def placeAt (way : Origin) (place : Bool → Option Tree → Option Tree) :
    List String → Bool → Entries → Option Entries
  | [], _, _ => none
  | [key], owned, entries =>
    (place owned (Table.lookup key entries)).map fun t => Table.insertEntry key t entries
  | key :: path, _, entries => do
    let below ←
      match Table.lookup key entries with
      | none => (placeAt way place path (way == .dotted) []).map (.table way)
      | some (.value _) => none
      | some (.table origin inner) =>
        if way = .dotted ∧ origin = .defined then none
        else (placeAt way place path (origin == .dotted) inner).map (.table origin)
      | some (.tables earlier last) => (placeAt way place path false last).map (.tables earlier)
    pure (Table.insertEntry key below entries)

/-- A value and the keys on the way to it. -/
structure Assignment where
  path : List String
  value : Document

/-- Assign a value that is not there yet. -/
def Assignment.apply (a : Assignment) (entries : Entries) : Option Entries :=
  placeAt .dotted (fun owned found => if owned && found.isNone then some (.value a.value) else none)
    a.path true entries

def assignAll (assignments : List Assignment) (entries : Entries) : Option Entries :=
  assignments.foldlM (fun entries a => a.apply entries) entries

/-- A header with the assignments below it. It opens a table, or appends a table to a list. -/
structure Section where
  appends : Bool
  path : List String
  assignments : List Assignment

/-- Define the table of a section. It may have been named on the way to other tables before. -/
def Section.define (s : Section) : Option Tree → Option Tree
  | none => (assignAll s.assignments []).map (.table .defined)
  | some (.table .implied entries) => (assignAll s.assignments entries).map (.table .defined)
  | some _ => none

/-- Append the table of a section to a list that was made in this way. -/
def Section.append (s : Section) : Option Tree → Option Tree
  | none => (assignAll s.assignments []).map (.tables [])
  | some (.tables earlier last) =>
    (assignAll s.assignments []).map (.tables (earlier ++ [.mapping (entryDocuments last)]))
  | some _ => none

def Section.apply (s : Section) (entries : Entries) : Option Entries :=
  placeAt .implied (fun _ => if s.appends then s.append else s.define) s.path true entries

/-- The document of the assignments before all headers and of the sections. -/
def build (assignments : List Assignment) (sections : List Section) : Option Document := do
  let root ← assignAll assignments []
  let root ← sections.foldlM (fun entries s => s.apply entries) root
  pure (.mapping (entryDocuments root))

example : (build [⟨["a", "b"], .null⟩] [⟨false, ["a"], []⟩]).isNone = true := by decide +kernel
example : (build [] [⟨false, ["a", "b"], []⟩, ⟨false, ["a"], []⟩]).isSome = true := by
  decide +kernel

end SocketGraph.Toml
