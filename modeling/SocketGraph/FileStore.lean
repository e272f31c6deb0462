import SocketGraph.Files
import SocketGraph.Path

/-! Files kept in memory, by path from a working directory. A path is followed part by part, so one
that goes up must first have gone down through a directory. -/
namespace SocketGraph

/-- What stands at a path: a file, with its text if its bytes are one, or a directory. -/
inductive FileEntry
  | file (text : Option String)
  | directory
  deriving DecidableEq

/-- Files and directories by normal path below the working directory. -/
structure FileStore where
  entries : Table FileEntry

/-- A directory: one in the store, by its names from the working directory, or one above it, of
which nothing is known. -/
inductive Place
  | inside (names : List String)
  | above
  deriving DecidableEq

/-- The directory above. -/
def Place.parent : Place → Place
  | .inside [] => .above
  | .inside names => .inside names.dropLast
  | .above => .above

namespace FileStore

def empty : FileStore := ⟨.empty⟩

/-- The entry at a normal path. -/
def entry? (s : FileStore) (names : List String) : Option FileEntry :=
  s.entries.get? (Path.join names)

/-- Put an entry at a normal path, unless a directory would make room for a file or a file for a
directory. -/
def put (s : FileStore) (names : List String) (entry : FileEntry) : FileStore :=
  match s.entry? names, entry with
  | some .directory, _ => s
  | some (.file _), .directory => s
  | _, entry => ⟨s.entries.insert (Path.join names) entry⟩

/-- Follow some parts of a path from a directory and make the directories that are missing. -/
def enter (s : FileStore) : Place → List String → Option (FileStore × Place)
  | here, [] => some (s, here)
  | here, part :: rest =>
    if part = "" || part = "." then enter s here rest
    else if part = ".." then enter s here.parent rest
    else
      match here with
      | .above => none
      | .inside names =>
        match s.entry? (names ++ [part]) with
        | some (.file _) => none
        | some .directory => enter s (.inside (names ++ [part])) rest
        | none =>
          if Path.isTooLong part then none
          else enter (s.put (names ++ [part]) .directory) (.inside (names ++ [part])) rest

/-- Write an entry at a path and make the directories on the way to it. A path that cannot be
written to changes nothing else. -/
def write (s : FileStore) (path : String) (entry : FileEntry) : FileStore :=
  let parts := Path.split path
  match entry with
  | .directory => ((s.enter (.inside []) parts).map Prod.fst).getD s
  | .file text =>
    let name := parts.getLastD ""
    match s.enter (.inside []) parts.dropLast with
    | some (s, .inside names) =>
      if name ∈ ["", ".", ".."] || Path.isTooLong name then s
      else s.put (names ++ [name]) (.file text)
    | some (s, .above) => s
    | none => s

/-- Follow the parts of a path from a directory: the place and the name of a file with its text, or
why there is none. -/
def follow (s : FileStore) :
    Place → List String → Except FileFailure (List String × Option String)
  | _, [] => .error .isDirectory
  | here, part :: rest =>
    if part = "" || part = "." then follow s here rest
    else if part = ".." then follow s here.parent rest
    else if Path.isTooLong part then .error .nameTooLong
    else
      match here with
      | .above => .error .notFound
      | .inside names =>
        match s.entry? (names ++ [part]) with
        | none => .error .notFound
        | some .directory => follow s (.inside (names ++ [part])) rest
        | some (.file text) =>
          if rest = [] then .ok (names ++ [part], text) else .error .notDirectory

/-- The file at a path, by its normal path and its text. A path from the root starts above the
working directory. -/
def locate (s : FileStore) (path : String) : Except FileFailure (List String × Option String) :=
  if path = "" then .error .notFound
  else if Path.exceedsLimit path then .error .nameTooLong
  else
    match Path.split path with
    | "" :: parts => s.follow .above parts
    | parts => s.follow (.inside []) parts

/-- Remove the file at a path. Its directories stay. -/
def delete (s : FileStore) (path : String) : FileStore :=
  match s.locate path with
  | .ok (names, _) =>
    ⟨⟨s.entries.entries.filter fun e => e.1 ≠ Path.join names, s.entries.ascending.filter _⟩⟩
  | .error _ => s

/-- The files of the store as a program sees them. -/
def files (s : FileStore) : Files := ⟨fun path => (s.locate path).map Prod.snd⟩

end FileStore
end SocketGraph
