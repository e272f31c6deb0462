/-! Paths as texts with slashes between their parts. -/
namespace SocketGraph.Path

/-- The parts of a path between its slashes. -/
def split (path : String) : List String := path.splitOn "/"

/-- The normal path of some parts. -/
def join (parts : List String) : String := String.intercalate "/" parts

/-- The parts that name something. -/
def names (path : String) : List String :=
  (split path).filter fun part => part ≠ "" && part ≠ "."

/-- Whether one part is too long to be the name of a file: more than 255 bytes. -/
def isTooLong (part : String) : Bool := 255 < part.utf8ByteSize

/-- Whether a whole path is too long to be followed: 4096 bytes or more. -/
def exceedsLimit (path : String) : Bool := 4096 ≤ path.utf8ByteSize

/-- What follows the last dot of the last name of a path, if something stands before the dot. -/
def extension? (path : String) : Option String :=
  match ((names path).getLastD "").splitOn "." with
  | [] | [_] => none
  | "" :: [_] => none
  | parts => parts.getLast?

end SocketGraph.Path
