import SocketGraph.Failure

/-! The files that a program can see. -/
namespace SocketGraph

/-- What a program finds at each path: the text of a file, or nothing for a file that is not text,
or why there is no file to be read. -/
structure Files where
  find : String → Except FileFailure (Option String)

namespace Files

def isFile (f : Files) (path : String) : Bool :=
  match f.find path with
  | .ok _ => true
  | .error _ => false

/-- The text of the file at a path. -/
def read (f : Files) (path : String) : Except FileFailure String :=
  match f.find path with
  | .error failure => .error failure
  | .ok none => .error .invalidText
  | .ok (some text) => .ok text

/-- No files at all. -/
def none : Files := ⟨fun _ => .error .notFound⟩

end Files
end SocketGraph
