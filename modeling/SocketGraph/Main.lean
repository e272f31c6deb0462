import SocketGraph.CommandLine

/-! The program: it reads the files that its arguments name, runs on them, prints and exits. -/
namespace SocketGraph.CommandLine

/-- The number of a system error, which may be given as its negative. -/
def errorNumber (code : UInt32) : UInt32 := if code < 0x80000000 then code else 0 - code

/-- Why the system gave no file. -/
def fileFailure : IO.Error → FileFailure
  | .noFileOrDirectory _ _ _ => .notFound
  | .inappropriateType _ code _ => if errorNumber code = 20 then .notDirectory else .isDirectory
  | .invalidArgument _ code _ => if errorNumber code = 36 then .nameTooLong else .refused
  | _ => .refused

/-- What stands at a path now. -/
def findNow (path : String) : IO (Except FileFailure (Option String)) := do
  try
    let bytes ← IO.FS.readBinFile path
    pure (.ok (String.fromUTF8? bytes))
  catch e => pure (.error (fileFailure e))

/-- The files at some paths as they are now. -/
def filesNow (paths : List String) : IO Files := do
  let found ← paths.mapM fun path => do
    let result ← findNow path
    pure (path, result)
  pure ⟨fun path => (Table.lookup path found).getD (.error .notFound)⟩

/-- The files that some arguments name. -/
def argumentPaths (args : List String) : List String :=
  match Invocation.parse args with
  | .ok i => i.paths
  | .error _ => []

end SocketGraph.CommandLine

open SocketGraph CommandLine in
/-- Run on the arguments of the command line. -/
def main (args : List String) : IO UInt32 := do
  let files ← filesNow (argumentPaths args)
  let (printed, _) := CommandLine.run Watcher.silent files args ()
  IO.print printed.output
  IO.eprint printed.errors
  pure (UInt32.ofNat printed.code)
