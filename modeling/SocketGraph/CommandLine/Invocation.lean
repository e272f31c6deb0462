import SocketGraph.Engine

/-! What the command line asks for, and the arguments that say so. Reading arguments accepts exactly
what writing an invocation produces. -/
namespace SocketGraph.CommandLine

/-- What is done with a scene. -/
inductive Command
  | request (node socket : String)
  | update (node : String)
  | trigger (socket : String) (source : SignalSource)
  deriving DecidableEq

/-- A command on the tables of a file, perhaps with a configuration, and the values assigned for it
as they are written. -/
structure Invocation where
  config : Option String
  tables : String
  command : Command
  assignments : List String
  deriving DecidableEq

/-- The paths of the files that an invocation reads. -/
def Invocation.paths (i : Invocation) : List String := i.config.toList ++ [i.tables]

/-- Why arguments ask for nothing. -/
inductive UsageFailure
  | missing (what : String)
  | missingConfig
  | unknownCommand (word : String)
  | unknownSource (word : String)
  deriving DecidableEq

def UsageFailure.text : UsageFailure → String
  | .missing what => "missing " ++ what
  | .missingConfig => "--config needs a path"
  | .unknownCommand word => "unknown command '" ++ word ++ "'"
  | .unknownSource word => "expected --node or --component, got '" ++ word ++ "'"

abbrev Parsed (α : Type) := Except UsageFailure α

/-- The next argument, of which it is known what it stands for. -/
def next (what : String) : List String → Parsed (String × List String)
  | [] => .error (.missing what)
  | arg :: rest => .ok (arg, rest)

/-- Where a signal starts: a flag and a name. -/
def parseSource (args : List String) : Parsed (SignalSource × List String) := do
  let (flag, rest) ← next "--node or --component" args
  if flag = "--node" then
    let (node, rest) ← next "node id" rest
    pure (.node node, rest)
  else if flag = "--component" then
    let (component, rest) ← next "component name" rest
    pure (.component component, rest)
  else throw (.unknownSource flag)

/-- A command and the arguments after it. -/
def Command.parse (args : List String) : Parsed (Command × List String) := do
  let (word, rest) ← next "command" args
  if word = "request" then
    let (node, rest) ← next "node" rest
    let (socket, rest) ← next "socket" rest
    pure (.request node socket, rest)
  else if word = "update" then
    let (node, rest) ← next "node" rest
    pure (.update node, rest)
  else if word = "trigger" then
    let (socket, rest) ← next "socket" rest
    let (source, rest) ← parseSource rest
    pure (.trigger socket source, rest)
  else throw (.unknownCommand word)

/-- The configuration, if the first argument announces one. -/
def parseConfig : List String → Parsed (Option String × List String)
  | [] => .ok (none, [])
  | arg :: rest =>
    if arg = "--config" then
      match rest with
      | [] => .error .missingConfig
      | path :: rest => .ok (some path, rest)
    else .ok (none, arg :: rest)

/-- The invocation that is the whole of some arguments. -/
def Invocation.parse (args : List String) : Parsed Invocation := do
  let (config, rest) ← parseConfig args
  let (tables, rest) ← next "tables file" rest
  let (command, assignments) ← Command.parse rest
  pure ⟨config, tables, command, assignments⟩

/-! Writing. -/

def sourceArguments : SignalSource → List String
  | .node node => ["--node", node]
  | .component component => ["--component", component]

def Command.arguments : Command → List String
  | .request node socket => ["request", node, socket]
  | .update node => ["update", node]
  | .trigger socket source => "trigger" :: socket :: sourceArguments source

def configArguments : Option String → List String
  | none => []
  | some path => ["--config", path]

/-- The arguments that ask for an invocation. -/
def Invocation.arguments (i : Invocation) : List String :=
  configArguments i.config ++ i.tables :: i.command.arguments ++ i.assignments

end SocketGraph.CommandLine
