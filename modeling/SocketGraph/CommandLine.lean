import SocketGraph.CommandLine.Invocation
import SocketGraph.CommandLine.Assignment
import SocketGraph.Component.Exposed
import SocketGraph.Component.Gateway
import SocketGraph.Configuration
import SocketGraph.Json.Printer

/-! The command line: it loads tables, carries out one command and prints what came of it. -/
namespace SocketGraph.CommandLine

def usage : String :=
  "Usage: sceneflow [--config engine.yaml] <tables.\x7byaml,json,toml\x7d> <command> " ++
    "[node.socket=value ...]\n" ++
    "\n" ++
    "Commands:\n" ++
    "  request <node> <socket>                         pull the value of an exposed socket\n" ++
    "  update <node>                                   evaluate a node, print what it exposed\n" ++
    "  trigger <socket> (--node <id> | --component <name>)   fire a signal\n" ++
    "\n" ++
    "Example: sceneflow scene.yaml request out input in.output=42"

/-- The types whose entry and exit nodes are at hand. -/
def basicTypes : List String := ["Any", "Number", "String", signalType]

/-- The components that scenes can use. -/
def registry : Registry :=
  .ofComponents (Gateway.component :: (exposedPackage basicTypes).map NodeComponent.component)

/-- Why a command is not carried out. -/
inductive RunFailure
  | config (path : String) (failure : ConfigFailure)
  | assignment (failure : AssignmentFailure)
  | tables (path : String) (failure : LoadFailure)
  | engine (failure : Failure)

/-- What was being done, what went wrong, and the causes behind it. -/
def RunFailure.chain : RunFailure → List String
  | .config path failure => ("loading " ++ path) :: failure.text :: failure.causes
  | .assignment failure => [failure.text]
  | .tables path failure => ("opening " ++ path) :: failure.text :: failure.causes
  | .engine failure => failure.text :: failure.causes

def RunFailure.text (f : RunFailure) : String := String.intercalate ": " f.chain

/-! Reports. -/

def lines (ls : List String) : String := String.join (ls.map (· ++ "\n"))

def requestReport (node socket : String) : Option Value → String
  | some v => lines [node ++ "." ++ socket ++ " = " ++ Json.compact v]
  | none => lines [node ++ "." ++ socket ++ " has no value"]

def updateReport (exposed : Table Value) : String := lines [Json.pretty 0 (.ofTable exposed)]

def signalLine (l : Link) : String := "  • " ++ l.node ++ "." ++ l.socket

def valueLine (node socket : String) (v : Value) : String :=
  "  • " ++ node ++ "." ++ socket ++ " = " ++ Json.compact v

def valueLines (values : Table (Table Value)) : List String :=
  values.entries.flatMap fun n => n.2.entries.map fun v => valueLine n.1 v.1 v.2

def failureLines : List Failure → List String
  | [] => []
  | failures =>
    ("⚠️  " ++ toString failures.length ++ " signal handler(s) failed:") ::
      failures.map fun f => "  • " ++ f.text

def triggerReport (r : TriggerResult) : String :=
  lines ("📡 Exposed signals:" :: r.signals.map signalLine ++ "📦 Exposed values:" ::
    valueLines r.values ++ failureLines r.failures)

/-! Runs. -/

variable {ω : Type} (watch : Watcher ω)

/-- Carry out a command with an active engine, and report. -/
def Command.perform (provider : Option Provider) : Command → Host ω (Outcome String)
  | .request node socket =>
    return (← Host.requestValue watch node socket provider).map (requestReport node socket)
  | .update node => return (← Host.updateNode watch node provider).map updateReport
  | .trigger socket source =>
    return (← Host.triggerSignal watch socket (some source) provider).map triggerReport

/-- Bind and load the tables of a source, carry out a command, and report. -/
def Command.performOn (files : Files) (source : DataSource) (provider : Option Provider)
    (command : Command) : ExceptT Failure (Host ω) String := do
  ExceptT.mk (Host.bind source)
  ExceptT.mk (Host.activate watch files)
  ExceptT.mk (command.perform watch provider)

/-- Carry out a command from start to end. What was reported stands even if the end fails. -/
def Command.run (files : Files) (source : DataSource) (provider : Option Provider)
    (command : Command) : Host ω (String × Outcome Unit) := do
  match ← (command.performOn watch files source provider).run with
  | .error failure => pure ("", .error failure)
  | .ok report =>
    let outcome ← Host.terminate watch
    pure (report, outcome)

/-- What is needed for a command: limits, a provider of the assigned values, and a file of tables.
-/
structure Setting where
  limits : Limits
  provider : Option Provider
  tables : DataFile

/-- The limits of an invocation. -/
def Invocation.limits (files : Files) (i : Invocation) : StateM ω (Except RunFailure Limits) :=
  match i.config with
  | none => pure (.ok .standard)
  | some path => return (← Limits.loadValid watch files path).mapError (.config path)

/-- A provider of the values, if there are any. -/
def provider? (m : ValueMap) : Option Provider := if m.isEmpty then none else some m.provider

def Invocation.setting (files : Files) (i : Invocation) :
    ExceptT RunFailure (StateM ω) Setting := do
  let limits ← ExceptT.mk (i.limits watch files)
  let values ← ExceptT.mk (pure ((parseAssignments i.assignments).mapError .assignment))
  let tables ← ExceptT.mk (pure ((DataFile.ofPath files i.tables).mapError (.tables i.tables)))
  pure ⟨limits, provider? values, tables⟩

/-- Carry out an invocation, and report. -/
def Invocation.run (files : Files) (i : Invocation) :
    StateM ω (String × Except RunFailure Unit) := do
  match ← (i.setting watch files).run with
  | .error failure => pure ("", .error failure)
  | .ok setting =>
    let session : Session ω := ⟨.new registry setting.limits, .empty, ← get⟩
    let ((report, outcome), session) :=
      (i.command.run watch files (.file setting.tables) setting.provider).run session
    set session.seen
    pure (report, outcome.mapError .engine)

/-- What the program leaves behind: its exit code and what it printed. -/
structure Printed where
  code : Nat
  output : String
  errors : String
  deriving DecidableEq

/-- Run the program on some arguments. -/
def run (files : Files) (args : List String) : StateM ω Printed := do
  match Invocation.parse args with
  | .error failure => pure ⟨2, "", "❌ " ++ failure.text ++ "\n\n" ++ usage ++ "\n"⟩
  | .ok i =>
    match ← i.run watch files with
    | (report, .ok ()) => pure ⟨0, report, ""⟩
    | (report, .error failure) => pure ⟨1, report, "❌ " ++ failure.text ++ "\n"⟩

end SocketGraph.CommandLine
