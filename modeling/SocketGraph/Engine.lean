import SocketGraph.DataSource
import SocketGraph.Propagation

/-! The engine: it is bound to a source of tables, activated, asked for values and signals any
number of times, and terminated. -/
namespace SocketGraph

/-- An engine. While it is active it has tables and a state. -/
structure Engine where
  registry : Registry
  limits : Limits
  source : Option DataSource
  active : Option (Tables × EngineState)

namespace Engine

def new (registry : Registry) (limits : Limits) : Engine := ⟨registry, limits, none, none⟩

def isActive (e : Engine) : Bool := e.active.isSome

/-- The number of open frames. -/
def openFrames (e : Engine) : Nat := e.active.elim 0 fun a => a.2.stack.height

/-- What stays the same while the engine is active with some tables. -/
def scene (e : Engine) (tables : Tables) : Scene := ⟨tables, e.registry, e.limits⟩

/-- The engine as descriptions show it. -/
def description (e : Engine) : String :=
  let bool (b : Bool) : String := if b then "true" else "false"
  "Engine \x7b registry: " ++ e.registry.description ++
    ", config: EngineConfig \x7b limits: Limits \x7b max_recursion_depth: " ++
    toString e.limits.recursionDepth ++ ", max_signal_levels: " ++ toString e.limits.signalLevels ++
    " \x7d \x7d, has_data: " ++ bool e.source.isSome ++ ", active: " ++ bool e.isActive ++
    ", open_frames: " ++ toString e.openFrames ++ " \x7d"

end Engine

/-- An engine at work, with the counters of the programs and what was seen. -/
structure Session (ω : Type) where
  engine : Engine
  counters : Table Nat
  seen : ω

/-- What a host does with an engine. -/
abbrev Host (ω α : Type) := StateM (Session ω) α

namespace Host
variable {ω α : Type} (watch : Watcher ω)

def log (m : Message) : Host ω Unit :=
  modify fun s => { s with seen := watch.event (.logged m) s.seen }

def setEngine (e : Engine) : Host ω Unit := modify fun s => { s with engine := e }

/-- Run something that only reports events. -/
def report (body : StateM ω α) : Host ω α := fun s =>
  let (result, seen) := body s.seen
  (result, { s with seen := seen })

/-- Bind a source of tables to an engine that is not active. -/
def bind (source : DataSource) : Host ω (Outcome Unit) := do
  let s ← get
  if s.engine.isActive then pure (.error .alreadyActive)
  else
    setEngine { s.engine with source := some source }
    pure (.ok ())

/-- Load the tables of a source. -/
def loadTables (files : Files) (source : DataSource) : Host ω (Outcome Tables) := do
  match ← report (source.load watch files) with
  | .error failure => pure (.error (.load failure))
  | .ok p =>
    match p.tables with
    | .error name => pure (.error (.missingTable name))
    | .ok tables => pure (.ok tables)

/-- Report every component that nodes use and the registry lacks. -/
def reportMissing (registry : Registry) : List String → Host ω Unit
  | [] => pure ()
  | name :: rest => do
    unless registry.contains name do log watch (.componentMissing name)
    reportMissing registry rest

/-- Load the bound source and start with a fresh state. -/
def activate (files : Files) : Host ω (Outcome Unit) := do
  let s ← get
  if s.engine.isActive then pure (.error .alreadyActive)
  else
    match s.engine.source with
    | none => pure (.error .nothingBound)
    | some source =>
      match ← loadTables watch files source with
      | .error failure => pure (.error failure)
      | .ok tables =>
        reportMissing watch s.engine.registry tables.executable.componentNames
        log watch (.activated source.origin tables.executable.nodes.size s.engine.registry.size)
        setEngine { s.engine with active := some (tables, .fresh) }
        pure (.ok ())

/-- Drop the state. Frames that are still open are reported as a failure. -/
def terminate : Host ω (Outcome Unit) := do
  let s ← get
  if s.engine.isActive then
    let frames := s.engine.openFrames
    setEngine { s.engine with active := none }
    log watch (.terminated frames)
    pure (if 0 < frames then .error (.openFrames frames) else .ok ())
  else pure (.ok ())

/-- Run an action on the tables and the state of an active engine. -/
def onState (tables : Tables) (st : EngineState) (body : Action ω α) : Host ω α := fun s =>
  let (result, run) := body ⟨st, s.counters, s.seen⟩
  (result, ⟨{ s.engine with active := some (tables, run.state) }, run.counters, run.seen⟩)

/-- Change the state of an active engine; an inactive one only reports the operation. -/
def changeState (operation : String) (change : EngineState → EngineState) : Host ω Unit := do
  let s ← get
  match s.engine.active with
  | none => log watch (.inactive operation)
  | some (tables, st) => onState tables st (Action.changeState watch change)

/-- Open a frame that the following calls share. -/
def beginCycle : Host ω Unit := changeState watch "begin_render_cycle" EngineState.openFrame

/-- Close the innermost open frame. -/
def endCycle : Host ω Unit := changeState watch "end_render_cycle" EngineState.closeFrame

/-- Run an action on the state of an active engine. -/
def whileActive (operation : String) (body : Scene → Action ω (Outcome α)) :
    Host ω (Outcome α) := do
  let s ← get
  match s.engine.active with
  | none =>
    log watch (.inactive operation)
    pure (.error (.notActive operation))
  | some (tables, st) => onState tables st (body (s.engine.scene tables))

end Host

section
variable {ω α : Type} (scene : Scene) (watch : Watcher ω)

/-- Report a failed request. -/
def reportFailure (node : NodeId) (socket : String) (outcome : Outcome α) :
    Action ω (Outcome α) := do
  match outcome with
  | .error failure =>
    Action.log watch (.requestFailed node socket failure.text)
    pure (.error failure)
  | .ok a => pure (.ok a)

/-- The value of a socket in a call of its own: what the node exposes there, or else its output. -/
def Scene.requestValue (node : NodeId) (socket : String) (provider : Option Provider) :
    Action ω (Outcome (Option Value)) := do
  match scene.tables.exposed.socket? node socket with
  | none =>
    Action.log watch (.notExposed node socket)
    pure (.error (.notExposed node socket))
  | some _ =>
    Action.log watch (.requested node socket)
    let outcome ← Action.callScope watch provider fun frame => do
      match ← (scene.hostCalls watch).evaluate frame node (some socket) with
      | .error failure => pure (.error failure)
      | .ok exposed =>
        let output ← Action.readStack (·.output? frame ⟨node, socket⟩)
        pure (.ok ((exposed.get? socket).or output))
    reportFailure watch node socket outcome

/-- Evaluate a node in a call of its own and give what it exposes. -/
def Scene.updateNode (node : NodeId) (provider : Option Provider) :
    Action ω (Outcome (Table Value)) := do
  let outcome ← Action.callScope watch provider fun frame =>
    (scene.hostCalls watch).evaluate frame node none
  reportFailure watch node "*" outcome

/-- Where a signal starts: at one node, or at the signal sources of a component. -/
inductive SignalSource
  | node (node : NodeId)
  | component (component : String)
  deriving DecidableEq

/-- The nodes that a signal on a socket starts from. -/
def Scene.sources (socket : String) : SignalSource → List NodeId
  | .node node => [node]
  | .component component => scene.tables.exposed.triggerNodes component socket

/-- Send a signal out of a socket. Without a source nothing happens. -/
def Scene.triggerSignal (socket : String) (source : Option SignalSource)
    (provider : Option Provider) : Action ω TriggerResult := do
  match source with
  | none =>
    Action.log watch (.sourceMissing socket)
    pure .empty
  | some source =>
    let nodes := scene.sources socket source
    Action.log watch (.triggered socket nodes.length)
    (scene.hostCalls watch).propagate socket nodes provider

end

namespace Host
variable {ω : Type} (watch : Watcher ω)

/-- Ask an active engine for the value of an exposed socket. -/
def requestValue (node : NodeId) (socket : String) (provider : Option Provider) :
    Host ω (Outcome (Option Value)) :=
  whileActive watch "request a value" fun scene => scene.requestValue watch node socket provider

/-- Evaluate a node of an active engine. -/
def updateNode (node : NodeId) (provider : Option Provider) : Host ω (Outcome (Table Value)) :=
  whileActive watch "update a node" fun scene => scene.updateNode watch node provider

/-- Send a signal through an active engine. Failures on the way are part of the result. -/
def triggerSignal (socket : String) (source : Option SignalSource) (provider : Option Provider) :
    Host ω (Outcome TriggerResult) :=
  whileActive watch "trigger a signal" fun scene => do
    let result ← scene.triggerSignal watch socket source provider
    pure (.ok result)

end Host
end SocketGraph
