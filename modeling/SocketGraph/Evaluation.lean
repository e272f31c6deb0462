import SocketGraph.Action
import SocketGraph.Scene

/-! Pulling values: how the input of an active node is resolved, how the script of a handler is
performed, and how a node is evaluated. What lies one level of nesting deeper is given as calls. -/
namespace SocketGraph

/-- The calls that handlers make, one nesting deeper: evaluate a node on a frame, perhaps for one of
its outputs, and propagate a signal from some nodes. -/
structure Calls (ω : Type) where
  evaluate : (frame : Nat) → NodeId → (requested : Option String) → Action ω (Outcome (Table Value))
  propagate : (socket : String) → (sources : List NodeId) → Option Provider → Action ω TriggerResult

/-- How the provider of a frame is asked for a socket. -/
abbrev Lookup (ω : Type) := (frame : Nat) → (socket : Link) → Action ω (Outcome (Option Value))

section
variable {ω : Type} (scene : Scene) (watch : Watcher ω) (below : Calls ω)

/-- The value of an output: the one that was pushed, or that its node pushes when it is evaluated,
or the answer of the provider. -/
def resolveProducer (lookup : Lookup ω) (frame : Nat) (producer : Link) :
    Action ω (Outcome (Option Value)) := do
  match ← Action.readStack (·.output? frame producer) with
  | some v => pure (.ok (some v))
  | none =>
    match ← below.evaluate frame producer.node (some producer.socket) with
    | .error failure => pure (.error failure)
    | .ok _ =>
      match ← Action.readStack (·.output? frame producer) with
      | some v => pure (.ok (some v))
      | none => lookup frame producer

/-- The values of several outputs in order, up to the first failure. -/
def resolveProducers (lookup : Lookup ω) (frame : Nat) :
    List Link → Action ω (Outcome (List (Option Value)))
  | [] => pure (.ok [])
  | producer :: rest => do
    match ← resolveProducer below lookup frame producer with
    | .error failure => pure (.error failure)
    | .ok v =>
      match ← resolveProducers lookup frame rest with
      | .error failure => pure (.error failure)
      | .ok vs => pure (.ok (v :: vs))

/-- The value of an input that collects: an array with a place for each producer, unless none of
them has a value. -/
def collect (vs : List (Option Value)) : Option Value :=
  if vs.any Option.isSome then some (.array (vs.map (·.getD .null))) else none

/-- Whether an input collects the values of all its producers. An undeclared one does so when it has
several. -/
def collects (sockets : List Socket) (socket : String) (producers : List Link) : Bool :=
  match Socket.input? sockets socket with
  | some declared => declared.allowsMultiple
  | none => decide (1 < producers.length)

/-- The declaration that decides how a socket without producers is resolved. -/
def declared? (sockets : List Socket) (socket : String) : Option Socket :=
  (Socket.input? sockets socket).or (Socket.output? sockets socket)

/-- What a socket without producers and without a provider has: the attribute of its name, or the
default that was declared. -/
def ownValue? (a : Activation) (socket : String) : Option Value :=
  (a.attributes.get? socket).or ((declared? a.sockets socket).bind Socket.default)

/-- Resolve a socket of an active node: from its producers; an exposed one from the provider, if
there is one; otherwise from the node itself. -/
def resolveInput (lookup : Lookup ω) (frame : Nat) (a : Activation) (socket : String) :
    Action ω (Outcome (Option Value)) := do
  match scene.tables.executable.producers a.node socket with
  | first :: rest =>
    if collects a.sockets socket (first :: rest) then
      match ← resolveProducers below lookup frame (first :: rest) with
      | .error failure => pure (.error failure)
      | .ok vs => pure (.ok (collect vs))
    else resolveProducer below lookup frame first
  | [] =>
    let provided ← Action.readStack fun s => (s.provider? frame).isSome
    if (declared? a.sockets socket).any Socket.exposed && provided then
      lookup frame ⟨a.node, socket⟩
    else pure (.ok (ownValue? a socket))

/-- The value of a socket of an active node on a frame. It is kept, so that it is resolved only
once. -/
def inputOf (lookup : Lookup ω) (frame : Nat) (a : Activation) (socket : String) :
    Action ω (Outcome (Option Value)) := do
  match ← Action.readStack (·.input? frame ⟨a.node, socket⟩) with
  | some v => pure (.ok (some v))
  | none =>
    match ← resolveInput scene below lookup frame a socket with
    | .ok (some v) =>
      Action.changeStack watch (·.putInput frame ⟨a.node, socket⟩ v)
      pure (.ok (some v))
    | outcome => pure outcome

/-- Fetch a socket of the node that is active innermost on a frame. -/
def fetchWith (lookup : Lookup ω) (frame : Nat) (socket : String) :
    Action ω (Outcome (Option Value)) := do
  match ← Action.readStack (·.active? frame) with
  | none => pure (.ok none)
  | some a => inputOf scene watch below lookup frame a socket

/-- Ask the host. -/
def askHost (provider : Provider) (socket : Link) : Action ω (Option Value) := do
  if provider.announced then Action.emit watch (.asked socket.socket socket.node)
  pure (provider.answer socket.socket socket.node)

/-- Ask the nearest provider of a frame for a socket. A gateway answers for a paired socket with its
own input on the frame of its caller, and leaves any other socket to the providers of that frame.
Each gateway leads to a lower frame, so as many steps as there are frames below are enough. -/
def lookupWithin : Nat → Lookup ω
  | 0, _, _ => pure (.ok none)
  | steps + 1, frame, socket => do
    match ← Action.readStack (·.provider? frame) with
    | none => pure (.ok none)
    | some (.host provider) =>
      let answer ← askHost watch provider socket
      pure (.ok answer)
    | some (.gateway binding) =>
      match binding.pairings.socketFor? socket with
      | some own =>
        Action.note watch (.paired frame binding socket own)
        fetchWith scene watch below (lookupWithin steps) binding.caller own
      | none => lookupWithin steps binding.caller socket

/-- Ask the provider of a frame for a socket. -/
def provide : Lookup ω := fun frame socket =>
  lookupWithin scene watch below (frame + 1) frame socket

/-- Fetch a socket of the node that is active innermost on a frame. -/
def fetchInput (frame : Nat) (socket : String) : Action ω (Outcome (Option Value)) :=
  fetchWith scene watch below (provide scene watch below) frame socket

/-- Perform the script of the handler of an activation on a frame. -/
def perform (frame : Nat) (a : Activation) : Script → Action ω (Outcome Unit)
  | .done outcome => pure outcome
  | .fetch socket next => do
    Action.note watch (.performed frame a (.fetch socket next))
    let answer ← fetchInput scene watch below frame socket
    perform frame a (next answer)
  | .push socket v next => do
    Action.note watch (.performed frame a (.push socket v next))
    Action.changeStack watch (·.putOutput frame ⟨a.node, socket⟩ v)
    perform frame a next
  | .expose socket v next => do
    Action.note watch (.performed frame a (.expose socket v next))
    Action.changeStack watch (·.putExposed frame ⟨a.node, socket⟩ v)
    perform frame a next
  | .hasExposed socket next => do
    Action.note watch (.performed frame a (.hasExposed socket next))
    let answer ← Action.readStack fun s => (s.exposed? frame ⟨a.node, socket⟩).isSome
    perform frame a (next answer)
  | .exposeSignal socket next => do
    Action.note watch (.performed frame a (.exposeSignal socket next))
    if a.isSignal then Action.changeStack watch (·.addSignal frame ⟨a.node, socket⟩)
    else Action.log watch (.signalIgnored a.node socket)
    perform frame a next
  | .forward socket next => do
    Action.note watch (.performed frame a (.forward socket next))
    if ← Action.readStack fun s => (s.active? frame).any Activation.isSignal then
      Action.changeStack watch (·.forward frame socket)
    else Action.log watch (.forwardIgnored a.node socket)
    perform frame a next
  | .mark target scope next => do
    Action.note watch (.performed frame a (.mark target scope next))
    Action.changeState watch (·.mark frame a.node a.component target scope)
    perform frame a next
  | .emit event next => do
    Action.note watch (.performed frame a (.emit event next))
    Action.emit watch event
    perform frame a next
  | .count name next => do
    Action.note watch (.performed frame a (.count name next))
    let n ← Action.count name
    perform frame a (next n)
  | .pullScene pairings target next => do
    Action.note watch (.performed frame a (.pullScene pairings target next))
    let answer ← Action.sceneScope watch frame pairings fun inner =>
      below.evaluate inner target.node (some target.socket)
    perform frame a (next answer)
  | .pushScene pairings target next => do
    Action.note watch (.performed frame a (.pushScene pairings target next))
    let answer ← Action.sceneScope watch frame pairings fun _ =>
      below.propagate target.socket [target.node] none
    perform frame a (next answer)

end

section
variable {ω : Type} (scene : Scene) (watch : Watcher ω) (below : Calls ω)

/-- Refuse to go deeper. -/
def refuse (node : NodeId) : Action ω Failure := do
  Action.log watch (.recursionLimit node scene.limits.recursionDepth)
  pure (.tooDeep node scene.limits.recursionDepth)

/-- Run the update handler of an active node, if its component has one. A node that is nested too
deep is refused. -/
def runUpdate (frame : Nat) (c : Component) (a : Activation) : Action ω (Outcome Unit) := do
  let st ← Action.state
  if scene.limits.recursionDepth ≤ st.nesting then
    let failure ← refuse scene watch a.node
    pure (.error failure)
  else
    match c.update with
    | none => pure (.ok ())
    | some handler =>
      Action.log watch (.evaluating a.node a.component a.requested? st.nesting)
      Action.note watch (.started frame a)
      let outcome ← perform scene watch below frame a (handler a)
      Action.note watch (.finished frame a outcome)
      pure outcome

/-- Evaluate a node on a frame, perhaps for one of its outputs, and give what it exposes. A node
that needs no update is left as it is. The activation ends with the handler, whatever its outcome.
-/
def evaluateAt (frame : Nat) (node : NodeId) (requested : Option String) :
    Action ω (Outcome (Table Value)) := do
  match scene.tables.executable.node? node with
  | none => pure (.error (.unknownNode node))
  | some info =>
    let st ← Action.state
    if st.needsUpdate frame node info.component then
      match scene.registry.get? info.component with
      | none => pure (.error (.unknownComponent node info.component))
      | some c =>
        let a := c.activation node info.attributes (.pull requested)
        Action.changeStack watch (·.enter frame a)
        let outcome ← Action.nested watch (runUpdate scene watch below frame c a)
        Action.changeStack watch (·.leave frame)
        match outcome with
        | .error failure => pure (.error failure)
        | .ok () =>
          let exposed ← Action.readStack (·.exposedBy frame node)
          pure (.ok exposed)
    else
      Action.note watch (.skipped frame node)
      let exposed ← Action.readStack (·.exposedBy frame node)
      pure (.ok exposed)

end
end SocketGraph
