import SocketGraph.Component
import SocketGraph.Value.Description

/-! The general component: handlers of one's own, and the usual behaviour of exposed sockets added
to them. -/
namespace SocketGraph

/-- A component with the usual behaviour. After an update every exposed input that carries values is
exposed with what it resolves to, unless the handler exposed it already, and the node is marked if
the component remembers its updates. Without a handler for signals, one that arrives at an exposed
input is exposed. -/
structure NodeComponent where
  name : String
  sockets : List Socket
  update : Option (Activation → Script)
  signal : Option (Activation → String → Script)
  memory : Option (MarkTarget × MarkScope)

namespace NodeComponent

/-- A component without handlers. -/
def plain (name : String) (sockets : List Socket) : NodeComponent :=
  ⟨name, sockets, none, none, none⟩

/-- The inputs that are exposed after an update. -/
def exposedInputs (c : NodeComponent) : List Socket :=
  c.sockets.filter fun s => s.isInput && s.exposed && !s.isSignal

/-- Expose inputs with the values they resolve to, except those that have an exposed value. -/
def exposeInputs : List Socket → Script
  | [] => .succeed
  | s :: rest =>
    .hasExposed s.name fun
      | true => exposeInputs rest
      | false =>
        .fetch s.name fun
          | .error failure => .fail failure
          | .ok none => exposeInputs rest
          | .ok (some v) => .expose s.name v (exposeInputs rest)

/-- Mark the node as updated, if the component remembers. -/
def remember (c : NodeComponent) : Script :=
  match c.memory with
  | none => .succeed
  | some (target, scope) => .mark target scope .succeed

def updateScript (c : NodeComponent) (a : Activation) : Script :=
  ((c.update.elim .succeed (· a)).andThen (exposeInputs c.exposedInputs)).andThen c.remember

def signalScript (c : NodeComponent) (a : Activation) (socket : String) : Script :=
  match c.signal with
  | some handler => handler a socket
  | none =>
    if (Socket.input? c.sockets socket).any Socket.exposed then .exposeSignal socket .succeed
    else .succeed

/-- The component with both of its handlers. -/
def component (c : NodeComponent) : Component :=
  ⟨c.name, c.sockets, some c.updateScript, some c.signalScript⟩

end NodeComponent

/-! Descriptions. -/

def describedBool (b : Bool) : String := if b then "true" else "false"

def describedOption {α : Type} (describe : α → String) : Option α → String
  | none => "None"
  | some a => "Some(" ++ describe a ++ ")"

def Direction.description : Direction → String
  | .input => "Input"
  | .output => "Output"

def MarkTarget.description : MarkTarget → String
  | .node => "Node"
  | .component => "Component"
  | .both => "NodeAndComponent"

def MarkScope.description : MarkScope → String
  | .frame => "CurrentCycle"
  | .root => "RootCycle"
  | .forever => "Forever"

def Socket.description (s : Socket) : String :=
  "SocketDecl \x7b name: " ++ Text.quoted s.name ++ ", type_tag: " ++ Text.quoted s.typeTag ++
    ", direction: " ++ s.direction.description ++ ", exposed: " ++ describedBool s.exposed ++
    ", allows_multiple: " ++ describedBool s.allowsMultiple ++ ", default: " ++
    describedOption Value.description s.default ++ " \x7d"

def NodeComponent.description (c : NodeComponent) : String :=
  "NodeComponent \x7b name: " ++ Text.quoted c.name ++ ", sockets: [" ++
    String.intercalate ", " (c.sockets.map Socket.description) ++ "], has_update_handler: " ++
    describedBool c.update.isSome ++ ", has_signal_handler: " ++ describedBool c.signal.isSome ++
    ", memoize: " ++
    describedOption (fun m : MarkTarget × MarkScope =>
      "(" ++ m.1.description ++ ", " ++ m.2.description ++ ")") c.memory ++ " \x7d"

end SocketGraph
