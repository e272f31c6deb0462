import SocketGraph.Tables
import SocketGraph.Socket

/-! Activations of nodes: what a handler is told about the node it works for. -/
namespace SocketGraph

/-- Why a node is active: a value is pulled, perhaps for one output, or a signal has arrived at an
input. A signal handler gathers the outputs that it forwards. -/
inductive Cause
  | pull (requested : Option String)
  | push (triggered : String) (forwarded : List String)
  deriving DecidableEq

/-- An active node with what its component declares. -/
structure Activation where
  node : NodeId
  component : String
  sockets : List Socket
  attributes : Table Value
  cause : Cause
  deriving DecidableEq

namespace Activation

def requested? (a : Activation) : Option String :=
  match a.cause with
  | .pull requested => requested
  | .push _ _ => none

def triggered? (a : Activation) : Option String :=
  match a.cause with
  | .pull _ => none
  | .push triggered _ => some triggered

def isSignal (a : Activation) : Bool :=
  match a.cause with
  | .pull _ => false
  | .push _ _ => true

def forwarded (a : Activation) : List String :=
  match a.cause with
  | .pull _ => []
  | .push _ forwarded => forwarded

/-- Note that a signal leaves through an output. -/
def forward (a : Activation) (socket : String) : Activation :=
  match a.cause with
  | .pull _ => a
  | .push triggered forwarded => { a with cause := .push triggered (forwarded ++ [socket]) }

@[simp] theorem node_forward (a : Activation) (socket : String) :
    (a.forward socket).node = a.node := by
  obtain ⟨_, _, _, _, cause⟩ := a; cases cause <;> rfl

end Activation
end SocketGraph
