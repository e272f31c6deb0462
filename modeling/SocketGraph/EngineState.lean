import SocketGraph.FrameStack

/-! The state of an active engine. -/
namespace SocketGraph

/-- The frames of the calls under way, the marks that last as long as the engine is active, and how
deep the handlers under way are nested. -/
structure EngineState where
  stack : FrameStack
  forever : Marks
  nesting : Nat

namespace EngineState

/-- The state right after activation. -/
def fresh : EngineState := ⟨.empty, .empty, 0⟩

/-- Whether a node of a component still needs its update on a frame: no mark covers it, be it one of
the frame itself, of its root frame, or one that lasts forever. -/
def needsUpdate (st : EngineState) (frame : Nat) (node : NodeId) (component : String) : Bool :=
  !(st.forever.covers node component || st.stack.isMarked frame node component ||
    st.stack.isMarked (st.stack.root frame) node component)

/-- Mark a node of a component as updated. -/
def mark (st : EngineState) (frame : Nat) (node : NodeId) (component : String)
    (target : MarkTarget) : MarkScope → EngineState
  | .frame => { st with stack := st.stack.mark frame target node component }
  | .root => { st with stack := st.stack.mark (st.stack.root frame) target node component }
  | .forever => { st with forever := st.forever.add target node component }

def deeper (st : EngineState) : EngineState := { st with nesting := st.nesting + 1 }

def shallower (st : EngineState) : EngineState := { st with nesting := st.nesting - 1 }

/-- Open a frame for a bracket of calls. -/
def openFrame (st : EngineState) : EngineState :=
  { st with stack := st.stack.push (.fresh true none) }

/-- Close the innermost frame, if one is open. -/
def closeFrame (st : EngineState) : EngineState := { st with stack := st.stack.pop }

end EngineState

end SocketGraph
