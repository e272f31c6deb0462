import SocketGraph.Script

/-! Frames: the values, signals and marks that a call has left so far, and the nodes active in it.
-/
namespace SocketGraph

/-- Values by node and socket. -/
abbrev SocketValues := Table (Table Value)

namespace SocketValues

def get? (t : SocketValues) (node : NodeId) (socket : String) : Option Value :=
  (Table.get? t node).bind (·.get? socket)

/-- Set the value of a socket. -/
def put (t : SocketValues) (node : NodeId) (socket : String) (v : Value) : SocketValues :=
  t.modifyD node .empty (·.insert socket v)

@[simp] theorem get?_empty (node : NodeId) (socket : String) :
    get? (Table.empty : SocketValues) node socket = none := rfl

/-- A socket has the value that was set last. -/
theorem get?_put (t : SocketValues) (node node' : NodeId) (socket socket' : String) (v : Value) :
    (t.put node socket v).get? node' socket' =
      if node' = node ∧ socket' = socket then some v else t.get? node' socket' := by
  unfold get? put Table.modifyD
  rw [Table.get?_insert]
  by_cases hn : node' = node
  · subst hn
    cases h : Table.get? t node' with
    | none => by_cases hs : socket' = socket <;> simp [Table.get?_insert, hs]
    | some inner => by_cases hs : socket' = socket <;> simp [Table.get?_insert, hs]
  · simp [hn]

end SocketValues

/-- Who answers for the exposed inputs of a scene from outside. -/
structure Provider where
  answer : (socket : String) → (node : NodeId) → Option Value
  announced : Bool

/-- A linked scene is bound to the frame of its gateway by the pairings of the gateway. -/
structure Binding where
  caller : Nat
  pairings : Pairings
  deriving DecidableEq

/-- Who answers on a frame: the host, or the gateway of a linked scene. -/
inductive FrameProvider
  | host (provider : Provider)
  | gateway (binding : Binding)

/-- The nodes and components that need no further update. -/
structure Marks where
  nodes : List NodeId
  components : List String
  deriving DecidableEq

namespace Marks

def empty : Marks := ⟨[], []⟩

/-- Whether a node of a component is covered. -/
def covers (m : Marks) (node : NodeId) (component : String) : Bool :=
  m.nodes.contains node || m.components.contains component

/-- Add what a mark of a node of a component covers. -/
def add (m : Marks) (target : MarkTarget) (node : NodeId) (component : String) : Marks :=
  ⟨if target.coversNode then m.nodes.insert node else m.nodes,
    if target.coversComponent then m.components.insert component else m.components⟩

@[simp] theorem covers_empty (node : NodeId) (component : String) :
    empty.covers node component = false := rfl

end Marks

/-- A frame. One that is not permeable ends every walk over the frames below it; the active nodes
are listed from the innermost. -/
structure Frame where
  permeable : Bool
  provider : Option FrameProvider
  outputs : SocketValues
  inputs : SocketValues
  exposed : SocketValues
  signals : List Link
  marks : Marks
  active : List Activation

namespace Frame

/-- A frame without contents. -/
def fresh (permeable : Bool) (provider : Option FrameProvider) : Frame :=
  ⟨permeable, provider, .empty, .empty, .empty, [], .empty, []⟩

def putOutput (f : Frame) (socket : Link) (v : Value) : Frame :=
  { f with outputs := f.outputs.put socket.node socket.socket v }

def putInput (f : Frame) (socket : Link) (v : Value) : Frame :=
  { f with inputs := f.inputs.put socket.node socket.socket v }

def putExposed (f : Frame) (socket : Link) (v : Value) : Frame :=
  { f with exposed := f.exposed.put socket.node socket.socket v }

def addSignal (f : Frame) (signal : Link) : Frame := { f with signals := f.signals ++ [signal] }

def mark (f : Frame) (target : MarkTarget) (node : NodeId) (component : String) : Frame :=
  { f with marks := f.marks.add target node component }

def enter (f : Frame) (a : Activation) : Frame := { f with active := a :: f.active }

def leave (f : Frame) : Frame := { f with active := f.active.tail }

/-- Change the innermost activation. -/
def updateActive (f : Frame) (change : Activation → Activation) : Frame :=
  { f with active := f.active.modifyHead change }

@[simp] theorem leave_enter (f : Frame) (a : Activation) : (f.enter a).leave = f := rfl

end Frame
end SocketGraph
