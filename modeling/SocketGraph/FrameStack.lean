import SocketGraph.Frame

/-! The stack of frames. Frames are named by their distance from the bottom. What is written on a
frame reaches every frame of its lineage, down to the nearest one that is not permeable; a read
takes the first answer along the lineage. -/
namespace SocketGraph

/-- The frames, the outermost first. -/
structure FrameStack where
  frames : List Frame

namespace FrameStack

def empty : FrameStack := ⟨[]⟩

def height (s : FrameStack) : Nat := s.frames.length

/-- The innermost frame, if there is one. -/
def top (s : FrameStack) : Nat := s.height - 1

def push (s : FrameStack) (f : Frame) : FrameStack := ⟨s.frames ++ [f]⟩

def pop (s : FrameStack) : FrameStack := ⟨s.frames.dropLast⟩

def frame? (s : FrameStack) (i : Nat) : Option Frame := s.frames[i]?

/-- Change one frame. -/
def modify (s : FrameStack) (i : Nat) (change : Frame → Frame) : FrameStack :=
  ⟨s.frames.modify i change⟩

/-- Whether a frame lets walks go on to the frame below it. -/
def isPermeable (s : FrameStack) (i : Nat) : Bool := (s.frame? i).any Frame.permeable

/-- A frame and the frames below it, as long as each lets the walk go on. -/
def descend (s : FrameStack) : Nat → List Nat
  | 0 => [0]
  | i + 1 => (i + 1) :: if s.isPermeable (i + 1) then descend s i else []

/-- The frames that a frame shares its contents with, the innermost first. -/
def lineage (s : FrameStack) (i : Nat) : List Nat := if i < s.height then s.descend i else []

/-- The last frame of the lineage. -/
def root (s : FrameStack) (i : Nat) : Nat := (s.lineage i).getLastD i

/-- Change every frame of a lineage. -/
def writeThrough (s : FrameStack) (i : Nat) (change : Frame → Frame) : FrameStack :=
  (s.lineage i).foldl (fun s j => s.modify j change) s

/-- The first answer along a lineage. -/
def readThrough {α : Type} (s : FrameStack) (i : Nat) (read : Frame → Option α) : Option α :=
  (s.lineage i).findSome? fun j => (s.frame? j).bind read

def putOutput (s : FrameStack) (i : Nat) (socket : Link) (v : Value) : FrameStack :=
  s.writeThrough i (·.putOutput socket v)

def putInput (s : FrameStack) (i : Nat) (socket : Link) (v : Value) : FrameStack :=
  s.writeThrough i (·.putInput socket v)

def putExposed (s : FrameStack) (i : Nat) (socket : Link) (v : Value) : FrameStack :=
  s.writeThrough i (·.putExposed socket v)

def addSignal (s : FrameStack) (i : Nat) (signal : Link) : FrameStack :=
  s.writeThrough i (·.addSignal signal)

def output? (s : FrameStack) (i : Nat) (socket : Link) : Option Value :=
  s.readThrough i (·.outputs.get? socket.node socket.socket)

def input? (s : FrameStack) (i : Nat) (socket : Link) : Option Value :=
  s.readThrough i (·.inputs.get? socket.node socket.socket)

def exposed? (s : FrameStack) (i : Nat) (socket : Link) : Option Value :=
  s.readThrough i (·.exposed.get? socket.node socket.socket)

/-- Everything a node exposes as seen from a frame; inner frames win. -/
def exposedBy (s : FrameStack) (i : Nat) (node : NodeId) : Table Value :=
  (s.lineage i).foldr
    (fun j outer =>
      outer.union (((s.frame? j).bind (Table.get? ·.exposed node)).getD .empty)) .empty

/-- The nearest provider along a lineage. -/
def provider? (s : FrameStack) (i : Nat) : Option FrameProvider := s.readThrough i Frame.provider

/-- Whether a frame itself carries a mark that covers a node of a component. -/
def isMarked (s : FrameStack) (i : Nat) (node : NodeId) (component : String) : Bool :=
  (s.frame? i).any (·.marks.covers node component)

def mark (s : FrameStack) (i : Nat) (target : MarkTarget) (node : NodeId) (component : String) :
    FrameStack := s.modify i (·.mark target node component)

def enter (s : FrameStack) (i : Nat) (a : Activation) : FrameStack := s.modify i (·.enter a)

def leave (s : FrameStack) (i : Nat) : FrameStack := s.modify i Frame.leave

/-- The node that is active innermost on a frame. -/
def active? (s : FrameStack) (i : Nat) : Option Activation := (s.frame? i).bind (·.active.head?)

def forward (s : FrameStack) (i : Nat) (socket : String) : FrameStack :=
  s.modify i (·.updateActive (·.forward socket))

@[simp] theorem pop_push (s : FrameStack) (f : Frame) : (s.push f).pop = s := by
  simp [push, pop]

@[simp] theorem height_push (s : FrameStack) (f : Frame) : (s.push f).height = s.height + 1 := by
  simp [push, height]

@[simp] theorem height_modify (s : FrameStack) (i : Nat) (change : Frame → Frame) :
    (s.modify i change).height = s.height := by simp [modify, height]

@[simp] theorem height_writeThrough (s : FrameStack) (i : Nat) (change : Frame → Frame) :
    (s.writeThrough i change).height = s.height := by
  unfold writeThrough
  generalize s.lineage i = targets
  induction targets generalizing s with
  | nil => rfl
  | cons j rest ih => rw [List.foldl_cons, ih, height_modify]

end FrameStack
end SocketGraph
