import SocketGraph.Value

/-! Declarations of the sockets of a component. -/
namespace SocketGraph

inductive Direction
  | input
  | output
  deriving DecidableEq

/-- The type tag of the sockets that carry signals instead of values. -/
def signalType : String := "Signal"

/-- The declaration of a socket. -/
structure Socket where
  name : String
  typeTag : String
  direction : Direction
  exposed : Bool
  allowsMultiple : Bool
  default : Option Value
  deriving DecidableEq

namespace Socket

/-- An input that is neither exposed nor collecting and has no default. -/
def input (name typeTag : String) : Socket := ⟨name, typeTag, .input, false, false, none⟩

def output (name typeTag : String) : Socket := ⟨name, typeTag, .output, false, false, none⟩

def isSignal (s : Socket) : Bool := s.typeTag == signalType

def isInput (s : Socket) : Bool := s.direction == .input

def isOutput (s : Socket) : Bool := s.direction == .output

/-- The first declared input of a name. -/
def input? (sockets : List Socket) (name : String) : Option Socket :=
  sockets.find? fun s => s.isInput && s.name == name

/-- The first declared output of a name. -/
def output? (sockets : List Socket) (name : String) : Option Socket :=
  sockets.find? fun s => s.isOutput && s.name == name

end Socket
end SocketGraph
