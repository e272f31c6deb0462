import SocketGraph.Value

/-! The compiled tables of a graph: its nodes with their attributes, the edges along which values
are pulled, the edges along which signals are pushed, and the index of exposed sockets. -/
namespace SocketGraph

/-- The identifier of a node; it is only compared and used in socket keys. -/
abbrev NodeId := String

/-- The key of a socket in the tables. -/
def socketKey (node : NodeId) (socket : String) : String := node ++ ":" ++ socket

/-- One end of an edge: a socket of a node. -/
structure Link where
  node : NodeId
  socket : String
  deriving DecidableEq, Inhabited

/-- A node: the name of its component and its own attributes. -/
structure NodeInfo where
  component : String
  attributes : Table Value
  deriving DecidableEq

/-- The nodes and edges. Value edges are kept by consumer input, with the producers in order; signal
edges by producer output, with the consumers in order. -/
structure Executable where
  nodes : Table NodeInfo
  valueEdges : Table (List Link)
  signalEdges : Table (List Link)
  deriving DecidableEq

/-- A socket that the host may request. -/
structure ExposedSocket where
  node : NodeId
  socket : String
  typeTag : String
  component : String
  deriving DecidableEq

/-- The exposed sockets by socket key, and the signal sources by component and socket. -/
structure ExposedIndex where
  sockets : Table ExposedSocket
  triggers : Table (Table (List NodeId))
  deriving DecidableEq

/-- Both tables of a graph. -/
structure Tables where
  exposed : ExposedIndex
  executable : Executable
  deriving DecidableEq

namespace Executable

def empty : Executable := ⟨.empty, .empty, .empty⟩

def node? (x : Executable) (node : NodeId) : Option NodeInfo := x.nodes.get? node

/-- The outputs that feed an input, in connection order. -/
def producers (x : Executable) (node : NodeId) (socket : String) : List Link :=
  (x.valueEdges.get? (socketKey node socket)).getD []

/-- The inputs that a signal output feeds, in connection order. -/
def consumers (x : Executable) (node : NodeId) (socket : String) : List Link :=
  (x.signalEdges.get? (socketKey node socket)).getD []

/-- Every component name that a node uses, in ascending order. -/
def componentNames (x : Executable) : List String :=
  (Table.ofList (x.nodes.values.map fun info => (info.component, ()))).keys

end Executable

namespace ExposedIndex

def empty : ExposedIndex := ⟨.empty, .empty⟩

def socket? (x : ExposedIndex) (node : NodeId) (socket : String) : Option ExposedSocket :=
  x.sockets.get? (socketKey node socket)

/-- The nodes that are signal sources for a socket of a component. -/
def triggerNodes (x : ExposedIndex) (component socket : String) : List NodeId :=
  ((x.triggers.get? component).bind (·.get? socket)).getD []

end ExposedIndex

def Tables.empty : Tables := ⟨.empty, .empty⟩

end SocketGraph
