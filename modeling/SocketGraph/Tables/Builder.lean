import SocketGraph.Component.Gateway

/-! Tables laid out in memory by a sequence of calls: nodes, edges, pairings and exposed sockets. -/
namespace SocketGraph

/-- A call that adds something to the tables. -/
inductive BuildCall
  | node (id : NodeId) (component : String) (attributes : Value)
  | connect (producer : Link) (consumer : Link)
  | connectSignal (producer : Link) (consumer : Link)
  | pair (gateway : NodeId) (socket : String) (target : Link)
  | expose (socket : Link) (typeTag : String)
  | trigger (component socket : String) (node : NodeId)
  | indexExposed

/-- The tables so far, and the pairings that become attributes in the end. -/
structure Builder where
  tables : Tables
  pairings : Table Pairings

namespace Builder

def start : Builder := ⟨.empty, .empty⟩

/-- Only the fields of an object become attributes. -/
def attributesOf : Value → Table Value
  | .object fields => .ofList fields
  | _ => .empty

def changeExecutable (b : Builder) (change : Executable → Executable) : Builder :=
  { b with tables.executable := change b.tables.executable }

def changeExposed (b : Builder) (change : ExposedIndex → ExposedIndex) : Builder :=
  { b with tables.exposed := change b.tables.exposed }

/-- Add a node, replacing one of the same identifier. -/
def node (b : Builder) (id : NodeId) (component : String) (attributes : Value) : Builder :=
  b.changeExecutable fun x =>
    { x with nodes := x.nodes.insert id ⟨component, attributesOf attributes⟩ }

/-- Add a value edge after those that its consumer has. -/
def connect (b : Builder) (producer consumer : Link) : Builder :=
  b.changeExecutable fun x =>
    { x with valueEdges :=
      x.valueEdges.modifyD (socketKey consumer.node consumer.socket) [] (· ++ [producer]) }

/-- Add a signal edge after those that its producer has. -/
def connectSignal (b : Builder) (producer consumer : Link) : Builder :=
  b.changeExecutable fun x =>
    { x with signalEdges :=
      x.signalEdges.modifyD (socketKey producer.node producer.socket) [] (· ++ [consumer]) }

/-- Pair a socket of a gateway, replacing an earlier pairing of it. -/
def pair (b : Builder) (gateway : NodeId) (socket : String) (target : Link) : Builder :=
  { b with pairings := b.pairings.modifyD gateway .empty (·.insert socket target) }

/-- Enter a socket into the index, with the component that its node has now. -/
def expose (b : Builder) (socket : Link) (typeTag : String) : Builder :=
  let component := (b.tables.executable.node? socket.node).elim "" NodeInfo.component
  b.changeExposed fun x =>
    { x with
      sockets := x.sockets.insert (socketKey socket.node socket.socket)
        ⟨socket.node, socket.socket, typeTag, component⟩ }

/-- Add a signal source after those of the same component and socket. -/
def trigger (b : Builder) (component socket : String) (node : NodeId) : Builder :=
  b.changeExposed fun x =>
    { x with triggers :=
      x.triggers.modifyD component .empty (·.modifyD socket [] (· ++ [node])) }

/-- An entry of the index that a declaration gives rise to. -/
inductive IndexEntry
  | socket (s : ExposedSocket)
  | trigger (component socket : String) (node : NodeId)

/-- An exposed output of signals makes its node a signal source, any other exposed socket can be
requested. -/
def indexEntry (node : NodeId) (component : String) (s : Socket) : IndexEntry :=
  if s.isOutput && s.isSignal then .trigger component s.name node
  else .socket ⟨node, s.name, s.typeTag, component⟩

/-- The index entries of a node whose component is registered, in declaration order. -/
def nodeEntries (registry : Registry) (node : NodeId) (info : NodeInfo) : List IndexEntry :=
  match registry.get? info.component with
  | none => []
  | some c => (c.sockets.filter Socket.exposed).map (indexEntry node info.component)

def addEntry (b : Builder) : IndexEntry → Builder
  | .socket s => b.changeExposed fun x =>
    { x with sockets := x.sockets.insert (socketKey s.node s.socket) s }
  | .trigger component socket node => b.trigger component socket node

/-- Index every exposed socket that the components of the nodes declare, node by node in ascending
order. -/
def indexExposed (registry : Registry) (b : Builder) : Builder :=
  (b.tables.executable.nodes.entries.flatMap fun e => nodeEntries registry e.1 e.2).foldl addEntry b

def apply (registry : Registry) (b : Builder) : BuildCall → Builder
  | .node id component attributes => b.node id component attributes
  | .connect producer consumer => b.connect producer consumer
  | .connectSignal producer consumer => b.connectSignal producer consumer
  | .pair gateway socket target => b.pair gateway socket target
  | .expose socket typeTag => b.expose socket typeTag
  | .trigger component socket node => b.trigger component socket node
  | .indexExposed => b.indexExposed registry

/-- The value that pairings are written as. -/
def pairingValue (p : Pairings) : Value := .ofTableWith Link.toValue p

/-- Give a gateway node its pairings, if there is such a node. -/
def attach (nodes : Table NodeInfo) (e : NodeId × Pairings) : Table NodeInfo :=
  match nodes.get? e.1 with
  | none => nodes
  | some info =>
    nodes.insert e.1 { info with
      attributes := info.attributes.insert Gateway.pairingAttribute (pairingValue e.2) }

/-- The finished tables. -/
def build (b : Builder) : Tables :=
  { b.tables with
    executable.nodes := b.pairings.entries.foldl attach b.tables.executable.nodes }

/-- The tables that a sequence of calls lays out. -/
def run (registry : Registry) (calls : List BuildCall) : Tables :=
  (calls.foldl (apply registry) start).build

end Builder
end SocketGraph
