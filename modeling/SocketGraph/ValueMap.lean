import SocketGraph.Frame

/-! Values that a host has ready for sockets. -/
namespace SocketGraph

/-- Values by node and socket. -/
structure ValueMap where
  values : SocketValues

namespace ValueMap

def empty : ValueMap := ⟨.empty⟩

/-- Set the value of a socket, replacing an earlier one. -/
def add (m : ValueMap) (node : NodeId) (socket : String) (v : Value) : ValueMap :=
  ⟨m.values.put node socket v⟩

def get? (m : ValueMap) (node : NodeId) (socket : String) : Option Value :=
  m.values.get? node socket

def isEmpty (m : ValueMap) : Bool := m.values.isEmpty

/-- The provider that answers from the values without a trace. -/
def provider (m : ValueMap) : Provider := ⟨fun socket node => m.get? node socket, false⟩

@[simp] theorem get?_add (m : ValueMap) (node node' : NodeId) (socket socket' : String)
    (v : Value) :
    (m.add node socket v).get? node' socket' =
      if node' = node ∧ socket' = socket then some v else m.get? node' socket' :=
  SocketValues.get?_put m.values node node' socket socket' v

end ValueMap

/-- A provider that announces each question and answers with the first of its entries that fits. -/
def Provider.announcing (entries : List (Link × Value)) : Provider :=
  ⟨fun socket node => (entries.find? fun e => e.1 = ⟨node, socket⟩).map Prod.snd, true⟩

end SocketGraph
