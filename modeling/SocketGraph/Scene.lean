import SocketGraph.Component
import SocketGraph.Limits

/-! Scenes: a graph of nodes with the components that they are made of. -/
namespace SocketGraph

/-- What stays the same while an engine is active. -/
structure Scene where
  tables : Tables
  registry : Registry
  limits : Limits

end SocketGraph
