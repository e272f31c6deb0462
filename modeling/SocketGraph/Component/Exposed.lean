import SocketGraph.Component.Node
import SocketGraph.Text.UpperCase

/-! The entry and exit nodes of a scene, one pair of components for each type of value. -/
namespace SocketGraph

/-- The component of the nodes through which values of a type enter a scene. -/
def entryName (typeTag : String) : String := "EXPOSED.IN." ++ Text.upperCase typeTag

/-- The component of the nodes through which values of a type leave a scene. -/
def exitName (typeTag : String) : String := "EXPOSED.OUT." ++ Text.upperCase typeTag

def entryComponent (typeTag : String) : NodeComponent :=
  .plain (entryName typeTag) [{ Socket.output "output" typeTag with exposed := true }]

def exitComponent (typeTag : String) : NodeComponent :=
  .plain (exitName typeTag) [{ Socket.input "input" typeTag with exposed := true }]

/-- The entry and exit components of some types. -/
def exposedPackage (typeTags : List String) : List NodeComponent :=
  typeTags.flatMap fun t => [entryComponent t, exitComponent t]

end SocketGraph
