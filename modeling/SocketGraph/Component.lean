import SocketGraph.Script

/-! Components: what the nodes of a graph are instances of. A component declares sockets and may
have a handler that updates a node and a handler that receives signals. -/
namespace SocketGraph

/-- A component. A handler is a script that depends on the activation it works for. -/
structure Component where
  name : String
  sockets : List Socket
  update : Option (Activation → Script)
  signal : Option (Activation → String → Script)

namespace Component

def input? (c : Component) (name : String) : Option Socket := Socket.input? c.sockets name

def output? (c : Component) (name : String) : Option Socket := Socket.output? c.sockets name

/-- The activation of a node of the component. -/
def activation (c : Component) (node : NodeId) (attributes : Table Value) (cause : Cause) :
    Activation := ⟨node, c.name, c.sockets, attributes, cause⟩

end Component

/-- Components by name. -/
abbrev Registry := Table Component

namespace Registry

/-- Add a component under its name, replacing an earlier one. -/
def register (r : Registry) (c : Component) : Registry := r.insert c.name c

def registerAll (r : Registry) (cs : List Component) : Registry := cs.foldl register r

def ofComponents (cs : List Component) : Registry := registerAll .empty cs

/-- The registry as descriptions of engines show it. -/
def description (r : Registry) : String :=
  "ComponentRegistry \x7b component_count: " ++ toString r.size ++ ", component_names: [" ++
    String.intercalate ", " (r.keys.map Text.quoted) ++ "] \x7d"

/-- A component is found under its own name right after it was registered. -/
@[simp] theorem get?_register_self (r : Registry) (c : Component) :
    (r.register c).get? c.name = some c := Table.get?_insert_self r c.name c

theorem mem_of_get?_registerAll {cs : List Component} {r : Registry} {name : String} {c : Component}
    (h : (r.registerAll cs).get? name = some c) : c ∈ cs ∨ r.get? name = some c := by
  induction cs generalizing r with
  | nil => exact .inr h
  | cons c' cs ih =>
    rcases ih (r := r.register c') h with hc | hget
    · exact .inl (List.mem_cons_of_mem _ hc)
    · rw [register, Table.get?_insert] at hget
      by_cases hname : name = c'.name
      · rw [if_pos hname] at hget
        exact .inl (Option.some.inj hget ▸ List.mem_cons_self)
      · rw [if_neg hname] at hget
        exact .inr hget

/-- A registry has no other components than those it was made of. -/
theorem mem_of_get?_ofComponents {cs : List Component} {name : String} {c : Component}
    (h : (ofComponents cs).get? name = some c) : c ∈ cs :=
  (mem_of_get?_registerAll h).resolve_right nofun

end Registry
end SocketGraph
