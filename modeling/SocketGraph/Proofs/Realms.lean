import SocketGraph.Component.Exposed
import SocketGraph.Proofs.CallStack

/-! Realms: nodes that keep to themselves. Their handlers link and feed one another, and may do no more of what
reaches beyond their frames than they are allowed to. -/
namespace SocketGraph

/-- What the handlers of some nodes may do: link scenes at these nodes and send them signals, ask counters, and mark
something forever. -/
structure Realm where
  nodes : NodeId → Prop
  signals : Prop
  counts : Prop
  lasting : Prop

/-- All nodes, allowed everything but perhaps marks that last forever. -/
def Realm.whole (lasting : Prop) : Realm := ⟨fun _ => True, True, True, lasting⟩

/-- A script that keeps to a realm. -/
def Script.KeepsTo (R : Realm) : Script → Prop
  | .done _ => True
  | .fetch _ next => ∀ answer, (next answer).KeepsTo R
  | .push _ _ next => next.KeepsTo R
  | .expose _ _ next => next.KeepsTo R
  | .hasExposed _ next => ∀ answer, (next answer).KeepsTo R
  | .exposeSignal _ next => next.KeepsTo R
  | .forward _ next => next.KeepsTo R
  | .mark _ scope next => (scope = .forever → R.lasting) ∧ next.KeepsTo R
  | .emit _ next => next.KeepsTo R
  | .count _ next => R.counts ∧ ∀ n, (next n).KeepsTo R
  | .pullScene _ target next => R.nodes target.node ∧ ∀ answer, (next answer).KeepsTo R
  | .pushScene _ target next => R.signals ∧ R.nodes target.node ∧ ∀ result, (next result).KeepsTo R

namespace Script.KeepsTo

variable {R : Realm}

theorem of_whole (script : Script) : script.KeepsTo (.whole True) := by
  induction script with
  | done outcome => trivial
  | fetch _ _ ih | hasExposed _ _ ih => exact ih
  | push _ _ _ ih | expose _ _ _ ih => exact ih
  | exposeSignal _ _ ih | forward _ _ ih | emit _ _ ih => exact ih
  | mark _ _ _ ih => exact ⟨fun _ => trivial, ih⟩
  | count _ _ ih => exact ⟨trivial, ih⟩
  | pullScene _ _ _ ih => exact ⟨trivial, ih⟩
  | pushScene _ _ _ ih => exact ⟨trivial, trivial, ih⟩

theorem andThen {s t : Script} (hs : s.KeepsTo R) (ht : t.KeepsTo R) : (s.andThen t).KeepsTo R := by
  induction s with
  | done outcome =>
    cases outcome with
    | error failure => trivial
    | ok _ => exact ht
  | fetch _ _ ih | hasExposed _ _ ih => exact fun answer => ih answer (hs answer)
  | push _ _ _ ih | expose _ _ _ ih => exact ih hs
  | exposeSignal _ _ ih | forward _ _ ih | emit _ _ ih => exact ih hs
  | mark _ _ _ ih => exact ⟨hs.1, ih hs.2⟩
  | count _ _ ih => exact ⟨hs.1, fun n => ih n (hs.2 n)⟩
  | pullScene _ _ _ ih => exact ⟨hs.1, fun answer => ih answer (hs.2 answer)⟩
  | pushScene _ _ _ ih => exact ⟨hs.1, hs.2.1, fun result => ih result (hs.2.2 result)⟩

theorem exposeInputs (sockets : List Socket) : (NodeComponent.exposeInputs sockets).KeepsTo R := by
  induction sockets with
  | nil => trivial
  | cons socket rest ih =>
    intro answer
    cases answer with
    | true => exact ih
    | false =>
      rintro (_ | _ | v)
      · trivial
      · exact ih
      · exact ih

/-- A node component keeps to a realm if its own handler does, unless it is marked forever. -/
theorem updateScript (c : NodeComponent) {a : Activation}
    (hupdate : ∀ handler, c.update = some handler → (handler a).KeepsTo R)
    (hmemory : ∀ target, c.memory ≠ some (target, .forever)) : (c.updateScript a).KeepsTo R := by
  refine andThen (andThen ?_ (exposeInputs _)) ?_
  · cases hc : c.update with
    | none => trivial
    | some handler => exact hupdate handler hc
  · unfold NodeComponent.remember
    split
    · trivial
    · rename_i target scope hc
      refine ⟨?_, trivial⟩
      rintro rfl
      exact absurd hc (hmemory target)

end Script.KeepsTo

/-- The nodes of a realm keep to themselves: each of them is fed by others of them, and their handlers keep to the
realm. -/
structure Scene.Secluded (scene : Scene) (R : Realm) : Prop where
  producers : ∀ {node}, R.nodes node → ∀ socket, ∀ l ∈ scene.tables.executable.producers node socket, R.nodes l.node
  consumers : R.signals → ∀ {node}, R.nodes node → ∀ socket,
    ∀ l ∈ scene.tables.executable.consumers node socket, R.nodes l.node
  update : ∀ {c a}, scene.Instance c a → R.nodes a.node → ∀ handler, c.update = some handler → (handler a).KeepsTo R
  signal : R.signals → ∀ {c a}, scene.Instance c a → R.nodes a.node → ∀ handler, c.signal = some handler →
    ∀ socket, (handler a socket).KeepsTo R

theorem Scene.secluded_whole (scene : Scene) : scene.Secluded (.whole True) where
  producers _ _ _ _ := trivial
  consumers _ _ _ _ _ _ := trivial
  update _ _ _ _ := .of_whole _
  signal _ _ _ _ _ _ _ _ := .of_whole _

/-- An entry node of some type of values. -/
def Scene.IsEntry (scene : Scene) (node : NodeId) : Prop :=
  ∃ info typeTag, scene.tables.executable.node? node = some info ∧
    scene.registry.get? info.component = some (entryComponent typeTag).component

end SocketGraph
