import SocketGraph.Proofs.Propagations

/-! Breadth-first delivery. A propagation delivers the signals of one level after the other, each exactly
once, and fails for the reasons that its deliveries have failed for. -/
namespace SocketGraph

namespace Layered

variable {scene : Scene} {levels : Nat} {links left : List Link} {layers : List (List Delivery)}

/-- No more levels are dispatched than a propagation may reach. -/
theorem length_le (h : Layered scene levels links layers left) : layers.length ≤ levels := by
  induction h with
  | finished => exact Nat.zero_le _
  | cut => exact Nat.le_refl _
  | layer _ _ _ _ ih => exact Nat.succ_le_succ ih

end Layered

/-- A propagation that has delivered breadth first what has been delivered since a run. -/
def Run.BreadthFirst (r : Run History) (scene : Scene) (socket : String) (sources : List NodeId)
    (run : TriggerResult × Run History) : Prop :=
  ∃ new layers left, run.2.seen.moments = new ++ r.seen.moments ∧
    deliveries r.seen.calls.length new.reverse = layers.flatten ∧
    Layered scene scene.limits.signalLevels (frontier scene socket sources) layers left ∧
    run.1.failures = scene.failuresOf layers left

theorem Propagated.breadthFirst {scene : Scene} {socket : String} {sources : List NodeId}
    {provider : Option Provider} {r : Run History} {run : TriggerResult × Run History}
    {ms : List Moment} {st : EngineState} {layers : List (List Delivery)} {left : List Link}
    (h : Propagated scene socket sources provider r run ms st layers left) :
    r.BreadthFirst scene socket sources run := by
  refine ⟨_, layers, left, congrArg History.moments h.seen, ?_, h.layered, h.failures⟩
  rw [List.reverse_reverse, deliveries_of_propagated h]

/-- A propagation that is not refused delivers breadth first, be it one of the host or nested in a
handler, whatever the handlers do. -/
theorem Scene.propagations_breadthFirst (scene : Scene) (socket : String) (sources : List NodeId)
    (provider : Option Provider) (r : Run History) (hrefused : refused? scene r.state sources = none) :
    (∀ levels, r.BreadthFirst scene socket sources
      ((scene.calls .history (levels + 1)).propagate socket sources provider r)) ∧
    ∀ source, scene.sources socket source = sources → r.BreadthFirst scene socket sources
      (scene.triggerSignal .history socket (some source) provider r) := by
  have hnested (levels : Nat) : r.BreadthFirst scene socket sources
      ((scene.calls .history (levels + 1)).propagate socket sources provider r) := by
    obtain ⟨ms, st, layers, left, h⟩ :=
      propagated_propagateAt (scene.tracked_calls levels) socket sources provider r hrefused
    exact h.breadthFirst
  refine ⟨hnested, ?_⟩
  rintro source rfl
  exact hnested scene.limits.allowance

/-- A node that forwards every signal to itself and to a node without a component, and then fails. -/
def relayScene : Scene :=
  let relay : Component := ⟨"relay", [], none, some fun a _ =>
    .forward "o" (.fail (.handler a.node a.component "no room"))⟩
  let nodes : Table NodeInfo := .ofList [("a", ⟨"relay", .empty⟩), ("b", ⟨"lost", .empty⟩)]
  let edges : Table (List Link) := Table.empty.insert (socketKey "a" "o") [⟨"b", "i"⟩, ⟨"a", "i"⟩]
  ⟨⟨.empty, ⟨nodes, .empty, edges⟩⟩, .ofComponents [relay], ⟨20, 2⟩⟩

/-- A signal goes round twice; what was forwarded last is left over. -/
theorem propagations_breadthFirst_relay :
    let r : Run History := ⟨.fresh, .empty, [], []⟩
    let run := relayScene.triggerSignal .history "o" (some (.node "a")) none r
    r.BreadthFirst relayScene "o" ["a"] run ∧
      (deliveries 0 run.2.seen.moments.reverse).map Delivery.link =
        [⟨"b", "i"⟩, ⟨"a", "i"⟩, ⟨"b", "i"⟩, ⟨"a", "i"⟩] ∧
      run.1.failures.map Failure.kind =
        ["UnknownComponent", "Handler", "UnknownComponent", "Handler", "SignalLevelLimitExceeded"] := by
  refine ⟨?_, by decide +kernel, by decide +kernel⟩
  exact (Scene.propagations_breadthFirst relayScene "o" ["a"] none ⟨.fresh, .empty, [], []⟩ rfl).2
    (.node "a") rfl

end SocketGraph
