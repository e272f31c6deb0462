import SocketGraph.Propagation

/-! Evaluations, run by run. An evaluation is refused for what it does not find, leaves a node that needs no update as
it is, or updates it: the node is active meanwhile, and its handler works one nesting deeper, unless that is too
deep. -/
namespace SocketGraph

section
variable {ω : Type} (scene : Scene) (watch : Watcher ω) (below : Calls ω) (i : Nat) (c : Component) (a : Activation)

/-- What is left of an update if the node is not refused. -/
def attempt (nesting : Nat) : Action ω (Outcome Unit) :=
  match c.update with
  | none => pure (.ok ())
  | some handler => do
    Action.log watch (.evaluating a.node a.component a.requested? nesting)
    Action.note watch (.started i a)
    let outcome ← perform scene watch below i a (handler a)
    Action.note watch (.finished i a outcome)
    pure outcome

theorem runUpdate_apply (r : Run ω) :
    runUpdate scene watch below i c a r = if scene.limits.recursionDepth ≤ r.state.nesting then
      (.error (.tooDeep a.node scene.limits.recursionDepth),
        (Action.log watch (.recursionLimit a.node scene.limits.recursionDepth) r).2)
    else attempt scene watch below i c a r.state.nesting r := by
  rw [runUpdate, Action.state_bind_apply]
  split <;> rfl

/-- An update of a node that is active meanwhile, one nesting deeper. -/
def activeUpdate : Action ω (Outcome Unit) := do
  Action.changeStack watch (·.enter i a)
  let outcome ← Action.nested watch (runUpdate scene watch below i c a)
  Action.changeStack watch (·.leave i)
  pure outcome

end

section
variable {ω : Type} {scene : Scene} (watch : Watcher ω) (below : Calls ω) {i : Nat} {node : NodeId}
  {requested : Option String} {info : NodeInfo} {c : Component} {r : Run ω}

/-- A node that needs no update is only passed over. -/
theorem evaluateAt_eq_skipped (hnode : scene.tables.executable.node? node = some info)
    (hneeds : r.state.needsUpdate i node info.component = false) (requested : Option String) :
    evaluateAt scene watch below i node requested r =
      (.ok (r.state.stack.exposedBy i node), (Action.note watch (.skipped i node) r).2) := by
  unfold evaluateAt
  rw [hnode]
  dsimp only
  rw [Action.state_bind_apply, if_neg (by simp [hneeds])]
  rfl

/-- A node that needs an update is updated, and then gives what it exposes, unless the update has failed. -/
theorem evaluateAt_eq_updated (hnode : scene.tables.executable.node? node = some info)
    (hget : scene.registry.get? info.component = some c)
    (hneeds : r.state.needsUpdate i node info.component = true) :
    evaluateAt scene watch below i node requested r =
      let updated := activeUpdate scene watch below i c (c.activation node info.attributes (.pull requested)) r
      ((fun _ => updated.2.state.stack.exposedBy i node) <$> updated.1, updated.2) := by
  unfold evaluateAt
  rw [hnode]
  dsimp only
  rw [Action.state_bind_apply, if_pos hneeds, hget]
  unfold activeUpdate
  simp only [Action.bind_apply]
  generalize Action.nested watch (runUpdate scene watch below i c _) _ = run
  obtain ⟨outcome, r'⟩ := run
  cases outcome <;> rfl

/-- A node whose component is not registered is refused when it needs an update. -/
theorem evaluateAt_eq_unknown (hnode : scene.tables.executable.node? node = some info)
    (hget : scene.registry.get? info.component = none)
    (hneeds : r.state.needsUpdate i node info.component = true) :
    evaluateAt scene watch below i node requested r = (.error (.unknownComponent node info.component), r) := by
  unfold evaluateAt
  rw [hnode]
  dsimp only
  rw [Action.state_bind_apply, if_pos hneeds, hget]
  rfl

theorem evaluateAt_cases (i : Nat) (node : NodeId) (requested : Option String) (r : Run ω) :
    (∃ failure, evaluateAt scene watch below i node requested r = (.error failure, r)) ∨
    (∃ info, scene.tables.executable.node? node = some info ∧
      r.state.needsUpdate i node info.component = false ∧ evaluateAt scene watch below i node requested r =
        (.ok (r.state.stack.exposedBy i node), (Action.note watch (.skipped i node) r).2)) ∨
    ∃ info c, scene.tables.executable.node? node = some info ∧ scene.registry.get? info.component = some c ∧
      r.state.needsUpdate i node info.component = true ∧ evaluateAt scene watch below i node requested r =
        let updated := activeUpdate scene watch below i c (c.activation node info.attributes (.pull requested)) r
        ((fun _ => updated.2.state.stack.exposedBy i node) <$> updated.1, updated.2) := by
  cases hnode : scene.tables.executable.node? node with
  | none => exact .inl ⟨.unknownNode node, by rw [evaluateAt, hnode]; rfl⟩
  | some info =>
    cases hneeds : r.state.needsUpdate i node info.component with
    | false => exact .inr (.inl ⟨info, rfl, hneeds, evaluateAt_eq_skipped watch below hnode hneeds requested⟩)
    | true =>
      cases hget : scene.registry.get? info.component with
      | none =>
        exact .inl ⟨.unknownComponent node info.component, evaluateAt_eq_unknown watch below hnode hget hneeds⟩
      | some c =>
        exact .inr (.inr ⟨info, c, rfl, hget, hneeds, evaluateAt_eq_updated watch below hnode hget hneeds⟩)

end

end SocketGraph
