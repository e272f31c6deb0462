import SocketGraph.Evaluation

/-! Pushing signals: a signal travels along the edges of the graph one level at a time. A handler
that fails is noted and the others still run. -/
namespace SocketGraph

/-- The course of a propagation so far: the levels reached, the signals delivered and the failures.
-/
structure Tally where
  levels : Nat
  handled : Nat
  failures : List Failure

def Tally.start : Tally := ⟨0, 0, []⟩

section
variable {ω : Type} (scene : Scene) (watch : Watcher ω) (below : Calls ω)

/-- The inputs that a signal from some sources reaches first. -/
def frontier (socket : String) (sources : List NodeId) : List Link :=
  sources.flatMap fun node => scene.tables.executable.consumers node socket

/-- Deliver a signal to an input of a node on a frame: the outcome of its handler and the inputs
that the forwarded signals reach. What was forwarded before a failure counts. -/
def deliver (frame : Nat) (link : Link) : Action ω (Outcome Unit × List Link) := do
  Action.note watch (.delivered frame link)
  match scene.tables.executable.node? link.node with
  | none => pure (.error (.unknownNode link.node), [])
  | some info =>
    match scene.registry.get? info.component with
    | none => pure (.error (.unknownComponent link.node info.component), [])
    | some c =>
      match c.signal with
      | none => pure (.ok (), [])
      | some handler =>
        let a := c.activation link.node info.attributes (.push link.socket [])
        Action.changeStack watch (·.enter frame a)
        Action.note watch (.started frame a)
        let outcome ← perform scene watch below frame a (handler a link.socket)
        Action.note watch (.finished frame a outcome)
        let forwarded ← Action.readStack fun s => (s.active? frame).elim [] Activation.forwarded
        Action.changeStack watch (·.leave frame)
        pure (outcome, forwarded.flatMap (scene.tables.executable.consumers link.node))

/-- Deliver a signal to each input of a level, in order: the inputs of the next level and the
failures. -/
def deliverAll (frame : Nat) : List Link → Action ω (List Link × List Failure)
  | [] => pure ([], [])
  | link :: rest => do
    let (outcome, next) ← deliver scene watch below frame link
    match outcome with
    | .ok () =>
      let (more, failures) ← deliverAll frame rest
      pure (next ++ more, failures)
    | .error failure =>
      Action.log watch (.handlerFailed link.node link.socket failure.text)
      let (more, failures) ← deliverAll frame rest
      pure (next ++ more, failure :: failures)

/-- Go on level by level while there are inputs to reach and levels left. -/
def walk (frame : Nat) : Nat → Tally → List Link → Action ω Tally
  | _, tally, [] => pure tally
  | 0, tally, pending => do
    let limit := scene.limits.signalLevels
    Action.log watch (.levelLimit limit pending.length)
    pure { tally with failures := tally.failures ++ [.tooManyLevels limit] }
  | left + 1, tally, links => do
    let (next, failures) ← deliverAll scene watch below frame links
    walk frame left
      ⟨tally.levels + 1, tally.handled + links.length, tally.failures ++ failures⟩ next

/-- Report the end of a propagation and collect what was exposed on its own frame. -/
def conclude (frame : Nat) (tally : Tally) : Action ω TriggerResult := do
  Action.log watch (.propagated tally.levels tally.handled tally.failures.length)
  let own ← Action.readStack (·.frame? frame)
  match own with
  | none => pure ⟨[], .empty, tally.failures⟩
  | some f => pure ⟨f.signals, f.exposed, tally.failures⟩

/-- The source at which a propagation is refused: the handlers that it would run are nested too deep.
-/
def refused? (st : EngineState) (sources : List NodeId) : Option NodeId :=
  if scene.limits.recursionDepth ≤ st.nesting + 1 then sources.head? else none

/-- Propagate a signal out of its sources, in a call scope of its own. -/
def propagateLevels (socket : String) (sources : List NodeId) (provider : Option Provider) :
    Action ω TriggerResult :=
  Action.callScope watch provider fun frame => do
    let tally ← walk scene watch below frame scene.limits.signalLevels .start
      (frontier scene socket sources)
    conclude watch frame tally

/-- Propagate a signal one nesting deeper, unless that is too deep. -/
def propagateAt (socket : String) (sources : List NodeId) (provider : Option Provider) :
    Action ω TriggerResult := do
  let st ← Action.state
  match refused? scene st sources with
  | some source =>
    let failure ← refuse scene watch source
    pure ⟨[], .empty, [failure]⟩
  | none => Action.nested watch (propagateLevels scene watch below socket sources provider)

/-- The calls that are left when no nesting is left. They are never made: handlers are refused before
they are nested that deep. -/
def Calls.exhausted : Calls ω :=
  ⟨fun _ node _ => pure (.error (.tooDeep node scene.limits.recursionDepth)),
    fun _ _ _ => pure .empty⟩

/-- The calls that can be made while some levels of nesting are left. -/
def Scene.calls : Nat → Calls ω
  | 0 => .exhausted scene
  | levels + 1 =>
    ⟨fun frame node requested => evaluateAt scene watch (Scene.calls levels) frame node requested,
      fun socket sources provider =>
        propagateAt scene watch (Scene.calls levels) socket sources provider⟩

/-- The calls of the host. No call is nested deeper than the handlers that may make one. -/
def Scene.hostCalls : Calls ω := scene.calls watch (scene.limits.allowance + 1)

end
end SocketGraph
