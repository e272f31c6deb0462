import SocketGraph.Proofs.Breadth
import SocketGraph.Proofs.Ceilings
import SocketGraph.Proofs.Lookups

/-! Termination. However the nodes of a graph are connected and the gateways are paired, every call of
the host comes to its end before the levels that it is given are used up, and takes no more frames than
the limits allow. -/
namespace SocketGraph

namespace Likeness

variable {ω : Type}

/-- Every run is like itself. -/
def same (watch : Watcher ω) : Likeness watch watch where
  like := Eq
  state h := congrArg Run.state h
  emit e h := congrArg (fun r => (Action.emit watch e r).2) h
  note s h := congrArg (fun r => (Action.note watch s r).2) h
  keep i socket v h := congrArg (fun r => (Action.changeStack watch (·.putInput i socket v) r).2) h

theorem lasting_same (watch : Watcher ω) : (same watch).Lasting :=
  fun change _ _ h => congrArg (fun r => (Action.changeState watch change r).2) h

theorem counting_same (watch : Watcher ω) : (same watch).Counting := by
  rintro name r _ rfl
  exact ⟨rfl, rfl⟩

end Likeness

/-- The calls of the host return: with more levels of nesting, and whatever calls are made once these are
used up, they do the same. -/
def Scene.HostCallsReturn (scene : Scene) : Prop :=
  ∀ {ω : Type} (watch : Watcher ω) (bottom : Calls ω) (levels : Nat) (r : Run ω),
    scene.limits.allowance < levels →
    (∀ i node requested, (scene.callsOver watch bottom levels).evaluate i node requested r =
      (scene.hostCalls watch).evaluate i node requested r) ∧
    ∀ socket sources provider,
      (scene.callsOver watch bottom levels).propagate socket sources provider r =
        (scene.hostCalls watch).propagate socket sources provider r

/-- Handlers are refused before the levels are used up. -/
theorem Scene.hostCalls_return (scene : Scene) : scene.HostCallsReturn := by
  intro ω watch bottom levels r hlevels
  cases levels with
  | zero => exact absurd hlevels (Nat.not_lt_zero _)
  | succ levels =>
    have hdepth : scene.limits.recursionDepth ≤ r.state.nesting + scene.limits.allowance + 1 := by
      rw [Limits.allowance]
      omega
    obtain ⟨hevaluate, hpropagate⟩ := Likeness.agree_callsOver (Likeness.lasting_same watch)
      (fun _ => Likeness.counting_same watch) (scene.registry.counts_of_allowed trivial) bottom
      (.exhausted scene) levels scene.limits.allowance (by omega) hdepth
    rw [Scene.hostCalls, Scene.calls_eq_callsOver]
    refine ⟨fun i node requested => ?_, fun socket sources provider => ?_⟩
    · obtain ⟨hanswer, hrun, -⟩ := hevaluate i node requested r r rfl rfl
      exact Prod.ext hanswer hrun
    · obtain ⟨hanswer, hrun, -⟩ := hpropagate socket sources provider r r rfl rfl
      exact Prod.ext hanswer hrun

/-- The lookups of gateways return in a state: with more steps, and whatever lookup is made once these
are used up, they do the same. -/
def EngineState.LookupsReturn (st : EngineState) (scene : Scene) : Prop :=
  ∀ {ω : Type} (watch : Watcher ω) (levels : Nat) (bottom : Lookup ω) (counters : Table Nat) (w : ω)
    (steps i : Nat) (socket : Link), i < steps →
    lookupOver scene watch (scene.calls watch levels) bottom steps i socket ⟨st, counters, w⟩ =
      provide scene watch (scene.calls watch levels) i socket ⟨st, counters, w⟩

theorem EngineState.Reachable.lookups_return {registry : Registry} {limits : Limits} {st : EngineState}
    (h : st.Reachable registry limits) (scene : Scene) : st.LookupsReturn scene := by
  intro ω watch levels bottom counters w steps i socket hsteps
  have hbound : st.stack.Bound := (Law.bound registry).of_reachable (fun hm => hm) h
  exact scene.lookups_descend watch levels bottom hbound hsteps socket

/-- What is told of a call of the host fits the limits, in every session. -/
theorem Session.fits_perform (registry : Registry) (limits : Limits) (calls : List HostCall)
    (call : HostCall) :
    let s := Session.recorded registry limits calls
    ∃ new, (call.perform .history s).2.seen.moments = new ++ s.seen.moments ∧
      ∀ m ∈ new, m.Fits limits.recursionDepth
        (s.engine.openFrames + 4 * limits.recursionDepth + 2) := by
  intro s
  have hholds := (Law.bound registry).holds_recorded limits calls
  obtain ⟨ms, hseen, hms⟩ := call.exists_seen_perform s
  refine ⟨ms.reverse, congrArg History.moments hseen, ?_⟩
  rcases hms with rfl | ⟨tables, st, st', hactive, hcourse⟩
  · exact nofun
  · have hlimits : s.engine.limits = limits := hholds.limits
    have hframes : s.engine.openFrames = st.stack.height := by rw [Engine.openFrames, hactive]; rfl
    have hfits := hcourse.fits (hholds.active hactive).2.nesting
    rw [Engine.scene, hlimits] at hfits
    rw [hframes]
    exact fun m hm => hfits m (List.mem_reverse.1 hm)

/-- A propagation that has dispatched no more frontiers since a run than are allowed. -/
def Run.Stops (r : Run History) (scene : Scene) (run : TriggerResult × Run History) : Prop :=
  ∃ new layers, run.2.seen.moments = new ++ r.seen.moments ∧
    deliveries r.seen.calls.length new.reverse = layers.flatten ∧
    (∃ links left, Layered scene scene.limits.signalLevels links layers left) ∧
    layers.length ≤ scene.limits.signalLevels

theorem Scene.propagations_stop (scene : Scene) (levels : Nat) (socket : String) (sources : List NodeId)
    (provider : Option Provider) (r : Run History) :
    r.Stops scene ((scene.calls .history (levels + 1)).propagate socket sources provider r) := by
  change r.Stops scene (propagateAt scene .history _ socket sources provider r)
  cases hrefused : refused? scene r.state sources with
  | some source =>
    rw [propagateAt_of_refused socket sources provider r hrefused]
    exact ⟨[], [], rfl, rfl, ⟨[], [], .finished _⟩, Nat.zero_le _⟩
  | none =>
    obtain ⟨ms, st, layers, left, h⟩ :=
      propagated_propagateAt (scene.tracked_calls levels) socket sources provider r hrefused
    obtain ⟨new, layers, left, hseen, hdeliveries, hlayered, -⟩ := h.breadthFirst
    exact ⟨new, layers, hseen, hdeliveries, ⟨_, left, hlayered⟩, hlayered.length_le⟩

/-- Every call of the host returns, whatever the tables, the limits, the handlers and the providers are;
while it is under way no handler is nested too deep and the stack keeps to its ceiling, and no
propagation goes further than it may. -/
theorem calls_terminate (registry : Registry) (limits : Limits) :
    (∀ tables : Tables, (⟨tables, registry, limits⟩ : Scene).HostCallsReturn) ∧
    (∀ (tables : Tables) (st : EngineState), st.Reachable registry limits →
      st.LookupsReturn ⟨tables, registry, limits⟩) ∧
    (∀ calls (call : HostCall), let s := Session.recorded registry limits calls
      ∃ new, (call.perform .history s).2.seen.moments = new ++ s.seen.moments ∧
        ∀ m ∈ new, m.Fits limits.recursionDepth
          (s.engine.openFrames + 4 * limits.recursionDepth + 2)) ∧
    (∀ tables levels socket sources provider (r : Run History),
      let scene : Scene := ⟨tables, registry, limits⟩
      r.Stops scene ((scene.calls .history (levels + 1)).propagate socket sources provider r)) :=
  ⟨fun _ => Scene.hostCalls_return _, fun _ _ h => h.lookups_return _,
    fun calls call => Session.fits_perform registry limits calls call,
    fun _ levels socket sources provider r => Scene.propagations_stop _ levels socket sources provider r⟩

/-- A gateway that stands for the scene that it is in itself: a signal that it receives is sent out of a
node whose signals it receives. -/
def mirrorCalls : List HostCall :=
  let pairings : Value := .object [("go", Link.toValue ⟨"entry", "out"⟩)]
  let nodes : Table NodeInfo := .ofList [("entry", ⟨"EXPOSED.IN.SIGNAL", .empty⟩),
    ("gw", ⟨Gateway.name, Table.empty.insert Gateway.pairingAttribute pairings⟩)]
  let edges : Table (List Link) := Table.empty.insert (socketKey "entry" "out") [⟨"gw", "go"⟩]
  [.bind (.memory (.ofTables ⟨.empty, ⟨nodes, .empty, edges⟩⟩)), .activate .none]

/-- The gateway signals itself until it is refused, with two handlers at work and eight frames. -/
theorem calls_terminate_mirror :
    let registry : Registry := .ofComponents [Gateway.component]
    let s := Session.recorded registry ⟨3, 20⟩ mirrorCalls
    let run := (HostCall.triggerSignal "out" (some (.node "entry")) none).perform .history s
    (∃ tables st, s.engine.active = some (tables, st) ∧
      st.LookupsReturn ⟨tables, registry, ⟨3, 20⟩⟩) ∧
      (∃ new, run.2.seen.moments = new ++ s.seen.moments ∧ ∀ m ∈ new, m.Fits 3 14) ∧
      (run.2.seen.moments.map fun m => m.state.stack.height).max? = some 8 ∧
      (run.2.seen.moments.map fun m => m.calls.length).max? = some 2 := by
  obtain ⟨-, hlookups, hfits, -⟩ := calls_terminate (.ofComponents [Gateway.component]) ⟨3, 20⟩
  refine ⟨?_, ?_, by decide +kernel, by decide +kernel⟩
  · have hactive : (Session.recorded (.ofComponents [Gateway.component]) ⟨3, 20⟩
        mirrorCalls).engine.active.isSome = true := by decide +kernel
    obtain ⟨⟨tables, st⟩, h⟩ := Option.isSome_iff_exists.1 hactive
    exact ⟨tables, st, h, hlookups tables st (.between mirrorCalls h)⟩
  · exact hfits mirrorCalls (.triggerSignal "out" (some (.node "entry")) none)

end SocketGraph
