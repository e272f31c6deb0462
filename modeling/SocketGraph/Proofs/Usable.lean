import SocketGraph.Configuration
import SocketGraph.Proofs.Breadth
import SocketGraph.Proofs.Freshness
import SocketGraph.Proofs.Outlasting
import SocketGraph.Proofs.Requests
import SocketGraph.Proofs.Scripted
import SocketGraph.Proofs.Termination

/-! Usable limits. Limits are accepted as soon as none of them is zero. With all of these but one, a host that has
opened no frame gets a handler to work; what is left is where the nesting of that handler is refused already. -/
namespace SocketGraph

namespace Moment

/-- The operation that is performed in a moment by the handler that works above some others. -/
def operation? (depth : Nat) (m : Moment) : Option Script :=
  match m.step with
  | .performed _ _ script => if m.calls.length = depth + 1 then some script else none
  | _ => none

/-- Moments that tell of a handler from its start to its end. What it has performed in them is its script, on one
of the ways through it. -/
def Works (calls : CallStack) (i : Nat) (a : Activation) (script : Script) (outcome : Outcome Unit)
    (ms : List Moment) : Prop :=
  ∃ before inside after g st st', ms = before ++ handled calls st i a inside g st' outcome ++ after ∧
    script.Ends (inside.filterMap (operation? calls.length)) outcome

theorem Works.surround {calls : CallStack} {i : Nat} {a : Activation} {script : Script} {outcome : Outcome Unit}
    {ms : List Moment} (h : Works calls i a script outcome ms) (before after : List Moment) :
    Works calls i a script outcome (before ++ ms ++ after) := by
  obtain ⟨before', inside, after', g, st, st', rfl, hends⟩ := h
  exact ⟨before ++ before', inside, after' ++ after, g, st, st', by simp, hends⟩

end Moment

theorem Delivery.length_le_foldl (depth : Nat) (ms : List Moment) (ds : List Delivery) :
    ds.length ≤ (ms.foldl (extend depth) ds).length := by
  induction ms generalizing ds with
  | nil => exact Nat.le_refl _
  | cons m ms ih =>
    refine Nat.le_trans ?_ (ih _)
    obtain ⟨st, calls, step⟩ := m
    cases step <;> simp only [extend] <;> try split
    all_goals simp

/-- After a moment a delivery is followed by another one, or it has the operation that the moment tells of. -/
theorem Delivery.extend_singleton (depth : Nat) (d : Delivery) (m : Moment) :
    (∃ link, extend depth [d] m = [start link, d]) ∨
      ∃ d', extend depth [d] m = [d'] ∧ d'.operations = d.operations ++ (m.operation? depth).toList := by
  obtain ⟨st, calls, step⟩ := m
  cases step with
  | delivered i link =>
    by_cases hdepth : calls.length = depth
    · exact .inl ⟨link, if_pos hdepth⟩
    · exact .inr ⟨d, if_neg hdepth, by simp [Moment.operation?]⟩
  | performed i a script =>
    by_cases hdepth : calls.length = depth + 1
    · exact .inr ⟨d.perform script, if_pos hdepth, by simp [Moment.operation?, hdepth, perform]⟩
    · exact .inr ⟨d, if_neg hdepth, by simp [Moment.operation?, hdepth]⟩
  | finished i a outcome =>
    by_cases hdepth : calls.length = depth + 1
    · exact .inr ⟨d.finish outcome, if_pos hdepth, by simp [Moment.operation?, finish]⟩
    · exact .inr ⟨d, if_neg hdepth, by simp [Moment.operation?]⟩
  | _ => exact .inr ⟨d, rfl, by simp [Moment.operation?]⟩

/-- A delivery that is the only one told of in the end has all operations that are told of. -/
theorem Delivery.operations_of_foldl {depth : Nat} {ms : List Moment} {d d' : Delivery}
    (h : ms.foldl (extend depth) [d] = [d']) :
    d'.operations = d.operations ++ ms.filterMap (Moment.operation? depth) := by
  induction ms generalizing d with
  | nil =>
    cases h
    simp
  | cons m ms ih =>
    rw [List.foldl_cons] at h
    rcases extend_singleton depth d m with ⟨link, hnext⟩ | ⟨d₁, hnext, hoperations⟩
    · have hlength := length_le_foldl depth ms [start link, d]
      rw [← hnext, h, hnext] at hlength
      simp at hlength
    · rw [hnext] at h
      rw [ih h, hoperations, List.append_assoc, List.filterMap_cons]
      cases m.operation? depth <;> rfl

/-- A handler that performs its script tells of the operations on its way. -/
theorem exists_operations_perform {scene : Scene} {below : Calls History} (hbelow : Course.Tracked scene below)
    {calls : CallStack} {g : Invocation} {r : Run History} (hr : r.seen.calls = g :: calls) (i : Nat) (a : Activation)
    (script : Script) :
    let run := perform scene .history below i a script r
    ∃ (ms : List Moment) (g' : Invocation), run.2.seen = ⟨g' :: calls, ms.reverse ++ r.seen.moments⟩ ∧
      script.Ends (ms.filterMap (Moment.operation? calls.length)) run.1 := by
  intro run
  obtain ⟨operations, hends, ⟨g', hcalls⟩, ms, hseen, hms⟩ := extends_perform hbelow hr i a script
  refine ⟨ms, g', ?_, ?_⟩
  · rw [← hseen, ← hcalls]
  · have htold : operations = ms.filterMap (Moment.operation? calls.length) := by
      simpa [Delivery.start, Delivery.performAll] using Delivery.operations_of_foldl (hms [.start ⟨"", ""⟩])
    rwa [← htold]

section
variable {scene : Scene} {c : Component} {handler : Activation → Script} {r : Run History}

/-- An update that is not nested too deep is the work of the handler. -/
theorem works_runUpdate (levels i : Nat) (hdepth : r.state.nesting < scene.limits.recursionDepth)
    (hupdate : c.update = some handler) (a : Activation) :
    let run := runUpdate scene .history (scene.calls .history levels) i c a r
    ∃ ms : List Moment, run.2.seen = ⟨r.seen.calls, ms.reverse ++ r.seen.moments⟩ ∧
      Moment.Works r.seen.calls i a (handler a) run.1 ms := by
  intro run
  let started : Run History := (Action.note .history (.started i a) r).2
  obtain ⟨ms, g, hseen, hends⟩ :=
    exists_operations_perform (scene.tracked_calls levels) (r := started) rfl i a (handler a)
  let performed := perform scene .history (scene.calls .history levels) i a (handler a) started
  have hrun : run = (performed.1, (Action.note .history (.finished i a performed.1) performed.2).2) :=
    runUpdate_of_shallow hdepth hupdate
  refine ⟨Moment.handled r.seen.calls r.state i a ms g performed.2.state performed.1, ?_, [], ms, [], g, r.state,
    performed.2.state, ?_, ?_⟩
  · rw [hrun]
    change History.mk performed.2.seen.calls.tail
      (⟨performed.2.state, performed.2.seen.calls, .finished i a performed.1⟩ :: performed.2.seen.moments) = _
    rw [show performed.2.seen = _ from hseen]
    simp [Moment.handled, started, Action.note, Watcher.history]
  · rw [hrun]
    simp
  · rw [hrun]
    exact hends

/-- The evaluation of a node that needs its update is the work of the handler. -/
theorem works_evaluateAt {node : NodeId} {info : NodeInfo} (levels i : Nat) (requested : Option String)
    (hdepth : r.state.nesting + 1 < scene.limits.recursionDepth)
    (hnode : scene.tables.executable.node? node = some info) (hget : scene.registry.get? info.component = some c)
    (hupdate : c.update = some handler) (hneeds : r.state.needsUpdate i node info.component = true) :
    let a := c.activation node info.attributes (.pull requested)
    let run := evaluateAt scene .history (scene.calls .history levels) i node requested r
    ∃ (ms : List Moment) (outcome : Outcome Unit) (exposed : Table Value),
      run.2.seen = ⟨r.seen.calls, ms.reverse ++ r.seen.moments⟩ ∧ run.1 = outcome.map (fun _ => exposed) ∧
      Moment.Works r.seen.calls i a (handler a) outcome ms := by
  intro a run
  let entered : Run History := (r.change .history (·.enter i a)).change .history .deeper
  let updated := runUpdate scene .history (scene.calls .history levels) i c a entered
  obtain ⟨ms, hseen, hworks⟩ := works_runUpdate levels i (r := entered) hdepth hupdate a
  have hrun : run = _ := evaluateAt_eq_updated .history (scene.calls .history levels) hnode hget hneeds
  let left := updated.2.state.shallower.leave i
  refine ⟨[.change r.seen.calls (r.state.enter i a), .change r.seen.calls (r.state.enter i a).deeper] ++ ms ++
    [.change r.seen.calls updated.2.state.shallower, .change r.seen.calls left], updated.1,
    left.stack.exposedBy i node, ?_, ?_, hworks.surround _ _⟩
  · rw [hrun]
    have hleft := Course.seen_changeState (fun st => st.leave i) (Course.seen_changeState .shallower hseen)
    refine hleft.trans ?_
    simp only [List.reverse_append, List.reverse_cons, List.reverse_nil, List.nil_append, List.cons_append,
      List.append_assoc]
    rfl
  · rw [hrun]
    rfl

/-- A history does not tell of events, so nothing is told of a failure that is reported. -/
theorem reportFailure_history {α : Type} (node : NodeId) (socket : String) (outcome : Outcome α) (r : Run History) :
    reportFailure .history node socket outcome r = (outcome, r) := by
  cases outcome <;> rfl

theorem updateNode_history (node : NodeId) (provider : Option Provider) (r : Run History) :
    scene.updateNode .history node provider r = Action.callScope .history provider
      (fun frame => (scene.hostCalls .history).evaluate frame node none) r :=
  reportFailure_history node "*" _ _

/-- An update that the host asks for is the work of the handler, if the node needs it on the frames of the call. -/
theorem works_updateNode {node : NodeId} {info : NodeInfo} (provider : Option Provider)
    (hdepth : r.state.nesting + 1 < scene.limits.recursionDepth)
    (hnode : scene.tables.executable.node? node = some info) (hget : scene.registry.get? info.component = some c)
    (hupdate : c.update = some handler)
    (hneeds : (r.state.openCall provider).needsUpdate (r.state.stack.height + 1) node info.component = true) :
    let a := c.activation node info.attributes (.pull none)
    let run := scene.updateNode .history node provider r
    ∃ (ms : List Moment) (outcome : Outcome Unit) (exposed : Table Value),
      run.2.seen = ⟨r.seen.calls, ms.reverse ++ r.seen.moments⟩ ∧ run.1 = outcome.map (fun _ => exposed) ∧
      Moment.Works r.seen.calls (r.state.stack.height + 1) a (handler a) outcome ms := by
  let outer : Frame := .fresh true none
  let inner : Frame := .fresh true (provider.map .host)
  obtain ⟨ms, outcome, exposed, hseen, hanswer, hworks⟩ := works_evaluateAt scene.limits.allowance
    (r.state.stack.height + 1) none (r := Course.opened r outer inner) hdepth hnode hget hupdate hneeds
  obtain ⟨hresult, -, hscope⟩ := Course.recorded_between outer inner
    (fun frame => (scene.hostCalls .history).evaluate frame node none) r ms rfl hseen
  rw [updateNode_history]
  exact ⟨_, outcome, exposed, hscope, hresult.trans hanswer, hworks.surround _ _⟩

/-- An update of a node that needs none on the frames of the call is answered without any handler. -/
theorem updateNode_of_marked {node : NodeId} {info : NodeInfo} (provider : Option Provider)
    (hnode : scene.tables.executable.node? node = some info)
    (hneeds : (r.state.openCall provider).needsUpdate (r.state.stack.height + 1) node info.component = false) :
    let run := scene.updateNode .history node provider r
    run.1 = .ok ((r.state.openCall provider).stack.exposedBy (r.state.stack.height + 1) node) ∧
      ∃ new, run.2.seen.moments = new ++ r.seen.moments ∧ ∀ m ∈ new, ∀ i a, m.step ≠ .started i a := by
  let outer : Frame := .fresh true none
  let inner : Frame := .fresh true (provider.map .host)
  let opened := Course.opened r outer inner
  let i := r.state.stack.height + 1
  have hskipped : (scene.hostCalls .history).evaluate i node none opened =
      (.ok (opened.state.stack.exposedBy i node), (Action.note .history (.skipped i node) opened).2) :=
    evaluateAt_eq_skipped .history _ hnode hneeds none
  obtain ⟨hresult, -, hscope⟩ := Course.recorded_between outer inner
    (fun frame => (scene.hostCalls .history).evaluate frame node none) r [⟨opened.state, r.seen.calls, .skipped i node⟩]
    hskipped rfl
  rw [updateNode_history]
  refine ⟨hresult, _, congrArg History.moments hscope, ?_⟩
  simp [Moment.opening, Moment.closing, Moment.change]

/-- A propagation that the host asks for delivers to all inputs that the signal reaches first, in their order, before
anything else. -/
theorem delivers_triggerSignal (hdepth : r.state.nesting + 1 < scene.limits.recursionDepth)
    (hlevels : 0 < scene.limits.signalLevels) (socket : String) (source : SignalSource) (provider : Option Provider) :
    let run := scene.triggerSignal .history socket (some source) provider r
    ∃ new ds later, run.2.seen.moments = new ++ r.seen.moments ∧
      deliveries r.seen.calls.length new.reverse = ds ++ later ∧
      ds.map Delivery.link = frontier scene socket (scene.sources socket source) ∧ ∀ d ∈ ds, d.Obeys scene := by
  intro run
  have hrefused : refused? scene r.state (scene.sources socket source) = none := if_neg (Nat.not_le_of_lt hdepth)
  obtain ⟨new, layers, left, hnew, hdeliveries, hlayered, -⟩ :=
    (scene.propagations_breadthFirst socket _ provider r hrefused).2 source rfl
  obtain ⟨new', hnew', hobey⟩ := scene.propagations_obey scene.limits.allowance socket (scene.sources socket source)
    provider r
  obtain rfl : new = new' := List.append_cancel_right (hnew.symm.trans hnew')
  rw [hdeliveries] at hobey
  obtain ⟨levels, hsignal⟩ := Nat.exists_eq_succ_of_ne_zero (Nat.ne_of_gt hlevels)
  rw [hsignal] at hlayered
  generalize hlinks : frontier scene socket (scene.sources socket source) = links at hlayered
  cases hlayered with
  | finished => exact ⟨new, [], [], hnew, hdeliveries, rfl, nofun⟩
  | @layer _ _ _ layers ds _ hdispatched _ =>
    refine ⟨new, ds, layers.flatten, hnew, hdeliveries, hdispatched, fun d hd => hobey d ?_⟩
    simp [hd]

end

/-! Scripts that succeed. -/

namespace Script

/-- A script that succeeds without fetching anything, whatever its operations answer. -/
def Succeeds (script : Script) : Prop :=
  script.Every fun rest => (∀ socket next, rest ≠ .fetch socket next) ∧ ∀ failure, rest ≠ .done (.error failure)

theorem Every.leads {P : Script → Prop} {script rest : Script} (h : script.Every P) (hleads : script.Leads rest) :
    rest.Every P := by
  cases hleads with
  | fetch | hasExposed | count | pullScene | pushScene => exact h.2 _
  | push | expose | exposeSignal | forward | mark | emit => exact h.2

theorem Succeeds.outcome {script : Script} {operations : List Script} {outcome : Outcome Unit} (h : script.Succeeds)
    (hends : script.Ends operations outcome) : outcome = .ok () := by
  induction hends with
  | done outcome =>
    cases outcome with
    | error failure => exact absurd rfl (h.2 failure)
    | ok => rfl
  | step leads _ ih => exact ih (Every.leads h leads)

end Script

/-! Calls of the host. -/

section
variable {registry : Registry} {limits : Limits} {calls : List HostCall} {tables : Tables} {st : EngineState}

/-- Between the calls of the host no handler is at work, and without open frames only the marks that last forever
are left. -/
theorem Session.recorded_idle
    (hactive : (Session.recorded registry limits calls).engine.active = some (tables, st))
    (hframes : (Session.recorded registry limits calls).engine.openFrames = 0) :
    let s := Session.recorded registry limits calls
    s.engine.scene tables = ⟨tables, registry, limits⟩ ∧ s.seen.calls = [] ∧
      st = { EngineState.fresh with forever := st.forever } := by
  intro s
  have hholds := (Law.bound registry).holds_recorded limits calls
  refine ⟨?_, hholds.seen.calls, (hholds.active hactive).2.eq_fresh ?_⟩
  · rw [Engine.scene, hholds.registry, hholds.limits]
  · rwa [Engine.openFrames, hactive] at hframes

/-- A call on an active engine is a run of its scene. -/
theorem Host.whileActive_of_active {α : Type} {s : Session History} (operation : String)
    (body : Scene → Action History (Outcome α)) {scene : Scene} (hactive : s.engine.active = some (tables, st))
    (hscene : s.engine.scene tables = scene) :
    let run := body scene ⟨st, s.counters, s.seen⟩
    (Host.whileActive .history operation body s).1 = run.1 ∧
      (Host.whileActive .history operation body s).2.seen = run.2.seen := by
  rw [Host.whileActive_apply, hactive]
  dsimp only
  rw [hscene]
  exact ⟨rfl, rfl⟩

/-- Right after an activation nothing is marked. -/
theorem Session.forever_of_activated {before : List HostCall} {files : Files}
    (hinactive : (Session.recorded registry limits before).engine.active = none)
    (hactive : (Session.recorded registry limits (before ++ [.activate files])).engine.active = some (tables, st)) :
    st.forever = .empty := by
  let s := Session.recorded registry limits before
  have hlast : Session.recorded registry limits (before ++ [.activate files]) =
      (Host.activate .history files s).2 := HostCall.performAll_append ..
  obtain ⟨w, -, hrun⟩ := Host.activate_apply .history files s
  rw [hlast, hrun] at hactive
  cases hactivated : Host.activated files s.engine with
  | error failure =>
    rw [hactivated] at hactive
    exact nomatch hinactive.symm.trans hactive
  | ok e =>
    obtain ⟨tables', rfl⟩ := Host.eq_of_activated hactivated
    rw [hactivated] at hactive
    cases hactive
    rfl

theorem EngineState.needsUpdate_openCall (h : st = { EngineState.fresh with forever := st.forever })
    (provider : Option Provider) (node : NodeId) (component : String) :
    (st.openCall provider).needsUpdate (st.stack.height + 1) node component = !st.forever.covers node component := by
  have hstack : st.stack = .empty := congrArg EngineState.stack h
  have hblank : (st.openCall provider).stack.Blank := by
    change ((st.stack.push (.fresh true none)).push (.fresh true (provider.map .host))).Blank
    rw [hstack]
    exact (FrameStack.Blank.empty.push true none).push true (provider.map .host)
  rw [EngineState.needsUpdate, hblank.isMarked, hblank.isMarked, Bool.or_false, Bool.or_false]
  rfl

section
variable {s : Session History} {scene : Scene} (hactive : s.engine.active = some (tables, st))
  (hscene : s.engine.scene tables = scene) (hidle : s.seen.calls = [])
  (hst : st = { EngineState.fresh with forever := st.forever }) (hceiling : 1 < scene.limits.recursionDepth)
include hactive hscene hidle hst hceiling

/-- An update of a node that nothing covers is the work of the handler. -/
theorem Host.works_updateNode {node : NodeId} {info : NodeInfo} {c : Component} {handler : Activation → Script}
    (provider : Option Provider) (hnode : scene.tables.executable.node? node = some info)
    (hget : scene.registry.get? info.component = some c) (hupdate : c.update = some handler)
    (hcovers : st.forever.covers node info.component = false) :
    let a := c.activation node info.attributes (.pull none)
    let run := Host.updateNode .history node provider s
    ∃ (ms : List Moment) (outcome : Outcome Unit) (exposed : Table Value),
      run.2.seen.moments = ms.reverse ++ s.seen.moments ∧ Moment.Works [] 1 a (handler a) outcome ms ∧
      run.1 = outcome.map fun _ => exposed := by
  intro a run
  obtain ⟨hanswer, hseen⟩ := Host.whileActive_of_active "update a node" (·.updateNode .history node provider) hactive
    hscene
  have hnesting : st.nesting = 0 := congrArg EngineState.nesting hst
  have hheight : st.stack.height = 0 := congrArg (·.stack.height) hst
  have hneeds : (st.openCall provider).needsUpdate (st.stack.height + 1) node info.component = true := by
    rw [EngineState.needsUpdate_openCall hst, hcovers, Bool.not_false]
  obtain ⟨ms, outcome, exposed, hmoments, hresult, hworks⟩ := SocketGraph.works_updateNode
    (r := ⟨st, s.counters, s.seen⟩) provider (hnesting.symm ▸ hceiling) hnode hget hupdate hneeds
  refine ⟨ms, outcome, exposed, congrArg History.moments (hseen.trans hmoments), ?_, hanswer.trans hresult⟩
  simpa only [hidle, hheight] using hworks

/-- A signal is delivered to all inputs that it reaches first. -/
theorem Host.delivers_triggerSignal (hlevels : 0 < scene.limits.signalLevels) (socket : String) (source : SignalSource)
    (provider : Option Provider) :
    let run := Host.triggerSignal .history socket (some source) provider s
    ∃ result new ds later, run.1 = .ok result ∧ run.2.seen.moments = new ++ s.seen.moments ∧
      deliveries 0 new.reverse = ds ++ later ∧
      ds.map Delivery.link = frontier scene socket (scene.sources socket source) ∧ ∀ d ∈ ds, d.Obeys scene := by
  intro run
  obtain ⟨hanswer, hseen⟩ := Host.whileActive_of_active "trigger a signal" (fun scene => do
    let result ← scene.triggerSignal .history socket (some source) provider
    pure (.ok result)) hactive hscene
  have hnesting : st.nesting = 0 := congrArg EngineState.nesting hst
  obtain ⟨new, ds, later, hmoments, hdeliveries, hlinks, hobey⟩ := SocketGraph.delivers_triggerSignal
    (r := ⟨st, s.counters, s.seen⟩) (hnesting.symm ▸ hceiling) hlevels socket source provider
  refine ⟨_, new, ds, later, hanswer, (congrArg History.moments hseen).trans hmoments, ?_, hlinks, hobey⟩
  simpa only [hidle, List.length_nil] using hdeliveries

end

/-- An update of a node that is marked forever is answered without any handler. -/
theorem Host.updateNode_of_covered {s : Session History} {scene : Scene} (hactive : s.engine.active = some (tables, st))
    (hscene : s.engine.scene tables = scene) (hst : st = { EngineState.fresh with forever := st.forever })
    {node : NodeId} {info : NodeInfo} (provider : Option Provider)
    (hnode : scene.tables.executable.node? node = some info)
    (hcovers : st.forever.covers node info.component = true) :
    let run := Host.updateNode .history node provider s
    run.1 = .ok .empty ∧
      ∃ new, run.2.seen.moments = new ++ s.seen.moments ∧ ∀ m ∈ new, ∀ i a, m.step ≠ .started i a := by
  intro run
  obtain ⟨hanswer, hseen⟩ := Host.whileActive_of_active "update a node" (·.updateNode .history node provider) hactive
    hscene
  have hneeds : (st.openCall provider).needsUpdate (st.stack.height + 1) node info.component = false := by
    rw [EngineState.needsUpdate_openCall hst, hcovers, Bool.not_true]
  obtain ⟨hresult, new, hmoments, hstarted⟩ := updateNode_of_marked (r := ⟨st, s.counters, s.seen⟩)
    provider hnode hneeds
  have hexposed : (st.openCall provider).stack.exposedBy (st.stack.height + 1) node = .empty := by
    rw [hst]
    rfl
  exact ⟨hanswer.trans (hresult.trans (congrArg _ hexposed)), new,
    (congrArg History.moments hseen).trans hmoments, hstarted⟩

/-- Under a ceiling of one every handler is nested too deep. -/
theorem Session.nothing_started_of_ceiling (registry : Registry) (hceiling : limits.recursionDepth = 1)
    (calls : List HostCall) (call : HostCall) :
    let s := Session.recorded registry limits calls
    ∃ new, (call.perform .history s).2.seen.moments = new ++ s.seen.moments ∧
      ∀ m ∈ new, ∀ i a, m.step ≠ .started i a := by
  intro s
  obtain ⟨new, hnew, hfits⟩ := Session.fits_perform registry limits calls call
  refine ⟨new, hnew, fun m hm i a hstarted => ?_⟩
  obtain ⟨hlow, hhigh⟩ := (hfits m hm).2 i a hstarted
  omega

/-- Of limits that are accepted, only a ceiling of one is unusable. With any other, and a host that has opened no
frame, whose engine starts with no marks: an update of a node whose component is registered is the work of its handler
and succeeds as the handler does, unless a mark that lasts forever covers the node, which is then left as it is; if the
handler succeeds without fetching anything, so does the update. A trigger delivers the signal to the first inputs that
it reaches, and their handlers perform their scripts. With a ceiling of one no call ever starts a handler. -/
theorem accepted_limits_usable (registry : Registry) {limits : Limits} (haccepted : limits.validate = .ok ())
    (calls : List HostCall) {tables : Tables} {st : EngineState}
    (hactive : (Session.recorded registry limits calls).engine.active = some (tables, st))
    (hframes : (Session.recorded registry limits calls).engine.openFrames = 0) :
    let s := Session.recorded registry limits calls
    let scene : Scene := ⟨tables, registry, limits⟩
    (∀ before files, calls = before ++ [.activate files] →
      (Session.recorded registry limits before).engine.active = none → st.forever = .empty) ∧
    (limits.recursionDepth ≠ 1 →
      (∀ node provider info c handler, tables.executable.node? node = some info →
        registry.get? info.component = some c → c.update = some handler →
        let a := c.activation node info.attributes (.pull none)
        let run := Host.updateNode .history node provider s
        (st.forever.covers node info.component = false → ∃ (ms : List Moment) (outcome : Outcome Unit)
          (exposed : Table Value), run.2.seen.moments = ms.reverse ++ s.seen.moments ∧
            Moment.Works [] 1 a (handler a) outcome ms ∧ run.1 = outcome.map fun _ => exposed) ∧
        (st.forever.covers node info.component = true → run.1 = .ok .empty ∧
          ∃ new, run.2.seen.moments = new ++ s.seen.moments ∧ ∀ m ∈ new, ∀ i a, m.step ≠ .started i a) ∧
        ((handler a).Succeeds → ∃ exposed, run.1 = .ok exposed)) ∧
      ∀ socket source provider,
        let run := Host.triggerSignal .history socket (some source) provider s
        ∃ result new ds later, run.1 = .ok result ∧ run.2.seen.moments = new ++ s.seen.moments ∧
          deliveries 0 new.reverse = ds ++ later ∧
          ds.map Delivery.link = frontier scene socket (scene.sources socket source) ∧
          ∀ d ∈ ds, d.Obeys scene) ∧
    (limits.recursionDepth = 1 → ∀ call : HostCall, ∃ new,
      (call.perform .history s).2.seen.moments = new ++ s.seen.moments ∧
        ∀ m ∈ new, ∀ i a, m.step ≠ .started i a) := by
  intro s scene
  obtain ⟨hscene, hidle, hst⟩ := Session.recorded_idle hactive hframes
  obtain ⟨hpositive, hlevels⟩ := Limits.validate_eq_ok.1 haccepted
  refine ⟨?_, fun hceiling => ?_, ?_⟩
  · rintro before files rfl hinactive
    exact Session.forever_of_activated hinactive hactive
  · have hroom : 1 < scene.limits.recursionDepth := Nat.lt_of_le_of_ne hpositive (Ne.symm hceiling)
    refine ⟨fun node provider info c handler hnode hget hupdate => ?_, fun socket source provider =>
      Host.delivers_triggerSignal hactive hscene hidle hst hroom hlevels socket source provider⟩
    have hworks := Host.works_updateNode hactive hscene hidle hst hroom provider hnode hget hupdate
    have hcovered := Host.updateNode_of_covered hactive hscene hst provider hnode
    refine ⟨hworks, hcovered, fun hsucceeds => ?_⟩
    cases hcovers : st.forever.covers node info.component with
    | true => exact ⟨_, (hcovered hcovers).1⟩
    | false =>
      obtain ⟨ms, outcome, exposed, -, ⟨before, inside, after, g, st₁, st₂, -, hends⟩, hanswer⟩ := hworks hcovers
      obtain rfl := hsucceeds.outcome hends
      exact ⟨exposed, hanswer⟩
  · exact fun hceiling call => Session.nothing_started_of_ceiling registry hceiling calls call

end

def beaconUpdate : Script := .expose "r" (.int 1) .succeed

def beaconSignal : Script := .exposeSignal "lit" .succeed

theorem succeeds_beaconUpdate : beaconUpdate.Succeeds := by
  simp [beaconUpdate, Script.Succeeds, Script.Every, Script.succeed]

theorem succeeds_beaconSignal : beaconSignal.Succeeds := by
  simp [beaconSignal, Script.Succeeds, Script.Every, Script.succeed]

/-- A component whose nodes expose a number, and a signal for every signal that they get. -/
def beaconComponent : Component :=
  ⟨"beacon", [], some fun _ => beaconUpdate, some fun _ _ => beaconSignal⟩

/-- A beacon that sends its signals to another one. -/
def beaconTables : Tables :=
  ⟨.empty, ⟨.ofList [("a", ⟨"beacon", .empty⟩), ("b", ⟨"beacon", .empty⟩)], .empty,
    Table.empty.insert (socketKey "a" "o") [⟨"b", "i"⟩]⟩⟩

def beaconCalls : List HostCall := [.bind (.memory (.ofTables beaconTables)), .activate .none]

/-- A ceiling of two and a single level are enough. -/
theorem accepted_limits_usable_beacon :
    let s := Session.recorded (.ofComponents [beaconComponent]) ⟨2, 1⟩ beaconCalls
    let updated := Host.updateNode .history "a" none s
    let triggered := Host.triggerSignal .history "o" (some (.node "a")) none s
    (⟨2, 1⟩ : Limits).validate = .ok () ∧ s.engine.openFrames = 0 ∧
      (∃ ms exposed, updated.2.seen.moments = ms.reverse ++ s.seen.moments ∧
        Moment.Works [] 1 (beaconComponent.activation "a" .empty (.pull none)) beaconUpdate (.ok ()) ms ∧
        updated.1 = .ok exposed) ∧
      ∃ new d later, triggered.2.seen.moments = new ++ s.seen.moments ∧ deliveries 0 new.reverse = d :: later ∧
        d.link = ⟨"b", "i"⟩ ∧ d.outcome = some (.ok ()) := by
  intro s updated triggered
  have haccepted : (⟨2, 1⟩ : Limits).validate = .ok () := rfl
  have hactive : s.engine.active = some (beaconTables, .fresh) := rfl
  have hframes : s.engine.openFrames = 0 := rfl
  obtain ⟨-, husable, -⟩ := accepted_limits_usable (.ofComponents [beaconComponent]) haccepted beaconCalls hactive
    hframes
  obtain ⟨hupdates, htriggers⟩ := husable (by decide)
  refine ⟨haccepted, hframes, ?_, ?_⟩
  · obtain ⟨hworks, -, hsucceeds⟩ := hupdates "a" none ⟨"beacon", .empty⟩ beaconComponent _ rfl rfl rfl
    obtain ⟨ms, outcome, exposed, hms, hwork, hanswer⟩ := hworks rfl
    obtain ⟨exposed', hexposed⟩ := hsucceeds succeeds_beaconUpdate
    cases outcome with
    | error failure => exact nomatch hanswer.symm.trans hexposed
    | ok => exact ⟨ms, exposed, hms, hwork, hanswer⟩
  · obtain ⟨result, new, ds, later, -, hnew, hdeliveries, hlinks, hobey⟩ := htriggers "o" (.node "a") none
    have hfirst : ds.map Delivery.link = [⟨"b", "i"⟩] := hlinks
    obtain ⟨d, rfl, hd⟩ := List.map_eq_singleton_iff.1 hfirst
    have hscript : Scene.script? ⟨beaconTables, .ofComponents [beaconComponent], ⟨2, 1⟩⟩ d.link =
        some beaconSignal := by
      rw [hd]
      rfl
    have hobeys := hobey d List.mem_cons_self
    rw [Delivery.Obeys, hscript] at hobeys
    obtain ⟨outcome, houtcome, hends⟩ := hobeys
    obtain rfl := succeeds_beaconSignal.outcome hends
    dsimp only [triggered, s]
    exact ⟨new, d, later, hnew, hdeliveries, hd, houtcome⟩

/-- A ceiling of one is accepted as well, and the same update and the same trigger are refused. -/
theorem accepted_limits_refused :
    let s := Session.recorded (.ofComponents [beaconComponent]) ⟨1, 1024⟩ beaconCalls
    let updated := Host.updateNode .history "a" none s
    let triggered := Host.triggerSignal .history "o" (some (.node "a")) none s
    (⟨1, 1024⟩ : Limits).validate = .ok () ∧ s.engine.active = some (beaconTables, .fresh) ∧
      s.engine.openFrames = 0 ∧ beaconUpdate.Succeeds ∧ updated.1 = .error (.tooDeep "a" 1) ∧
      (∀ m ∈ updated.2.seen.moments, ∀ i a, m.step ≠ .started i a) ∧
      triggered.1 = .ok ⟨[], .empty, [.tooDeep "a" 1]⟩ ∧ deliveries 0 triggered.2.seen.moments.reverse = [] := by
  intro s updated triggered
  refine ⟨rfl, rfl, rfl, succeeds_beaconUpdate, rfl, ?_, rfl, rfl⟩
  have hceiling : (⟨1, 1024⟩ : Limits).recursionDepth = 1 := rfl
  obtain ⟨new, hnew, hstarted⟩ := Session.nothing_started_of_ceiling (.ofComponents [beaconComponent]) hceiling
    beaconCalls (.updateNode "a" none)
  have hmoments : updated.2.seen.moments = new := hnew.trans (List.append_nil new)
  rwa [hmoments]

end SocketGraph
