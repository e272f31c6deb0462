import SocketGraph.Proofs.Keys
import SocketGraph.Proofs.PassChains
import SocketGraph.Proofs.Termination
import SocketGraph.Proofs.Undisturbed

/-! Requests and connections. Whoever asks for a socket at an exit that the socket feeds has what a request for the
socket itself is answered with. Only where that is nothing the host is asked, which a request does not do. -/
namespace SocketGraph

/-- The tables with one more node, an exit that an output feeds. -/
def Tables.withExit (tables : Tables) (out : NodeId) (typeTag : String) (l : Link) : Tables :=
  let b : Builder := ⟨tables, .empty⟩
  (((b.node out (exitName typeTag) .null).connect l ⟨out, "input"⟩).expose ⟨out, "input"⟩ typeTag).tables

/-- A node that is not part of a graph, and that nothing in the graph refers to; nor has its input the key of a socket
of the graph. -/
structure Scene.Vacant (scene : Scene) (out : NodeId) : Prop where
  unknown : scene.tables.executable.node? out = none
  unfed : scene.tables.executable.producers out "input" = []
  apart : ∀ l : Link, (scene.tables.executable.node? l.node).isSome → ¬ l.Overlaps ⟨out, "input"⟩
  producers : ∀ node socket, ∀ l ∈ scene.tables.executable.producers node socket, l.node ≠ out
  consumers : ∀ node socket, ∀ l ∈ scene.tables.executable.consumers node socket, l.node ≠ out
  update : ∀ {c a}, scene.Instance c a → ∀ handler, c.update = some handler →
    (handler a).Every fun rest => rest.pulled? ≠ some out
  signal : ∀ {c a}, scene.Instance c a → ∀ handler, c.signal = some handler → ∀ socket,
    (handler a socket).Every fun rest => rest.pulled? ≠ some out

/-- A socket that the handlers of its node never expose. -/
structure Scene.Unexposed (scene : Scene) (l : Link) : Prop where
  update : ∀ {c a}, scene.Instance c a → a.node = l.node → ∀ handler, c.update = some handler →
    (handler a).Every fun rest => ∀ v, rest.keeps? ≠ some (.exposed, l.socket, v)
  signal : ∀ {c a}, scene.Instance c a → a.node = l.node → ∀ handler, c.signal = some handler → ∀ socket,
    (handler a socket).Every fun rest => ∀ v, rest.keeps? ≠ some (.exposed, l.socket, v)

/-- What two things that hold at every operation of a script give together holds at every operation. -/
theorem Script.Every.both {P Q R : Script → Prop} {s : Script} (hp : s.Every P)
    (h : ∀ rest, P rest → Q rest → R rest) (hq : s.Every Q) : s.Every R := by
  induction s with
  | done outcome => exact h _ hp hq
  | fetch _ _ ih | hasExposed _ _ ih | count _ _ ih | pullScene _ _ _ ih | pushScene _ _ _ ih =>
    exact ⟨h _ hp.1 hq.1, fun answer => ih answer (hp.2 answer) (hq.2 answer)⟩
  | push _ _ _ ih | expose _ _ _ ih | mark _ _ _ ih => exact ⟨h _ hp.1 hq.1, ih hp.2 hq.2⟩
  | exposeSignal _ _ ih | forward _ _ ih | emit _ _ ih => exact ⟨h _ hp.1 hq.1, ih hp.2 hq.2⟩

theorem Script.Every.mono {P Q : Script → Prop} {s : Script} (hp : s.Every P) (h : ∀ rest, P rest → Q rest) :
    s.Every Q := hp.both (fun rest hp _ => h rest hp) hp

namespace Tables

variable {tables : Tables} {out : NodeId} {typeTag : String} {l : Link}

theorem node?_withExit (node : NodeId) : (tables.withExit out typeTag l).executable.node? node =
    if node = out then some ⟨exitName typeTag, .empty⟩ else tables.executable.node? node :=
  Table.get?_insert ..

theorem producers_withExit (node : NodeId) (socket : String) :
    (tables.withExit out typeTag l).executable.producers node socket =
      if socketKey node socket = socketKey out "input" then tables.executable.producers out "input" ++ [l]
      else tables.executable.producers node socket := by
  unfold Executable.producers
  change ((Table.modifyD ..).get? _).getD [] = _
  rw [Table.modifyD, Table.get?_insert]
  split_ifs <;> rfl

theorem isSome_socket?_withExit : ((tables.withExit out typeTag l).exposed.socket? out "input").isSome := by
  unfold ExposedIndex.socket?
  change ((Table.insert ..).get? _).isSome = true
  rw [Table.get?_insert_self]
  rfl

end Tables

/-- The exit waits for the output that feeds it. -/
def Standby.atExit (scene : Scene) (out : NodeId) (typeTag : String) (l : Link) : Standby :=
  ⟨1, (exitComponent typeTag).component.activation out .empty (.pull (some "input")), "input", l,
    fun node => node ≠ out ∧ (scene.tables.executable.node? node).isSome⟩

/-- A graph with one more exit fits the graph without it. -/
theorem Scene.Vacant.fits {scene : Scene} {out : NodeId} {typeTag : String} {l : Link} (h : scene.Vacant out)
    (hunexposed : scene.Unexposed l) (hl : l.node ≠ out) :
    (Standby.atExit scene out typeTag l).Fits scene { scene with tables := scene.tables.withExit out typeTag l } := by
  have hkey {node : NodeId} (hnode : node ≠ out) (hknown : (scene.tables.executable.node? node).isSome)
      (socket : String) : socketKey node socket ≠ socketKey out "input" := by
    change Link.key ⟨node, socket⟩ ≠ Link.key ⟨out, "input"⟩
    rw [Ne, Link.key_eq_iff]
    rintro (heq | hoverlaps | hoverlaps)
    · exact hnode (congrArg Link.node heq)
    · exact h.apart _ hknown hoverlaps
    · exact Link.not_overlaps (by simp) _ hoverlaps
  have hrespects {a : Activation} {script : Script} (hpulled : script.Every fun rest => rest.pulled? ≠ some out)
      (hexposed : a.node = l.node → script.Every fun rest => ∀ v, rest.keeps? ≠ some (.exposed, l.socket, v)) :
      (Standby.atExit scene out typeTag l).Respects a script := by
    by_cases ha : a.node = l.node
    · exact hpulled.both (fun _ hp hq => ⟨hp, fun _ => hq⟩) (hexposed ha)
    · exact hpulled.mono fun _ hp => ⟨hp, fun hnode => absurd hnode ha⟩
  refine ⟨rfl, rfl, fun {node} hnode => ?_, fun hinfo hnode => ⟨hnode, hinfo ▸ rfl⟩,
    fun {node} hpeer socket => ?_, fun _ _ => rfl, fun node socket => ?_,
    h.consumers, fun hmade handler hc => ?_, fun hmade handler hc socket => ?_⟩
  · exact (Tables.node?_withExit node).trans (if_neg hnode)
  · exact (Tables.producers_withExit node socket).trans (if_neg (hkey hpeer.1 hpeer.2 socket))
  · change ∀ l' ∈ (scene.tables.withExit out typeTag l).executable.producers node socket, l'.node ≠ out
    rw [Tables.producers_withExit, h.unfed]
    split_ifs
    · exact List.forall_mem_singleton.2 hl
    · exact h.producers node socket
  · exact hrespects (h.update hmade handler hc) fun ha => hunexposed.update hmade ha handler hc
  · exact hrespects (h.signal hmade handler hc socket) fun ha => hunexposed.signal hmade ha handler hc socket

/-! What a component does that has no handlers of its own. -/

/-- Nothing is evaluated in a linked scene first, and the socket is not exposed. -/
def Script.Quiet (socket : String) (rest : Script) : Prop :=
  rest.pulled? = none ∧ ∀ v, rest.keeps? ≠ some (.exposed, socket, v)

theorem Script.Quiet.of_none {socket : String} {rest : Script} (hpulled : rest.pulled? = none)
    (hkeeps : rest.keeps? = none) : rest.Quiet socket := ⟨hpulled, fun v => by simp [hkeeps]⟩

namespace NodeComponent

variable {socket : String}

theorem every_exposeInputs {rest : Script} (hrest : rest.Every (Script.Quiet socket)) {ss : List Socket}
    (hss : ∀ s ∈ ss, s.name ≠ socket) : ((exposeInputs ss).andThen rest).Every (Script.Quiet socket) := by
  induction ss with
  | nil => exact hrest
  | cons s ss ih =>
    obtain ⟨hs, hss⟩ := List.forall_mem_cons.1 hss
    refine ⟨.of_none rfl rfl, fun answer => ?_⟩
    cases answer with
    | true => exact ih hss
    | false =>
      refine ⟨.of_none rfl rfl, fun answer => ?_⟩
      rcases answer with failure | _ | v
      · exact Script.Quiet.of_none rfl rfl
      · exact ih hss
      · exact ⟨⟨rfl, fun v' => by simp [Script.keeps?, hs]⟩, ih hss⟩

variable (c : NodeComponent) (a : Activation)

theorem every_updateScript (hupdate : c.update = none) (hinputs : ∀ s ∈ c.exposedInputs, s.name ≠ socket) :
    (c.updateScript a).Every (Script.Quiet socket) := by
  have hremember : c.remember.Every (Script.Quiet socket) := by
    rw [remember]
    cases c.memory with
    | none => exact .of_none rfl rfl
    | some memory => exact ⟨.of_none rfl rfl, .of_none rfl rfl⟩
  rw [updateScript, hupdate]
  exact every_exposeInputs hremember hinputs

theorem every_signalScript (hsignal : c.signal = none) (received : String) :
    (c.signalScript a received).Every (Script.Quiet socket) := by
  rw [signalScript, hsignal]
  dsimp only
  split_ifs
  · exact ⟨.of_none rfl rfl, .of_none rfl rfl⟩
  · exact .of_none rfl rfl

end NodeComponent

/-! What an exit does. -/

section
variable {ω : Type} {scene : Scene} {watch : Watcher ω} {below : Calls ω} {i : Nat} {r : Run ω} (alarm : watch.Alarm)

/-- The second run goes on from the first, and has not taken an alarm back since. -/
def Watcher.Alarm.Since (r t : Run ω) : Prop := alarm.raised r.seen → alarm.raised t.seen

theorem provide_of_host {p : Option Provider} (hprovider : r.state.stack.provider? i = p.map .host) (l : Link) :
    ∃ t, provide scene watch below i l r = (.ok (answer? p l), t) ∧ t.state = r.state ∧ alarm.Since r t := by
  rw [provide, lookupWithin, Action.readStack_bind_apply, hprovider]
  cases p with
  | none => exact ⟨r, rfl, rfl, id⟩
  | some p =>
    refine ⟨(askHost watch p l r).2, ?_, ?_, ?_⟩
    · exact Prod.ext (congrArg Except.ok (Upkeep.answer_askHost p l r)) rfl
    · unfold askHost
      split_ifs <;> rfl
    · unfold askHost
      split_ifs
      · exact alarm.event _
      · exact id

variable (scene) in
/-- An output that nobody knows yet is what its evaluation leaves, or else what the host answers. -/
theorem resolveProducer_of_evaluated {p : Option Provider} {l : Link} (hunknown : r.state.stack.output? i l = none)
    {outcome : Outcome (Table Value)} {u : Run ω}
    (hevaluated : below.evaluate i l.node (some l.socket) r = (outcome, u))
    (hprovider : u.state.stack.provider? i = p.map .host) :
    ∃ t, resolveProducer below (provide scene watch below) i l r =
        (outcome.map fun _ => (u.state.stack.output? i l).or (answer? p l), t) ∧
      t.state = u.state ∧ alarm.Since u t := by
  rw [resolveProducer_of_unknown _ _ hunknown, hevaluated]
  cases outcome with
  | error failure => exact ⟨u, rfl, rfl, id⟩
  | ok exposed =>
    dsimp only
    cases houtput : u.state.stack.output? i l with
    | some v => exact ⟨u, rfl, rfl, id⟩
    | none => exact provide_of_host alarm hprovider l

variable {a : Activation} {l : Link} {answer : Outcome (Option Value)} {u : Run ω}

/-- The input of an exit is resolved by the output that feeds it, and kept. -/
theorem fetchInput_of_single {socket : String} (hactive : r.state.stack.active? i = some a)
    (hunkept : r.state.stack.input? i ⟨a.node, socket⟩ = none)
    (hfed : scene.tables.executable.producers a.node socket = [l]) (hsingle : collects a.sockets socket [l] = false)
    (hresolved : resolveProducer below (provide scene watch below) i l r = (answer, u)) :
    ∃ t, fetchInput scene watch below i socket r = (answer, t) ∧ alarm.Since u t ∧
      t.state.stack.height = u.state.stack.height ∧ (answer = .ok none → t.state = u.state) := by
  have hresolve : resolveInput scene below (provide scene watch below) i a socket r = (answer, u) := by
    rw [← hresolved, resolveInput, hfed]
    dsimp only
    rw [hsingle]
    rfl
  rw [fetchInput, fetchWith, Action.readStack_bind_apply, hactive]
  change ∃ t, inputOf scene watch below _ i a socket r = _ ∧ _
  rw [inputOf, Action.readStack_bind_apply, hunkept]
  dsimp only
  rw [Action.bind_apply, hresolve]
  rcases answer with failure | _ | v
  · exact ⟨u, rfl, id, rfl, fun _ => rfl⟩
  · exact ⟨u, rfl, id, rfl, fun _ => rfl⟩
  · refine ⟨(Action.changeStack watch (·.putInput i ⟨a.node, socket⟩ v) u).2, rfl, alarm.step _ _, ?_, by simp⟩
    exact FrameStack.height_writeThrough ..

/-- What an exit does once it has been looked whether its input is exposed already. -/
def exitFetching : Bool → Script
  | true => .succeed
  | false => .fetched "input" fun v => .expose "input" v .succeed

/-- What an exit does once its input has been asked for. -/
def exitExposing : Outcome (Option Value) → Script
  | .error failure => .fail failure
  | .ok none => .succeed
  | .ok (some v) => .expose "input" v .succeed

variable (below) in
/-- An exit exposes what the output has that feeds it. -/
theorem perform_exitScript {typeTag : String} (htype : typeTag ≠ signalType)
    (hactive : r.state.stack.active? i = some a) (hunexposed : r.state.stack.exposed? i ⟨a.node, "input"⟩ = none)
    (hunkept : r.state.stack.input? i ⟨a.node, "input"⟩ = none)
    (hfed : scene.tables.executable.producers a.node "input" = [l]) (hsingle : collects a.sockets "input" [l] = false) :
    ∃ asked : Run ω, asked.state = r.state ∧ asked.counters = r.counters ∧ ∀ {answer u},
      resolveProducer below (provide scene watch below) i l asked = (answer, u) → i < u.state.stack.height →
      ∃ t, perform scene watch below i a ((exitComponent typeTag).updateScript a) r = (answer.map fun _ => (), t) ∧
        alarm.Since u t ∧ (∀ v, answer = .ok (some v) → t.state.stack.exposed? i ⟨a.node, "input"⟩ = some v) ∧
        (answer = .ok none → t.state = u.state) := by
  have hscript : (exitComponent typeTag).updateScript a = .hasExposed "input" exitFetching :=
    (updateScript_exitComponent htype a).trans (congrArg _ (funext fun b => by cases b <;> rfl))
  have hfetching : exitFetching false = .fetch "input" exitExposing :=
    congrArg (Script.fetch "input") (funext fun answer => by rcases answer with failure | _ | v <;> rfl)
  let noted := (Action.note watch (.performed i a (.hasExposed "input" exitFetching)) r).2
  let asked := (Action.note watch (.performed i a (.fetch "input" exitExposing)) noted).2
  refine ⟨asked, rfl, rfl, fun {answer u} hresolved hpresent => ?_⟩
  obtain ⟨t, hfetch, hsince, hheight, hnone⟩ :=
    fetchInput_of_single alarm (r := asked) hactive hunkept hfed hsingle hresolved
  have hperform : perform scene watch below i a ((exitComponent typeTag).updateScript a) r =
      perform scene watch below i a (exitExposing answer) t := by
    rw [hscript, perform, Action.bind_apply, Action.readStack_bind_apply]
    change perform scene watch below i a (exitFetching (r.state.stack.exposed? i ⟨a.node, "input"⟩).isSome) noted = _
    rw [hunexposed, Option.isSome_none, hfetching, perform]
    change perform scene watch below i a (exitExposing (fetchInput scene watch below i "input" asked).1)
      (fetchInput scene watch below i "input" asked).2 = _
    rw [hfetch]
  rw [hperform]
  rcases answer with failure | _ | v
  · exact ⟨t, rfl, hsince, by simp, by simp⟩
  · exact ⟨t, rfl, hsince, by simp, hnone⟩
  · refine ⟨_, rfl, fun h => alarm.step _ _ (alarm.step _ _ (hsince h)), fun v' hv => ?_, by simp⟩
    obtain rfl : v = v' := Option.some.inj (Except.ok.inj hv)
    exact FrameStack.kept?_keep_self (hheight.symm ▸ hpresent) .exposed ⟨a.node, "input"⟩ v

/-- A node that is not nested too deep performs its script. -/
theorem runUpdate_of_shallow {c : Component} (hdepth : r.state.nesting < scene.limits.recursionDepth)
    {handler : Activation → Script} (hc : c.update = some handler) :
    runUpdate scene watch below i c a r =
      let logged := (Action.log watch (.evaluating a.node a.component a.requested? r.state.nesting) r).2
      let performed := perform scene watch below i a (handler a) (Action.note watch (.started i a) logged).2
      (performed.1, (Action.note watch (.finished i a performed.1) performed.2).2) := by
  rw [runUpdate_apply, if_neg (not_le_of_gt hdepth), attempt, hc]
  rfl

section
variable {node : NodeId} {requested : Option String} {c : Component}
  (ha : scene.activation node requested = .ok (c, a))
  (hneeds : ∀ component, r.state.needsUpdate i node component = true)
include ha hneeds

theorem evaluateAt_of_updated {outcome : Outcome Unit} {u : Run ω}
    (hupdated : runUpdate scene watch below i c a ((r.change watch (·.enter i a)).change watch .deeper) =
      (outcome, u)) :
    let left := (u.change watch .shallower).change watch (·.leave i)
    evaluateAt scene watch below i node requested r =
      (outcome.map fun _ => left.state.stack.exposedBy i node, left) := by
  have hrun : runUpdate scene watch below i c a
      (Action.changeState watch .deeper (Action.changeStack watch (·.enter i a) r).2).2 = (outcome, u) := hupdated
  simp only [evaluateAt_apply watch below ha hneeds, hrun]
  cases outcome <;> rfl

theorem raised_evaluateAt_of_deep (hdeep : scene.limits.recursionDepth ≤ r.state.nesting + 1) :
    alarm.raised (evaluateAt scene watch below i node requested r).2.seen := by
  let entered := (r.change watch (·.enter i a)).change watch .deeper
  have hrefused : alarm.raised (runUpdate scene watch below i c a entered).2.seen := by
    rw [runUpdate_apply, if_pos (show _ ≤ entered.state.nesting from hdeep)]
    exact alarm.limit _ _ _
  rw [evaluateAt_of_updated ha hneeds rfl]
  exact alarm.step _ _ (alarm.step _ _ hrefused)

end

variable (below) in
/-- An exit that is evaluated asks for the output that feeds it, and shows what that has. -/
theorem evaluateAt_exit {out : NodeId} {requested : Option String} {typeTag : String} (htype : typeTag ≠ signalType)
    (ha : scene.activation out requested = .ok ((exitComponent typeTag).component, a))
    (hneeds : ∀ component, r.state.needsUpdate i out component = true) (hpresent : i < r.state.stack.height)
    (hdepth : r.state.nesting + 1 < scene.limits.recursionDepth)
    (hunexposed : r.state.stack.exposed? i ⟨out, "input"⟩ = none)
    (hunkept : r.state.stack.input? i ⟨out, "input"⟩ = none)
    (hfed : scene.tables.executable.producers out "input" = [l]) :
    ∃ asked : Run ω, asked.state = (r.state.enter i a).deeper ∧ asked.counters = r.counters ∧ ∀ {answer u},
      resolveProducer below (provide scene watch below) i l asked = (answer, u) → i < u.state.stack.height →
      ∃ t, evaluateAt scene watch below i out requested r =
          (answer.map fun _ => t.state.stack.exposedBy i out, t) ∧
        alarm.Since u t ∧ (∀ v, answer = .ok (some v) → t.state.stack.exposed? i ⟨out, "input"⟩ = some v) ∧
        (answer = .ok none → t.state.stack = u.state.stack.leave i) := by
  obtain ⟨info, -, -, ha'⟩ := Scene.activation_eq_ok.1 ha
  obtain rfl := ha'
  let a := (exitComponent typeTag).component.activation out info.attributes (.pull requested)
  let entered := (r.change watch (·.enter i a)).change watch .deeper
  let logged := (Action.log watch (.evaluating a.node a.component a.requested? entered.state.nesting) entered).2
  let started := (Action.note watch (.started i a) logged).2
  have hcontents (cache : Cache) (l : Link) : started.state.stack.kept? i cache l = r.state.stack.kept? i cache l :=
    FrameStack.kept?_of_contents (.enter r.state.stack i a) i cache l
  obtain ⟨asked, hstate, hcounters, hasked⟩ := perform_exitScript below alarm (r := started) htype
    (FrameStack.active?_enter_self hpresent a) ((hcontents .exposed _).trans hunexposed)
    ((hcontents .input _).trans hunkept) hfed rfl
  refine ⟨asked, hstate, hcounters, fun {answer u} hresolved hheight => ?_⟩
  obtain ⟨t, hperform, hsince, hsome, hnone⟩ := hasked hresolved hheight
  let finished := (Action.note watch (.finished i a (answer.map fun _ => ())) t).2
  have hupdate : runUpdate scene watch below i (exitComponent typeTag).component a entered =
      (answer.map fun _ => (), finished) := by
    rw [runUpdate_of_shallow (c := (exitComponent typeTag).component) hdepth rfl]
    change ((perform scene watch below i a _ started).1, (Action.note watch (.finished i a _) _).2) = _
    rw [hperform]
  let left := (finished.change watch .shallower).change watch (·.leave i)
  refine ⟨left, ?_, ?_, fun v hv => ?_, fun hv => ?_⟩
  · rw [evaluateAt_of_updated ha hneeds hupdate]
    cases answer <;> rfl
  · exact fun h => alarm.step _ _ (alarm.step _ _ (alarm.step _ _ (hsince h)))
  · exact (FrameStack.kept?_of_contents (.leave _ i) i .exposed _).trans (hsome v hv)
  · have hstack : t.state.stack = u.state.stack := congrArg EngineState.stack (hnone hv)
    exact congrArg (FrameStack.leave · i) hstack

end

/-- The calls of a handler that the host has set off have levels enough to do what the calls of the host would. -/
theorem Scene.evaluate_calls_of_allowance {ω : Type} (scene : Scene) (watch : Watcher ω)
    (hdepth : 1 < scene.limits.recursionDepth) (i : Nat) (node : NodeId) (requested : Option String) {r : Run ω}
    (hnesting : r.state.nesting = 1) : (scene.calls watch scene.limits.allowance).evaluate i node requested r =
      (scene.hostCalls watch).evaluate i node requested r := by
  obtain ⟨levels, hlevels⟩ : ∃ levels, scene.limits.allowance = levels + 1 :=
    Nat.exists_eq_add_one_of_ne_zero (by rw [Limits.allowance]; omega)
  have hdepth : scene.limits.recursionDepth = levels + 2 := by
    rw [Limits.allowance] at hlevels
    omega
  obtain ⟨hevaluate, -⟩ := Likeness.agree_callsOver (n := 1) (Likeness.lasting_same watch)
    (fun _ => Likeness.counting_same watch) (scene.registry.counts_of_allowed trivial) (.exhausted scene)
    (.exhausted scene) levels (levels + 1) (by omega) (by omega)
  rw [Scene.hostCalls, Scene.calls_eq_callsOver, Scene.calls_eq_callsOver, hlevels]
  obtain ⟨hanswer, hrun, -⟩ := hevaluate i node requested r r rfl hnesting
  exact Prod.ext hanswer hrun

/-- What a request answers with: what is exposed at a socket, or else the output. -/
def FrameStack.shown? (s : FrameStack) (i : Nat) (l : Link) : Option Value := (s.exposed? i l).or (s.output? i l)

theorem FrameStack.shown?_under {w : Standby} (s : FrameStack) (i : Nat) (l : Link) :
    (s.under w).shown? i l = s.shown? i l :=
  congrArg₂ Option.or (s.readThrough_under (fun _ _ => rfl) i) (s.readThrough_under (fun _ _ => rfl) i)

section
variable {ω : Type} {scene : Scene} {watch : Watcher ω} (alarm : watch.Alarm) {out : NodeId} {typeTag : String}
  {a : Activation} {l : Link} {p : Option Provider} {r : Run ω}

/-- In the first frames of a call an exit has the node evaluated that feeds it, and shows the value of that output or
else the answer of the host. -/
theorem evaluate_exit_of_call (htype : typeTag ≠ signalType)
    (ha : scene.activation out (some "input") = .ok ((exitComponent typeTag).component, a))
    (hfed : scene.tables.executable.producers out "input" = [l]) (hdepth : 1 < scene.limits.recursionDepth)
    (hr : r.state = EngineState.fresh.openCall p) :
    ∃ started : Run ω, started.state = (r.state.enter 1 a).deeper ∧ started.counters = r.counters ∧ ∀ {outcome u},
      (scene.hostCalls watch).evaluate 1 l.node (some l.socket) started = (outcome, u) →
      ∃ t, (scene.hostCalls watch).evaluate 1 out (some "input") r =
          (outcome.map fun _ => t.state.stack.exposedBy 1 out, t) ∧ alarm.Since u t ∧
        ∀ exposed, outcome = .ok exposed → t.state.stack.shown? 1 ⟨out, "input"⟩ =
          ((u.state.stack.output? 1 l).or (answer? p l)).or (u.state.stack.shown? 1 ⟨out, "input"⟩) := by
  have hneeds (component : String) : r.state.needsUpdate 1 out component = true := by
    rw [hr]
    rfl
  have hnesting : r.state.nesting = 0 := by
    rw [hr]
    rfl
  have hheight : r.state.stack.height = 2 := by
    rw [hr]
    exact EngineState.height_openCall _ p
  have hblank : r.state.stack.Blank := by
    rw [hr]
    exact (FrameStack.Blank.empty.push true none).push true _
  obtain ⟨started, hstate, hcounters, hexit⟩ := evaluateAt_exit (scene.calls watch scene.limits.allowance) alarm
    htype ha hneeds (hheight ▸ Nat.one_lt_two) (hnesting ▸ hdepth) (hblank.kept? 1 .exposed _) (hblank.kept? 1 .input _)
    hfed
  refine ⟨started, hstate, hcounters, fun {outcome u} hevaluated => ?_⟩
  have hstack : started.state.stack = r.state.stack.enter 1 a := congrArg EngineState.stack hstate
  have hstarted : started.state.stack.height = 2 := by rw [hstack, FrameStack.height_enter, hheight]
  have hkeeps : (Upkeep.steadfast scene watch).keeps started u := by
    have hserves := (Upkeep.steadfast scene watch).serves_calls (scene.limits.allowance + 1)
    have hended : ((scene.hostCalls watch).evaluate 1 l.node (some l.socket) started).2 = u :=
      congrArg Prod.snd hevaluated
    exact hended ▸ hserves.evaluate 1 l.node _ started (hstarted ▸ Nat.one_lt_two)
  have hprovider : u.state.stack.provider? 1 = p.map .host := by
    rw [FrameStack.provider?_of_fittings hkeeps.2.1, hstack, FrameStack.provider?_enter, hr]
    cases p <;> rfl
  have hunknown : started.state.stack.output? 1 l = none := by
    rw [hstack]
    exact (hblank.of_contents (.enter _ 1 a)).kept? 1 .output l
  have hinner : (scene.calls watch scene.limits.allowance).evaluate 1 l.node (some l.socket) started = (outcome, u) :=
    (scene.evaluate_calls_of_allowance watch hdepth 1 l.node _ (hstate ▸ congrArg (· + 1) hnesting)).trans hevaluated
  obtain ⟨t, hresolved, hanswered, hsince⟩ :=
    resolveProducer_of_evaluated scene alarm hunknown hinner hprovider
  have hpresent : 1 < t.state.stack.height := by
    rw [hanswered, (Upkeep.steadfast scene watch).height hkeeps, hstarted]
    exact Nat.one_lt_two
  obtain ⟨t', hpassed, hsince', hsome, hnone⟩ := hexit hresolved hpresent
  refine ⟨t', hpassed.trans ?_, fun h => hsince' (hsince h), fun exposed hexposed => ?_⟩
  · cases outcome <;> rfl
  · subst hexposed
    cases hanswer : (u.state.stack.output? 1 l).or (answer? p l) with
    | some v =>
      rw [FrameStack.shown?, hsome v (congrArg Except.ok hanswer)]
      rfl
    | none =>
      have hleft : t'.state.stack = u.state.stack.leave 1 :=
        (hnone (congrArg Except.ok hanswer)).trans (congrArg (fun st : EngineState => st.stack.leave 1) hanswered)
      have hcontents (cache : Cache) := FrameStack.kept?_of_contents (.leave u.state.stack 1) 1 cache ⟨out, "input"⟩
      rw [hleft]
      exact (congrArg₂ Option.or (hcontents .exposed) (hcontents .output)).trans (Option.none_or ..).symm

end

section
variable {ω ω' : Type} {scene : Scene} {watch : Watcher ω} {watch' : Watcher ω'} (alarm : watch'.Alarm)
  {out : NodeId} {typeTag : String} {l : Link} {p : Option Provider} {r : Run ω} {r' : Run ω'}

/-- Where nothing has been kept before and what is told is left as it was, the node that stands by has nothing of its
own to show, and the output that it waits for shows nothing but what has been pushed. -/
theorem Standby.Spares.shown?_under {w : Standby} {st st' : EngineState} (h : w.Spares st st') (hblank : st.stack.Blank)
    (i : Nat) (answer : Option Value) :
    (((st'.under w).stack.output? i w.output).or answer).or ((st'.under w).stack.shown? i w.input) =
      (st'.stack.shown? i w.output).or answer := by
  have hsilent : st'.stack.exposed? i w.output = none :=
    (FrameStack.readThrough_of_view h.view (·.2.1) i).trans (hblank.kept? i .exposed _)
  have hwaiting : st'.stack.shown? i w.input = none :=
    congrArg₂ Option.or ((FrameStack.readThrough_of_view h.view (·.2.2.1) i).trans (hblank.kept? i .exposed _))
      ((FrameStack.readThrough_of_view h.view (·.2.2.2) i).trans (hblank.kept? i .output _))
  have houtput : (st'.stack.under w).output? i w.output = st'.stack.output? i w.output :=
    st'.stack.readThrough_under (fun _ _ => rfl) i
  change (((st'.stack.under w).output? i w.output).or answer).or ((st'.stack.under w).shown? i w.input) = _
  rw [houtput, FrameStack.shown?_under, hwaiting, Option.or_none, FrameStack.shown?, hsilent, Option.none_or]

variable (watch) in
/-- In the first frames of a call an exit is asked for its input, and in another run its output is asked for. Both
have the same, unless the limit of the nesting is reached, or the output has nothing. -/
theorem inquiries_agree (hvacant : scene.Vacant out) (hunexposed : scene.Unexposed l) (hl : l.node ≠ out)
    (htype : typeTag ≠ signalType)
    (hexit : scene.registry.get? (exitName typeTag) = some (exitComponent typeTag).component)
    (hr : r.state = EngineState.fresh.openCall p) (hr' : r'.state = EngineState.fresh.openCall p)
    (hcounters : r'.counters = r.counters) :
    let connected : Scene := { scene with tables := scene.tables.withExit out typeTag l }
    let asked : Outcome (Table Value) × Run ω := (scene.hostCalls watch).evaluate 1 l.node (some l.socket) r
    let passed : Outcome (Table Value) × Run ω' := (connected.hostCalls watch').evaluate 1 out (some "input") r'
    alarm.raised passed.2.seen ∨
      (passed.1.map fun _ => passed.2.state.stack.shown? 1 ⟨out, "input"⟩) =
        asked.1.map fun _ => (asked.2.state.stack.shown? 1 l).or (answer? p l) := by
  intro connected asked passed
  let w := Standby.atExit scene out typeTag l
  have ha : connected.activation out (some "input") = .ok ((exitComponent typeTag).component, w.waiter) :=
    connected.activation_of_made ((Tables.node?_withExit out).trans (if_pos rfl)) hexit _
  by_cases hdepth : scene.limits.recursionDepth ≤ 1
  -- the exit itself is refused
  · exact .inl (raised_evaluateAt_of_deep alarm ha (fun _ => hr' ▸ rfl) (by rw [hr']; exact hdepth))
  have hblank : r.state.stack.Blank := by
    rw [hr]
    exact (FrameStack.Blank.empty.push true none).push true _
  have hfed : connected.tables.executable.producers out "input" = [l] := by
    refine (Tables.producers_withExit out "input").trans ?_
    rw [if_pos rfl, hvacant.unfed]
    rfl
  obtain ⟨started, hstate, hstarted, hpassed⟩ := evaluate_exit_of_call alarm htype ha hfed (not_le.1 hdepth) hr'
  -- while the exit waits for its input, both runs evaluate the same node, one of them below the exit
  have hjoins : w.Joins r started := by
    refine ⟨?_, hstarted.trans hcounters⟩
    rw [hstate, hr', hr]
    rfl
  have hentered (a : Activation) (ha : w.peers a.node) : w.Holds (r.state.stack.enter 1 a) := by
    have hidle (j : Nat) : (EngineState.fresh.openCall p).stack.activeOn j = [] := by rcases j with _ | _ | j <;> rfl
    rw [hr]
    exact .of_idle hidle (EngineState.height_openCall .fresh p ▸ Nat.one_lt_two) ha
  have hfits : w.Fits scene connected := hvacant.fits hunexposed hl
  have hfollows : w.Follows alarm ((scene.hostCalls watch).evaluate 1 l.node (some l.socket))
      ((connected.hostCalls watch').evaluate 1 l.node (some l.socket)) r started :=
    Standby.follows_evaluateAt hfits (Standby.undisturbed_calls hfits watch alarm scene.limits.allowance) hl 1
      (some l.socket) hentered hjoins
  rcases hfollows with hraised | hagrees
  · obtain ⟨t, hevaluated, hsince, -⟩ := hpassed rfl
    have hended : passed.2 = t := congrArg Prod.snd hevaluated
    exact .inl (hended ▸ hsince hraised)
  · obtain ⟨t, hevaluated, -, hshown⟩ := hpassed (Prod.ext hagrees.answer rfl)
    replace hevaluated : passed = (asked.1.map fun _ => t.state.stack.exposedBy 1 out, t) := hevaluated
    refine .inr ?_
    rw [hevaluated]
    cases hasked : asked.1 with
    | error failure => rfl
    | ok exposed =>
      refine congrArg Except.ok ((hshown exposed hasked).trans ?_)
      let shown (st : EngineState) : Option Value :=
        ((st.stack.output? 1 l).or (answer? p l)).or (st.stack.shown? 1 ⟨out, "input"⟩)
      exact (congrArg shown hagrees.joins.state).trans (hagrees.spares.shown?_under hblank 1 _)

end

/-- A request in a call of its own answers with what its evaluation shows. -/
theorem Scene.requestValue_of_evaluated {ω : Type} (scene : Scene) (watch : Watcher ω) {l : Link} (p : Option Provider)
    {r : Run ω} (hindexed : (scene.tables.exposed.socket? l.node l.socket).isSome = true)
    (hr : r.state = .fresh) :
    ∃ opened : Run ω, opened.state = EngineState.fresh.openCall p ∧ opened.counters = r.counters ∧
      let evaluated : Outcome (Table Value) × Run ω :=
        (scene.hostCalls watch).evaluate 1 l.node (some l.socket) opened
      ∃ t, scene.requestValue watch l.node l.socket p r =
          (evaluated.1.map fun _ => evaluated.2.state.stack.shown? 1 l, t) ∧
        ∀ alarm : watch.Alarm, alarm.Since evaluated.2 t := by
  obtain ⟨socket, hsocket⟩ := Option.isSome_iff_exists.1 hindexed
  obtain ⟨st, counters, seen⟩ := r
  obtain rfl : st = .fresh := hr
  let logged := (Action.log watch (.requested l.node l.socket) ⟨.fresh, counters, seen⟩).2
  let opened := (logged.change watch (·.push (.fresh true none))).change watch (·.push (.fresh true (p.map .host)))
  refine ⟨opened, rfl, rfl, ?_⟩
  intro evaluated
  have hexposed (exposed : Table Value) (h : evaluated.1 = .ok exposed) :
      exposed.get? l.socket = evaluated.2.state.stack.exposed? 1 l := by
    rw [exposedBy_evaluateAt h, FrameStack.get?_exposedBy]
    rfl
  have hevaluated : (scene.hostCalls watch).evaluate 1 l.node (some l.socket) opened = evaluated := rfl
  clear_value evaluated
  obtain ⟨outcome, u⟩ := evaluated
  let closed := (u.change watch .closeFrame).change watch .closeFrame
  have hclosed (alarm : watch.Alarm) : alarm.Since u closed := fun h => alarm.step _ _ (alarm.step _ _ h)
  unfold Scene.requestValue
  rw [hsocket]
  simp only [Action.callScope, Action.between, Action.changeStack, Action.changeState, Action.readStack, Action.log,
    Action.emit, Bind.bind, StateT.bind]
  generalize hrun : (scene.hostCalls watch).evaluate _ l.node (some l.socket) _ = run
  obtain rfl : run = (outcome, u) := hrun.symm.trans hevaluated
  cases outcome with
  | error failure => exact ⟨_, rfl, fun alarm h => alarm.event _ (hclosed alarm h)⟩
  | ok exposed =>
    refine ⟨closed, ?_, hclosed⟩
    rw [FrameStack.shown?, ← hexposed exposed rfl]
    rfl

/-- So does the host, of a session in which nothing is open or marked. -/
theorem Host.requestValue_of_evaluated {ω : Type} (watch : Watcher ω) {s : Session ω} {tables : Tables}
    (hfresh : s.engine.active = some (tables, .fresh)) {l : Link} (p : Option Provider)
    (hindexed : (tables.exposed.socket? l.node l.socket).isSome = true) :
    ∃ opened : Run ω, opened.state = EngineState.fresh.openCall p ∧ opened.counters = s.counters ∧
      let evaluated : Outcome (Table Value) × Run ω :=
        ((s.engine.scene tables).hostCalls watch).evaluate 1 l.node (some l.socket) opened
      let requested := Host.requestValue watch l.node l.socket p s
      (requested.1 = evaluated.1.map fun _ => evaluated.2.state.stack.shown? 1 l) ∧
        ∀ alarm : watch.Alarm, alarm.raised evaluated.2.seen → alarm.raised requested.2.seen := by
  obtain ⟨opened, hopened, hcounters, t, hanswer, hsince⟩ :=
    (s.engine.scene tables).requestValue_of_evaluated watch p (r := ⟨.fresh, s.counters, s.seen⟩) hindexed rfl
  refine ⟨opened, hopened, hcounters, ?_⟩
  intro evaluated requested
  have hrequested : requested = (evaluated.1.map fun _ => evaluated.2.state.stack.shown? 1 l,
      ⟨{ s.engine with active := some (tables, t.state) }, t.counters, t.seen⟩) := by
    change Host.whileActive watch _ _ s = _
    rw [Host.whileActive_apply, hfresh]
    exact congrArg (fun answer : Outcome (Option Value) × Run ω =>
      (answer.1, (⟨{ s.engine with active := some (tables, answer.2.state) }, answer.2.counters, answer.2.seen⟩ :
        Session ω))) hanswer
  exact ⟨congrArg Prod.fst hrequested, fun alarm h => hrequested ▸ hsince alarm h⟩

/-- A session of the same engine whose graph has one more exit. Nothing is open or marked, and nothing has been seen. -/
def Session.connected {ω : Type} (s : Session ω) (tables : Tables) (l : Link) (out : NodeId) (typeTag : String) :
    Session (Array Event) :=
  ⟨{ s.engine with active := some (tables.withExit out typeTag l, .fresh) }, s.counters, #[]⟩

/-- With nothing open or marked, a request at a fresh exit that an output feeds is answered as a request for the output
itself, if the limit of the nesting is not reached. Only where that finds nothing the exit passes on what the host
answers for the output. -/
theorem requests_agree_with_connections {ω : Type} (watch : Watcher ω) (s : Session ω) (tables : Tables)
    (hfresh : s.engine.active = some (tables, .fresh)) (l : Link) (out : NodeId) (typeTag : String)
    (hvacant : (s.engine.scene tables).Vacant out) (hl : l.node ≠ out) (htype : typeTag ≠ signalType)
    (hexit : s.engine.registry.get? (exitName typeTag) = some (exitComponent typeTag).component)
    (hindexed : (tables.exposed.socket? l.node l.socket).isSome = true)
    (hunexposed : (s.engine.scene tables).Unexposed l) (p : Option Provider)
    (hshallow : (Host.requestValue .log out "input" p (s.connected tables l out typeTag)).2.seen.any Event.refuses =
      false) :
    (Host.requestValue .log out "input" p (s.connected tables l out typeTag)).1 =
      (Host.requestValue watch l.node l.socket p s).1.map fun shown => shown.or (answer? p l) := by
  obtain ⟨opened, hopened, hcounters, hasked, -⟩ := Host.requestValue_of_evaluated watch hfresh p hindexed
  obtain ⟨opened', hopened', hcounters', hpassed, hraised⟩ :=
    Host.requestValue_of_evaluated .log (s := s.connected tables l out typeTag) rfl (l := ⟨out, "input"⟩) p
      Tables.isSome_socket?_withExit
  have hagree := inquiries_agree watch Watcher.alarm hvacant hunexposed hl htype hexit hopened hopened'
    (hcounters'.trans hcounters.symm)
  rcases hagree with hlimit | hagree
  · exact absurd (hraised Watcher.alarm hlimit) (by simpa [Watcher.alarm] using hshallow)
  · refine (hpassed.trans hagree).trans ?_
    rw [hasked]
    generalize ((s.engine.scene tables).hostCalls watch).evaluate 1 l.node (some l.socket) opened = evaluated
    obtain ⟨outcome, u⟩ := evaluated
    cases outcome <;> rfl

/-- An entry alone, with an index of its output. -/
def entryTables : Tables :=
  Builder.run (.ofComponents ((exposedPackage ["Number"]).map NodeComponent.component))
    [.node "in" (entryName "Number") (.object []), .indexExposed]

def entrySession : Session (Array Event) :=
  ⟨⟨.ofComponents ((exposedPackage ["Number"]).map NodeComponent.component), ⟨20, 20⟩, none,
    some (entryTables, .fresh)⟩, .empty, #[]⟩

/-- A host that provides one value everywhere. -/
def sevens : Provider := ⟨fun _ _ => some (.int 7), false⟩

/-- What the host provides at an entry, a request for the output of the entry does not find, but one at an exit does
that the output feeds. -/
theorem silent_output_unanswered :
    (Host.requestValue .log "in" "output" (some sevens) entrySession).1.toOption = some none ∧
      (Host.requestValue .log "out" "input" (some sevens)
        (entrySession.connected entryTables ⟨"in", "output"⟩ "out" "Number")).1.toOption = some (some (.int 7)) := by
  decide +kernel

/-- Next to an entry alone an exit is fresh, and it passes on what the host provides at the entry. -/
theorem requests_agree_with_connections_entry :
    (entrySession.engine.scene entryTables).Vacant "out" ∧
      (entrySession.engine.scene entryTables).Unexposed ⟨"in", "output"⟩ ∧
      (Host.requestValue .log "out" "input" (some sevens)
        (entrySession.connected entryTables ⟨"in", "output"⟩ "out" "Number")).1 =
        (Host.requestValue .log "in" "output" (some sevens) entrySession).1.map fun shown =>
          shown.or (some (.int 7)) := by
  let scene := entrySession.engine.scene entryTables
  have hplain : ∀ c ∈ exposedPackage ["Number"],
      c.update = none ∧ c.signal = none ∧ ∀ s ∈ c.exposedInputs, s.name ≠ "output" := by decide +kernel
  have hupdate {c : Component} {a : Activation} (hmade : scene.Instance c a) (handler : Activation → Script)
      (hc : c.update = some handler) : (handler a).Every (Script.Quiet "output") := by
    obtain ⟨info, -, -, hget, -⟩ := hmade
    obtain ⟨c, hmem, rfl⟩ := List.mem_map.1 (Registry.mem_of_get?_ofComponents hget)
    obtain rfl := Option.some.inj hc
    obtain ⟨hnone, -, hinputs⟩ := hplain c hmem
    exact c.every_updateScript a hnone hinputs
  have hsignal {c : Component} {a : Activation} (hmade : scene.Instance c a) (handler : Activation → String → Script)
      (hc : c.signal = some handler) (socket : String) : (handler a socket).Every (Script.Quiet "output") := by
    obtain ⟨info, -, -, hget, -⟩ := hmade
    obtain ⟨c, hmem, rfl⟩ := List.mem_map.1 (Registry.mem_of_get?_ofComponents hget)
    obtain rfl := Option.some.inj hc
    exact c.every_signalScript a (hplain c hmem).2.1 socket
  have hvacant : scene.Vacant "out" := by
    refine ⟨rfl, rfl, fun l _ => ?_, fun _ _ l h => ?_, fun _ _ l h => ?_, fun hmade handler hc => ?_,
      fun hmade handler hc socket => ?_⟩
    · rintro ⟨between, hout, -⟩
      replace hout : "out" = l.node ++ ":" ++ between := hout
      have hcolon : ':' ∈ "out".toList := by simp [hout]
      exact absurd hcolon (by decide)
    · exact absurd h List.not_mem_nil
    · exact absurd h List.not_mem_nil
    · exact (hupdate hmade handler hc).mono fun _ h => by simp [h.1]
    · exact (hsignal hmade handler hc socket).mono fun _ h => by simp [h.1]
  have hunexposed : scene.Unexposed ⟨"in", "output"⟩ :=
    ⟨fun hmade _ handler hc => (hupdate hmade handler hc).mono fun _ h => h.2,
      fun hmade _ handler hc socket => (hsignal hmade handler hc socket).mono fun _ h => h.2⟩
  have hexit : entrySession.engine.registry.get? (exitName "Number") = some (exitComponent "Number").component := by
    have hnames : (((exposedPackage ["Number"]).map NodeComponent.component).map Component.name).Nodup := by
      decide +kernel
    exact Registry.get?_ofComponents (c := (exitComponent "Number").component) hnames (by simp [exposedPackage])
  refine ⟨hvacant, hunexposed, ?_⟩
  exact requests_agree_with_connections .log entrySession entryTables rfl ⟨"in", "output"⟩ "out" "Number" hvacant
    (by decide) (by decide) hexit (by decide +kernel) hunexposed (some sevens) (by decide +kernel)

end SocketGraph
