import SocketGraph.Component.Exposed
import SocketGraph.Proofs.Depth
import SocketGraph.Proofs.Faithfulness
import SocketGraph.Proofs.Gateways
import SocketGraph.Proofs.Unretracted

/-! Chains of nodes that pass on what the host provides. They are as deep as they are long, so they show that
the limit of the nesting is exact: what comes through a chain that is shorter than the limit is the value of
the host, and any other chain is refused at the node with which it becomes as long as the limit. -/
namespace SocketGraph

/-- Fetch a socket and do something with the value, if there is one. -/
def Script.fetched (socket : String) (use : Value → Script) : Script :=
  .fetch socket fun
    | .error failure => .fail failure
    | .ok none => .succeed
    | .ok (some v) => use v

/-- The component of nodes that pass on what they fetch. -/
def passComponent : NodeComponent where
  name := "PASS"
  sockets := [.input "in" "Number", .output "out" "Number"]
  update := some fun _ => .fetched "in" fun v => .push "out" v .succeed
  signal := none
  memory := none

theorem updateScript_passComponent (a : Activation) :
    passComponent.updateScript a = .fetched "in" fun v => .push "out" v .succeed :=
  (Script.andThen_succeed _).trans (Script.andThen_succeed _)

/-- An exit exposes its input, unless that is exposed already. -/
theorem updateScript_exitComponent {typeTag : String} (htype : typeTag ≠ signalType) (a : Activation) :
    (exitComponent typeTag).updateScript a = .hasExposed "input" fun
      | true => .succeed
      | false => .fetched "input" fun v => .expose "input" v .succeed := by
  have hinputs : (exitComponent typeTag).exposedInputs = (exitComponent typeTag).sockets := by
    simp [NodeComponent.exposedInputs, exitComponent, NodeComponent.plain, Socket.isInput, Socket.input,
      Socket.isSignal, htype]
  rw [NodeComponent.updateScript, hinputs]
  exact Script.andThen_succeed _

/-- An output at which nodes pass on what the host provides at an entry, with the nodes back to the entry. -/
inductive Scene.Passes (scene : Scene) (entry : NodeId) : Link → List NodeId → Prop
  | entry {info : NodeInfo} (known : scene.tables.executable.node? entry = some info)
      (made : scene.registry.get? info.component = some (entryComponent "Number").component) :
      Passes scene entry ⟨entry, "output"⟩ [entry]
  | pass {node : NodeId} {info : NodeInfo} {l : Link} {path : List NodeId}
      (known : scene.tables.executable.node? node = some info)
      (made : scene.registry.get? info.component = some passComponent.component)
      (fed : scene.tables.executable.producers node "in" = [l]) (rest : Passes scene entry l path) :
      Passes scene entry ⟨node, "out"⟩ (node :: path)

/-- What becomes of a value that is passed on along a path from some nesting. -/
def passed (limit nesting : Nat) (path : List NodeId) (v : Value) : Outcome (Option Value) :=
  if nesting + path.length < limit then .ok (some v)
  else .error (.tooDeep (path.getD (limit - (nesting + 1)) "") limit)

section
variable {limit n : Nat} {node : NodeId} {path : List NodeId} {v : Value}

/-- The first node is refused if not even it may be nested. -/
theorem passed_of_deep (h : limit ≤ n + 1) : passed limit n (node :: path) v = .error (.tooDeep node limit) := by
  rw [passed, if_neg (by rw [List.length_cons]; omega), Nat.sub_eq_zero_of_le h]
  rfl

/-- Otherwise the rest of the path is passed one level deeper. -/
theorem passed_of_shallow (h : n + 1 < limit) : passed limit n (node :: path) v = passed limit (n + 1) path v := by
  have hindex : limit - (n + 1) = limit - (n + 1 + 1) + 1 := by omega
  have hlength : n + (node :: path).length = n + 1 + path.length := by rw [List.length_cons]; omega
  rw [passed, passed, hindex, List.getD_cons_succ, hlength]

end

/-- On no frame anything has been kept or marked. -/
def FrameStack.Blank (s : FrameStack) : Prop :=
  ∀ i f, s.frame? i = some f → (∀ cache l, f.kept? cache l = none) ∧ f.marks = .empty

namespace FrameStack.Blank

variable {s t : FrameStack}

theorem empty : FrameStack.empty.Blank := nofun

theorem push (h : s.Blank) (permeable : Bool) (provider : Option FrameProvider) :
    (s.push (.fresh permeable provider)).Blank := by
  intro i f hf
  rcases FrameStack.frame?_push_cases hf with ⟨-, hf⟩ | ⟨-, rfl⟩
  · exact h i f hf
  · exact ⟨Frame.kept?_fresh permeable provider, rfl⟩

theorem of_contents (h : s.Blank) (hsame : t.SameContents s) : t.Blank := by
  intro i f hf
  obtain ⟨g, hg, hcontents⟩ := hsame.frame? hf
  obtain ⟨hkept, hmarks⟩ := h i g hg
  exact ⟨fun cache l => (Frame.kept?_of_contents hcontents cache l).symm.trans (hkept cache l),
    (Frame.marks_of_contents hcontents).symm.trans hmarks⟩

theorem kept? (h : s.Blank) (i : Nat) (cache : Cache) (l : Link) : s.kept? i cache l = none := by
  refine FrameStack.readThrough_eq_none_iff.2 fun j _ => ?_
  cases hf : s.frame? j with
  | none => rfl
  | some f => exact (h j f hf).1 cache l

theorem isMarked (h : s.Blank) (i : Nat) (node : NodeId) (component : String) :
    s.isMarked i node component = false := by
  rw [FrameStack.isMarked]
  cases hf : s.frame? i with
  | none => rfl
  | some f =>
    rw [Option.any_some, (h i f hf).2]
    rfl

end FrameStack.Blank

/-- A run on the way back along a chain: a nesting has been reached on a frame, the host answers there, and
nothing has been kept or marked yet. -/
structure Run.Heads {ω : Type} (nesting i : Nat) (p : Provider) (r : Run ω) : Prop where
  nesting : r.state.nesting = nesting
  frame : i < r.state.stack.height
  provider : r.state.stack.provider? i = some (.host p)
  blank : r.state.stack.Blank
  forever : r.state.forever = .empty

section
variable {ω : Type} {scene : Scene} {watch : Watcher ω} {below : Calls ω} {n i : Nat} {p : Provider} {r : Run ω}

theorem Run.Heads.of_state {r' : Run ω} (h : r.Heads n i p) (hstate : r'.state = r.state) : r'.Heads n i p := by
  obtain ⟨nesting, frame, provider, blank, forever⟩ := h
  rw [← hstate] at nesting frame provider blank forever
  exact ⟨nesting, frame, provider, blank, forever⟩

/-- A node is entered one level deeper. -/
theorem Run.Heads.deeper {r' : Run ω} {a : Activation} (h : r.Heads n i p)
    (hstate : r'.state = { r.state with stack := r.state.stack.enter i a, nesting := r.state.nesting + 1 }) :
    r'.Heads (n + 1) i p ∧ r'.state.stack.active? i = some a := by
  have hstack : r'.state.stack = r.state.stack.enter i a := congrArg EngineState.stack hstate
  refine ⟨⟨?_, ?_, ?_, ?_, (congrArg EngineState.forever hstate).trans h.forever⟩, ?_⟩
  · rw [hstate, ← h.nesting]
  · rw [hstack, FrameStack.height_enter]
    exact h.frame
  · rw [hstack, FrameStack.provider?_enter]
    exact h.provider
  · rw [hstack]
    exact h.blank.of_contents (.enter _ i a)
  · rw [hstack]
    exact FrameStack.active?_enter_self h.frame a

theorem Run.Heads.needsUpdate (h : r.Heads n i p) (node : NodeId) (component : String) :
    r.state.needsUpdate i node component = true := by
  rw [EngineState.needsUpdate, h.forever, h.blank.isMarked, h.blank.isMarked]
  rfl

variable {node : NodeId} {requested : Option String} {c : Component} {a : Activation}

theorem Scene.activation_of_made {info : NodeInfo} (hinfo : scene.tables.executable.node? node = some info)
    (hmade : scene.registry.get? info.component = some c) (requested : Option String) :
    scene.activation node requested = .ok (c, c.activation node info.attributes (.pull requested)) :=
  Scene.activation_eq_ok.2 ⟨info, hinfo, hmade, rfl⟩

/-- A node that is nested too deep is refused. -/
theorem evaluateAt_of_deep (ha : scene.activation node requested = .ok (c, a)) (hr : r.Heads n i p)
    (hlimit : scene.limits.recursionDepth ≤ n + 1) :
    (evaluateAt scene watch below i node requested r).1 = .error (.tooDeep a.node scene.limits.recursionDepth) := by
  obtain ⟨r', hstate, houtcome, -⟩ := run_evaluateAt watch below ha (hr.needsUpdate node)
  rw [houtcome, runUpdate_apply, if_pos (by rw [hstate, hr.nesting]; exact hlimit)]
  rfl

variable (watch)

/-- What is refused does not depend on the levels of calls that are left. -/
theorem evaluate_calls_of_deep (levels : Nat) (ha : scene.activation node requested = .ok (c, a))
    (hr : r.Heads n i p) (hlimit : scene.limits.recursionDepth ≤ n + 1) :
    ((scene.calls watch levels).evaluate i node requested r).1 =
      .error (.tooDeep node scene.limits.recursionDepth) := by
  obtain ⟨info, -, -, rfl⟩ := Scene.activation_eq_ok.1 ha
  cases levels with
  | zero => rfl
  | succ levels => exact evaluateAt_of_deep ha hr hlimit

/-- A node that is not nested too deep is entered, performs its script and is left. -/
theorem evaluate_calls_of_shallow (levels : Nat) (ha : scene.activation node requested = .ok (c, a))
    (hr : r.Heads n i p) (hlimit : n + 1 < scene.limits.recursionDepth) {handler : Activation → Script}
    (hupdate : c.update = some handler) :
    let evaluated := (scene.calls watch (levels + 1)).evaluate i node requested r
    ∃ r' : Run ω, r'.Heads (n + 1) i p ∧ r'.state.stack.active? i = some a ∧
      let performed := perform scene watch (scene.calls watch levels) i a (handler a) r'
      evaluated.1 = (fun _ => (performed.2.state.stack.leave i).exposedBy i node) <$> performed.1 ∧
        evaluated.2.state.stack = performed.2.state.stack.leave i := by
  obtain ⟨r', hstate, houtcome, hafter⟩ :=
    run_evaluateAt watch (scene.calls watch levels) ha (hr.needsUpdate node)
  obtain ⟨hheads, hactive⟩ := hr.deeper hstate
  rw [runUpdate_apply, if_neg (by rw [hheads.nesting]; omega), attempt, hupdate] at houtcome hafter
  let logged := (Action.log watch (.evaluating a.node a.component a.requested? r'.state.nesting) r').2
  exact ⟨(Action.note watch (.started i a) logged).2, hheads.of_state rfl, hactive, houtcome,
    congrArg EngineState.stack hafter⟩

variable {watch}

variable {entry : NodeId} {l : Link} {path : List NodeId} {v : Value}

/-- An output that is asked for is refused with its node, or is what its evaluation leaves. -/
theorem resolveProducer_of_deep (levels : Nat) (ha : scene.activation l.node (some l.socket) = .ok (c, a))
    (hr : r.Heads n i p) (hlimit : scene.limits.recursionDepth ≤ n + 1) (lookup : Lookup ω) :
    (resolveProducer (scene.calls watch levels) lookup i l r).1 =
      .error (.tooDeep l.node scene.limits.recursionDepth) := by
  rw [resolveProducer_of_unknown _ _ (hr.blank.kept? i .output l)]
  have hevaluated := evaluate_calls_of_deep watch levels ha hr hlimit
  generalize (scene.calls watch levels).evaluate i l.node (some l.socket) r = answer at hevaluated ⊢
  obtain ⟨outcome, r'⟩ := answer
  obtain rfl : outcome = _ := hevaluated
  rfl

/-- What is fetched from a single producer, as long as nothing has been kept. -/
theorem fetchInput_of_fed {socket : String} (hr : r.Heads n i p) (hactive : r.state.stack.active? i = some a)
    (hfed : scene.tables.executable.producers a.node socket = [l]) (hsingle : collects a.sockets socket [l] = false) :
    (fetchInput scene watch below i socket r).1 = (resolveProducer below (provide scene watch below) i l r).1 := by
  rw [fetchInput_of_unkept hactive (hr.blank.kept? i .input _), resolveInput, hfed]
  dsimp only
  rw [hsingle]
  rfl

/-- What is fetched is kept, and the failure of a fetch is that of the script. -/
theorem perform_fetched (a : Activation) (socket : String) (use : Value → Script) (cache : Cache) (kept : Link)
    (hserves : (Upkeep.steadfast scene watch).Serves below)
    (huse : ∀ r : Run ω, (perform scene watch below i a (use v) r).1 = .ok () ∧
      (perform scene watch below i a (use v) r).2.state.stack = r.state.stack.keep i cache kept v)
    (hfetched : ∀ r' : Run ω, r'.state = r.state →
      (fetchInput scene watch below i socket r').1 = passed scene.limits.recursionDepth n path v)
    (hr : r.Heads n i p) :
    (perform scene watch below i a (.fetched socket use) r).1 =
        (fun _ => ()) <$> passed scene.limits.recursionDepth n path v ∧
      (n + path.length < scene.limits.recursionDepth →
        ((perform scene watch below i a (.fetched socket use) r).2.state.stack.leave i).kept? i cache kept = some v) := by
  let noted := (Action.note watch (.performed i a (.fetched socket use)) r).2
  have hkeep := Upkeep.keeps_fetchInput hserves i socket noted (Nat.zero_lt_of_lt hr.frame)
  have hvalue := hfetched noted rfl
  have hperform : perform scene watch below i a (.fetched socket use) r =
      perform scene watch below i a (match (fetchInput scene watch below i socket noted).1 with
        | .error failure => .fail failure
        | .ok none => .succeed
        | .ok (some v) => use v) (fetchInput scene watch below i socket noted).2 := rfl
  rw [hperform]
  generalize fetchInput scene watch below i socket noted = answer at hkeep hvalue ⊢
  obtain ⟨outcome, r'⟩ := answer
  have hheight : i < r'.state.stack.height := (FrameStack.height_of_view hkeep.2.1).symm ▸ hr.frame
  obtain rfl : outcome = _ := hvalue
  by_cases hlimit : n + path.length < scene.limits.recursionDepth
  · rw [passed, if_pos hlimit]
    obtain ⟨houtcome, hstack⟩ := huse r'
    refine ⟨houtcome, fun _ => ?_⟩
    rw [FrameStack.kept?_of_contents (.leave _ i), hstack, FrameStack.kept?_keep_self hheight]
  · rw [passed, if_neg hlimit]
    exact ⟨rfl, fun h => absurd h hlimit⟩

section
variable {levels : Nat} {info : NodeInfo} (hinfo : scene.tables.executable.node? node = some info)
  (hr : r.Heads n i p) (hlimit : n + 1 < scene.limits.recursionDepth)
  (hrest : ∀ r : Run ω, r.Heads (n + 1) i p →
    (resolveProducer (scene.calls watch levels) (provide scene watch (scene.calls watch levels)) i l r).1 =
      passed scene.limits.recursionDepth (n + 1) path v)
include hinfo hr hlimit hrest

/-- A node that passes on a value passes it on one level deeper. -/
theorem resolveProducer_of_pass (hmade : scene.registry.get? info.component = some passComponent.component)
    (hfed : scene.tables.executable.producers node "in" = [l]) (lookup : Lookup ω) :
    (resolveProducer (scene.calls watch (levels + 1)) lookup i ⟨node, "out"⟩ r).1 =
      passed scene.limits.recursionDepth (n + 1) path v := by
  let a := passComponent.component.activation node info.attributes (.pull (some "out"))
  have ha : scene.activation node (some "out") = .ok (passComponent.component, a) :=
    scene.activation_of_made hinfo hmade _
  obtain ⟨r', hr', hactive, houtcome, hstack⟩ :=
    evaluate_calls_of_shallow watch levels ha hr hlimit rfl
  rw [updateScript_passComponent] at houtcome hstack
  have hfetched (r'' : Run ω) (hstate : r''.state = r'.state) :
      (fetchInput scene watch (scene.calls watch levels) i "in" r'').1 =
        passed scene.limits.recursionDepth (n + 1) path v :=
    (fetchInput_of_fed (hr'.of_state hstate) (hstate.symm ▸ hactive) hfed rfl).trans (hrest r'' (hr'.of_state hstate))
  obtain ⟨hperform, hkept⟩ := perform_fetched a "in" (fun v => .push "out" v .succeed) .output ⟨node, "out"⟩
    ((Upkeep.steadfast scene watch).serves_calls levels) (fun _ => ⟨rfl, rfl⟩) hfetched hr'
  rw [resolveProducer_of_unknown _ _ (hr.blank.kept? i .output _)]
  rw [hperform] at houtcome
  rw [← hstack] at hkept
  generalize (scene.calls watch (levels + 1)).evaluate i node (some "out") r = answer at houtcome hkept ⊢
  obtain ⟨outcome, r''⟩ := answer
  obtain rfl : outcome = _ := houtcome
  by_cases hpassed : n + 1 + path.length < scene.limits.recursionDepth
  · rw [passed, if_pos hpassed]
    have houtput : r''.state.stack.output? i ⟨node, "out"⟩ = some v := hkept hpassed
    dsimp only [Functor.map, Except.map]
    rw [houtput]
  · rw [passed, if_neg hpassed]
    rfl

/-- An exit exposes the value that it is fed. -/
theorem evaluate_of_exit {typeTag : String} (htype : typeTag ≠ signalType)
    (hmade : scene.registry.get? info.component = some (exitComponent typeTag).component)
    (hfed : scene.tables.executable.producers node "input" = [l]) :
    (fun exposed => exposed.get? "input") <$>
        ((scene.calls watch (levels + 1)).evaluate i node requested r).1 =
      passed scene.limits.recursionDepth (n + 1) path v := by
  let a := (exitComponent typeTag).component.activation node info.attributes (.pull requested)
  have ha : scene.activation node requested = .ok ((exitComponent typeTag).component, a) :=
    scene.activation_of_made hinfo hmade _
  obtain ⟨r', hr', hactive, houtcome, -⟩ := evaluate_calls_of_shallow watch levels ha hr hlimit rfl
  rw [updateScript_exitComponent htype] at houtcome
  let use (v : Value) : Script := .expose "input" v .succeed
  let next (answer : Bool) : Script := match answer with
    | true => .succeed
    | false => .fetched "input" use
  let noted := (Action.note watch (.performed i a (.hasExposed "input" next)) r').2
  have hfresh : perform scene watch (scene.calls watch levels) i a (.hasExposed "input" next) r' =
      perform scene watch (scene.calls watch levels) i a (.fetched "input" use) noted := by
    have hunexposed : r'.state.stack.exposed? i ⟨a.node, "input"⟩ = none := hr'.blank.kept? i .exposed _
    rw [perform, Action.bind_apply, Action.readStack_bind_apply]
    show perform _ _ _ _ _ (next (r'.state.stack.exposed? i ⟨a.node, "input"⟩).isSome) noted = _
    rw [hunexposed]
    rfl
  have hfetched (r'' : Run ω) (hstate : r''.state = noted.state) :
      (fetchInput scene watch (scene.calls watch levels) i "input" r'').1 =
        passed scene.limits.recursionDepth (n + 1) path v :=
    (fetchInput_of_fed (hr'.of_state hstate) (hstate.symm ▸ hactive) hfed rfl).trans (hrest r'' (hr'.of_state hstate))
  obtain ⟨hperform, hkept⟩ := perform_fetched a "input" use .exposed ⟨node, "input"⟩
    ((Upkeep.steadfast scene watch).serves_calls levels) (fun _ => ⟨rfl, rfl⟩) hfetched (hr'.of_state rfl)
  rw [houtcome, hfresh, hperform]
  by_cases hpassed : n + 1 + path.length < scene.limits.recursionDepth
  · rw [passed, if_pos hpassed, ← hkept hpassed, ← FrameStack.get?_exposedBy_eq_kept?]
    rfl
  · rw [passed, if_neg hpassed]
    rfl

end

/-- At the entry the host answers. -/
theorem resolveProducer_of_entry {levels : Nat} {info : NodeInfo} (hr : r.Heads n i p)
    (hlimit : n + 1 < scene.limits.recursionDepth) (hinfo : scene.tables.executable.node? entry = some info)
    (hmade : scene.registry.get? info.component = some (entryComponent "Number").component) :
    (resolveProducer (scene.calls watch (levels + 1)) (provide scene watch below) i ⟨entry, "output"⟩ r).1 =
      .ok (p.answer "output" entry) := by
  have ha := scene.activation_of_made hinfo hmade (some "output")
  obtain ⟨r', hr', -, houtcome, hstack⟩ := evaluate_calls_of_shallow watch levels ha hr hlimit rfl
  rw [resolveProducer_of_unknown _ _ (hr.blank.kept? i .output _)]
  generalize (scene.calls watch (levels + 1)).evaluate i entry (some "output") r = answer at houtcome hstack ⊢
  obtain ⟨outcome, r''⟩ := answer
  obtain rfl : outcome = .ok _ := houtcome
  replace hstack : r''.state.stack = r'.state.stack.leave i := hstack
  have houtput : r''.state.stack.output? i ⟨entry, "output"⟩ = none := by
    rw [hstack]
    exact (hr'.blank.of_contents (.leave _ i)).kept? i .output _
  have hprovider : r''.state.stack.provider? i = some (.host p) := by
    rw [hstack, FrameStack.provider?_of_fittings (FrameStack.fittings_leave _ i)]
    exact hr'.provider
  dsimp only
  rw [houtput]
  dsimp only
  rw [provide, lookupWithin, Action.readStack_bind_apply, hprovider]
  dsimp only
  rw [Action.bind_apply, Upkeep.answer_askHost]
  rfl

/-- What is asked for at an output of a chain, by induction on the chain. -/
theorem resolveProducer_of_passes (h : scene.Passes entry l path) (hv : p.answer "output" entry = some v)
    {levels : Nat} (hlevels : scene.limits.recursionDepth ≤ n + levels) (hr : r.Heads n i p) :
    (resolveProducer (scene.calls watch levels) (provide scene watch (scene.calls watch levels)) i l r).1 =
      passed scene.limits.recursionDepth n path v := by
  induction h generalizing n levels r with
  | entry known made =>
    by_cases hlimit : scene.limits.recursionDepth ≤ n + 1
    · have ha := scene.activation_of_made known made (some "output")
      rw [resolveProducer_of_deep levels ha hr hlimit, passed_of_deep hlimit]
    · obtain ⟨levels, rfl⟩ := Nat.exists_eq_add_one_of_ne_zero (by omega : levels ≠ 0)
      rw [resolveProducer_of_entry hr (by omega) known made, hv, passed, if_pos (by simpa using hlimit)]
  | @pass node info l path known made fed rest ih =>
    by_cases hlimit : scene.limits.recursionDepth ≤ n + 1
    · have ha := scene.activation_of_made known made (some "out")
      rw [resolveProducer_of_deep levels ha hr hlimit, passed_of_deep hlimit]
    · obtain ⟨levels, rfl⟩ := Nat.exists_eq_add_one_of_ne_zero (by omega : levels ≠ 0)
      rw [passed_of_shallow (by omega)]
      exact resolveProducer_of_pass known hr (by omega) (fun _ => ih (by omega)) made fed _

variable (watch) in
/-- A call of the host begins with nothing kept or marked, if nothing has been before. -/
theorem Run.Heads.of_call (hnesting : r.state.nesting = 0) (hblank : r.state.stack.Blank)
    (hforever : r.state.forever = .empty) (p : Provider) :
    let r' := (r.change watch (·.push (.fresh true none))).change watch (·.push (.fresh true (some (.host p))))
    r'.Heads 0 r'.state.stack.top p where
  nesting := hnesting
  frame := FrameStack.top_lt_height_push _ _
  provider := by
    refine FrameStack.readThrough_self ?_ rfl (f := .fresh true (some (.host p)))
    exact (congrArg _ (FrameStack.top_push ..)).trans (FrameStack.frame?_push_height _ _)
  blank := (hblank.push true none).push true _
  forever := hforever

/-- The value that is asked for at the exit of a chain, in a call that begins with nothing kept or marked. -/
theorem requestValue_of_passes {typeTag : String} (htype : typeTag ≠ signalType) {info : NodeInfo}
    (hindexed : (scene.tables.exposed.socket? node "input").isSome)
    (hinfo : scene.tables.executable.node? node = some info)
    (hmade : scene.registry.get? info.component = some (exitComponent typeTag).component)
    (hfed : scene.tables.executable.producers node "input" = [l]) (h : scene.Passes entry l path)
    (hv : p.answer "output" entry = some v) (hnesting : r.state.nesting = 0) (hblank : r.state.stack.Blank)
    (hforever : r.state.forever = .empty) :
    (scene.requestValue watch node "input" (some p) r).1 =
      passed scene.limits.recursionDepth 0 (node :: path) v := by
  obtain ⟨socket, hsocket⟩ := Option.isSome_iff_exists.1 hindexed
  have hreport {α : Type} (outcome : Outcome α) (r : Run ω) :
      (reportFailure watch node "input" outcome r).1 = outcome := by cases outcome <;> rfl
  let logged := (Action.log watch (.requested node "input") r).2
  let called := (logged.change watch (·.push (.fresh true none))).change watch
    (·.push (.fresh true (some (.host p))))
  have hcalled : called.Heads 0 called.state.stack.top p :=
    Run.Heads.of_call watch (r := logged) hnesting hblank hforever p
  have hevaluate : (fun exposed => exposed.get? "input") <$>
      ((scene.hostCalls watch).evaluate called.state.stack.top node (some "input") called).1 =
        passed scene.limits.recursionDepth 0 (node :: path) v := by
    by_cases hlimit : scene.limits.recursionDepth ≤ 0 + 1
    · rw [Scene.hostCalls, evaluate_calls_of_deep watch _ (scene.activation_of_made hinfo hmade _) hcalled hlimit,
        passed_of_deep hlimit]
      rfl
    · rw [passed_of_shallow (by omega)]
      refine evaluate_of_exit hinfo hcalled (by omega) (fun r hr => ?_) htype hmade hfed
      exact resolveProducer_of_passes h hv (by rw [Limits.allowance]; omega) hr
  rw [Scene.requestValue, hsocket]
  dsimp only
  have hscope (body : Nat → Action ω (Outcome (Option Value))) :
      (Action.callScope watch (some p) body logged).1 = (body called.state.stack.top called).1 := rfl
  rw [Action.bind_apply, Action.bind_apply, hreport, hscope, ← hevaluate, Action.bind_apply]
  generalize (scene.hostCalls watch).evaluate called.state.stack.top node (some "input") called = answer at hevaluate ⊢
  obtain ⟨outcome, r'⟩ := answer
  cases outcome with
  | error failure => rfl
  | ok exposed =>
    have hexposed : exposed.get? "input" = some v := by
      by_cases hlimit : 0 + (node :: path).length < scene.limits.recursionDepth
      · rw [passed, if_pos hlimit] at hevaluate
        exact Except.ok.inj hevaluate
      · rw [passed, if_neg hlimit] at hevaluate
        cases hevaluate
    show Except.ok ((exposed.get? "input").or _) = Except.ok (exposed.get? "input")
    rw [hexposed]
    rfl

end
end SocketGraph
