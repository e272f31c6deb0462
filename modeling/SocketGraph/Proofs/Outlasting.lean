import SocketGraph.Component.Node
import SocketGraph.Proofs.Bodies
import SocketGraph.Proofs.Faithfulness
import SocketGraph.Proofs.Retained
import SocketGraph.Proofs.Surroundings

/-! Marks that last forever. Values are kept on frames, which are closed in the end, while a mark that lasts forever
belongs to the activation; so a node with such a mark is left as it is, whether there still is a value of it or
not. -/
namespace SocketGraph

namespace FrameStack.Bracketed

variable {s : FrameStack}

/-- Brackets share one root. -/
theorem root (hs : s.Bracketed) {i : Nat} (hi : i < s.height) : s.root i = 0 := by
  induction i with
  | zero => exact root_zero s
  | succ i ih =>
    obtain ⟨f, hf⟩ := exists_frame? hi
    have hpermeable : s.isPermeable (i + 1) = true := by
      rw [isPermeable, hf]
      exact congrArg Frame.Shape.permeable (hs.frame? hf)
    rw [root_succ hi, if_pos hpermeable, ih (by omega)]

/-- The frames of a call share it with them. -/
theorem root_call (hs : s.Bracketed) (provider : Option FrameProvider) :
    ((s.push (.fresh true none)).push (.fresh true provider)).root (s.height + 1) = 0 := by
  have hheight : (s.push (.fresh true none)).height = s.height + 1 := height_push ..
  rw [← hheight, root_push_height, if_pos ⟨rfl, by omega⟩, hs.push.root (by rw [top, hheight]; omega)]

end FrameStack.Bracketed

section
variable {ω : Type} {scene : Scene} {watch : Watcher ω} {below : Calls ω} {i : Nat} {a : Activation}

/-- Signals are exposed and forwarded without a say in what is performed next. -/
theorem fst_operate_of_signal {script next : Script} {socket : String} (r : Run ω)
    (h : script = .exposeSignal socket next ∨ script = .forward socket next) :
    (operate scene watch below i a script r).1 = next := by
  rcases h with rfl | rfl
  · rw [operate]
    split <;> rfl
  · cases hsignal : (r.state.stack.active? i).any Activation.isSignal
    all_goals
      simp only [operate, Bind.bind, StateT.bind, Action.note, Action.readStack, hsignal]
      rfl

/-- A script that ends well with a mark leaves that mark. -/
theorem has_forever_of_perform {script : Script} {r : Run ω}
    (h : (perform scene watch below i a (script.andThen (.mark .node .forever .succeed)) r).1 = .ok ()) :
    (perform scene watch below i a (script.andThen (.mark .node .forever .succeed)) r).2.state.forever.Has
      (.node a.node) := by
  induction script generalizing r with
  | done outcome =>
    cases outcome with
    | error failure => cases h
    | ok => exact (Marks.has_add _ .everywhere ..).2 (.inr ⟨rfl, rfl⟩)
  | exposeSignal socket next ih =>
    rw [Script.andThen, perform_eq_operate, Action.bind_apply, fst_operate_of_signal r (.inl rfl)] at h ⊢
    exact ih h
  | forward socket next ih =>
    rw [Script.andThen, perform_eq_operate, Action.bind_apply, fst_operate_of_signal r (.inr rfl)] at h ⊢
    exact ih h
  | fetch socket next ih | hasExposed socket next ih | count socket next ih => exact ih _ h
  | pullScene pairings target next ih | pushScene pairings target next ih => exact ih _ h
  | push socket v next ih | expose socket v next ih | mark target scope next ih | emit event next ih => exact ih h

/-- An evaluation that succeeds in updating a node which remembers its updates forever leaves it marked. -/
theorem has_forever_of_evaluateAt {node : NodeId} {requested : Option String} {info : NodeInfo} {c : NodeComponent}
    {r : Run ω} {exposed : Table Value} (hnode : scene.tables.executable.node? node = some info)
    (hcomponent : scene.registry.get? info.component = some c.component) (hmemory : c.memory = some (.node, .forever))
    (hneeds : r.state.needsUpdate i node info.component = true)
    (h : (evaluateAt scene watch below i node requested r).1 = .ok exposed) :
    (evaluateAt scene watch below i node requested r).2.state.forever.Has (.node node) := by
  let a := c.component.activation node info.attributes (.pull requested)
  have hscript {r' : Run ω} (h' : (perform scene watch below i a (c.updateScript a) r').1 = .ok ()) :
      (perform scene watch below i a (c.updateScript a) r').2.state.forever.Has (.node node) := by
    rw [NodeComponent.updateScript, NodeComponent.remember, hmemory] at h' ⊢
    exact has_forever_of_perform h'
  have hupdate {r' : Run ω} (h' : (runUpdate scene watch below i c.component a r').1 = .ok ()) :
      (runUpdate scene watch below i c.component a r').2.state.forever.Has (.node node) := by
    rw [runUpdate_apply] at h' ⊢
    split at h'
    · cases h'
    · rename_i hdepth
      rw [if_neg hdepth]
      exact hscript h'
  rw [evaluateAt_eq_updated watch below hnode hcomponent hneeds] at h ⊢
  have hupdated : (activeUpdate scene watch below i c.component a r).1 = .ok () := by
    change (fun _ => _) <$> (activeUpdate scene watch below i c.component a r).1 = _ at h
    cases houtcome : (activeUpdate scene watch below i c.component a r).1 with
    | error failure =>
      rw [houtcome] at h
      cases h
    | ok _ => rfl
  exact hupdate hupdated

end

section
variable (scene : Scene) (node : NodeId) (socket : String) (host : Option Provider) (r : Run History)

theorem isSome_of_requestValue {answer : Option Value}
    (h : (scene.requestValue .history node socket host r).1 = .ok answer) :
    (scene.tables.exposed.socket? node socket).isSome = true := by
  unfold Scene.requestValue at h
  cases hexposed : scene.tables.exposed.socket? node socket with
  | none =>
    rw [hexposed] at h
    cases h
  | some _ => rfl

/-- The evaluation that a request asks for, in frames of its own. -/
def Scene.inquire : Outcome (Table Value) × Run History :=
  (scene.hostCalls .history).evaluate (r.state.stack.height + 1) node (some socket)
    (Course.opened r (.fresh true none) (.fresh true (host.map .host)))

/-- A request answers with what is found on its frame after the evaluation. -/
theorem requestValue_eq_inquire (hexposed : (scene.tables.exposed.socket? node socket).isSome = true) :
    scene.requestValue .history node socket host r =
      (((scene.inquire node socket host r).1.map fun exposed => (exposed.get? socket).or
          ((scene.inquire node socket host r).2.state.stack.output? (r.state.stack.height + 1) ⟨node, socket⟩)),
        Course.closed (scene.inquire node socket host r).2) := by
  let opened := Course.opened r (.fresh true none) (.fresh true (host.map .host))
  have htop : opened.state.stack.top = r.state.stack.height + 1 := by
    change ((r.state.stack.push _).push _).top = _
    rw [FrameStack.top_push, FrameStack.height_push]
  obtain ⟨exposed, hexposed⟩ := Option.isSome_iff_exists.1 hexposed
  unfold Scene.requestValue Scene.inquire
  rw [hexposed, ← htop]
  simp only [Action.callScope, Action.between, Action.changeStack, Action.changeState, Action.readStack, Action.log,
    Action.emit, Bind.bind, StateT.bind]
  generalize hrun : (scene.hostCalls .history).evaluate _ node (some socket) _ = run
  obtain ⟨outcome, r'⟩ := run
  have hopened : (scene.hostCalls .history).evaluate opened.state.stack.top node (some socket) opened =
      (outcome, r') := hrun
  rw [hopened]
  cases outcome <;> rfl

/-- A node that needs no update on the frame of the request is left as it is. -/
theorem inquire_of_marked {info : NodeInfo} (hnode : scene.tables.executable.node? node = some info) :
    let opened := Course.opened r (.fresh true none) (.fresh true (host.map .host))
    let i := r.state.stack.height + 1
    opened.state.needsUpdate i node info.component = false → scene.inquire node socket host r =
      (.ok (opened.state.stack.exposedBy i node), (Action.note .history (.skipped i node) opened).2) := by
  intro opened i hneeds
  exact evaluateAt_eq_skipped .history _ hnode hneeds (some socket)

end

/-- A request goes on by a course on its frames, which are found again in the end. -/
theorem Scene.exists_course_inquire (scene : Scene) (node : NodeId) (socket : String) (host : Option Provider)
    (r : Run History) :
    let opening := Moment.opening r.seen.calls r.state (.fresh true none) (.fresh true (host.map .host))
    let inside := (scene.inquire node socket host r).2
    ∃ ms : List Moment, inside.seen = ⟨r.seen.calls, ms.reverse ++ (opening.reverse ++ r.seen.moments)⟩ ∧
      inside.state.stack.shape =
        ((r.state.stack.push (.fresh true none)).push (.fresh true (host.map .host))).shape ∧
      ∀ (C : Chronicle) {h}, C.tells h r.state → C.tells (ms.reverse ++ (opening.reverse ++ h)) inside.state := by
  intro opening inside
  obtain ⟨ms, hseen, hcourse⟩ := ((scene.tracked_calls (scene.limits.allowance + 1)).evaluate r.seen.calls
    (r.state.stack.height + 1) node (some socket)).asked
      (Course.opened r (.fresh true none) (.fresh true (host.map .host))) rfl
  exact ⟨ms, hseen, hcourse.shape rfl, fun C _ ht => (hcourse.carries (Chronicle.carries_opening _ _ _ _ _ ht).tells).tells⟩

/-- What is known of a session some calls after an activation, by the moments since then. -/
structure Session.Since (s s' : Session History) (tables : Tables) (h : List Moment) (st : EngineState) : Prop where
  active : s'.engine.active = some (tables, st)
  scene : s'.engine.scene tables = s.engine.scene tables
  seen : s'.seen = ⟨s.seen.calls, h ++ s.seen.moments⟩
  resting : st.Resting
  marked : st.MarkedBy h
  retains : ∀ cache, cache ≠ .input → st.Retains cache h
  apart : ∀ m ∈ h, m.Apart
  due : ∀ later m earlier, h = later ++ m :: earlier → m.step ≠ .changed →
    m.Due (s.engine.scene tables) (fun _ => True) ∧ m.state.MarkedBy earlier

theorem HostCall.performAll_append {ω : Type} (watch : Watcher ω) (calls more : List HostCall) (s : Session ω) :
    (performAll watch (calls ++ more) s).2 = (performAll watch more (performAll watch calls s).2).2 := by
  induction calls generalizing s with
  | nil => rfl
  | cons call rest ih => exact ih _

/-- Values and marks are told of after whatever a host calls for. -/
theorem HostCall.since_performAll {s : Session History} {tables : Tables}
    (hfresh : s.engine.active = some (tables, .fresh)) (hidle : s.seen.calls = []) (calls : List HostCall)
    (hcalls : ∀ call ∈ calls, call ≠ .terminate) :
    ∃ h st, s.Since (performAll .history calls s).2 tables h st := by
  obtain ⟨ms, st, h⟩ := HostCall.warrants_activated hfresh hidle calls hcalls
  have hapart := (Law.apartness s.engine.registry).of_since rfl hfresh hidle calls (congrArg History.moments h.seen)
  have hmarked := (h.carries .marks (h := []) fun _ => .fresh).tells
  rw [List.append_nil] at hmarked
  refine ⟨ms.reverse, st, h.active, ?_, h.seen, h.resting, ?_, fun cache hcache => ?_, hapart,
    fun later m earlier hsplit hstep => ⟨h.due hsplit, h.marked hsplit hstep⟩⟩
  · rw [Engine.scene, h.registry, h.limits]
    rfl
  · exact hmarked fun m hm => h.warranted.sited m (List.mem_reverse.1 hm)
  · have hretains := (h.carries (.values cache hcache) (h := []) fun _ => .fresh).tells
    rw [List.append_nil] at hretains
    exact hretains hapart

namespace Session.Since

section
variable {s s₁ : Session History} {tables : Tables} {h : List Moment} {st : EngineState} (node : NodeId)
  (socket : String) (host : Option Provider)

theorem requestValue_apply (hs : s.Since s₁ tables h st) :
    let run := (s.engine.scene tables).requestValue .history node socket host ⟨st, s₁.counters, s₁.seen⟩
    Host.requestValue .history node socket host s₁ =
      (run.1, ⟨{ s₁.engine with active := some (tables, run.2.state) }, run.2.counters, run.2.seen⟩) := by
  rw [Host.requestValue, Host.whileActive_apply, hs.active]
  dsimp only
  rw [hs.scene]
  rfl

theorem moments (hs : s.Since s₁ tables h st) : s₁.seen.moments = h ++ s.seen.moments := congrArg History.moments hs.seen

theorem openFrames (hs : s.Since s₁ tables h st) : s₁.engine.openFrames = st.stack.height := by
  rw [Engine.openFrames, hs.active]
  rfl

/-- More calls come after what is known. -/
theorem exists_append (hs : s.Since s₁ tables h st) {calls : List HostCall} (hcalls : ∀ call ∈ calls, call ≠ .terminate)
    {h' : List Moment} {st' : EngineState} (hs' : s.Since (HostCall.performAll .history calls s₁).2 tables h' st') :
    ∃ new, (HostCall.performAll .history calls s₁).2.seen.moments = new ++ s₁.seen.moments ∧ h' = new ++ h := by
  obtain ⟨ms, st'', hgoesOn⟩ := HostCall.goesOn_performAll hs.active calls hcalls
  have hmoments : (HostCall.performAll .history calls s₁).2.seen.moments = ms.reverse ++ s₁.seen.moments :=
    congrArg History.moments hgoesOn.seen
  refine ⟨ms.reverse, hmoments, (List.append_left_inj s.seen.moments).1 ?_⟩
  rw [← hs'.moments, hmoments, hs.moments, List.append_assoc]

/-- The moments of a request are those of its evaluation, between those in which its frames are opened and closed. -/
theorem exists_moments (hs : s.Since s₁ tables h st) {h' : List Moment} {st' : EngineState}
    (hs' : s.Since (Host.requestValue .history node socket host s₁).2 tables h' st')
    (hexposed : (tables.exposed.socket? node socket).isSome = true) :
    let inside := ((s.engine.scene tables).inquire node socket host ⟨st, s₁.counters, s₁.seen⟩).2
    ∃ ms : List Moment, h' = (Moment.closing inside.seen.calls inside.state).reverse ++ ms ∧
      inside.state.stack.shape = ((st.stack.push (.fresh true none)).push (.fresh true (host.map .host))).shape ∧
      ∀ C : Chronicle, C.tells h st → C.tells ms inside.state := by
  intro inside
  obtain ⟨ms, hseen, hshape, htells⟩ :=
    (s.engine.scene tables).exists_course_inquire node socket host ⟨st, s₁.counters, s₁.seen⟩
  have hrequested := (congrArg (·.2.seen.moments) (hs.requestValue_apply node socket host)).symm.trans
    (congrArg History.moments hs'.seen)
  rw [requestValue_eq_inquire _ _ _ _ _ hexposed] at hrequested
  refine ⟨_, (List.append_left_inj s.seen.moments).1 (hrequested.symm.trans ?_), hshape, fun C => htells C⟩
  change (Moment.closing inside.seen.calls inside.state).reverse ++ inside.seen.moments = _
  have hmoments : inside.seen.moments = ms.reverse ++ (_ ++ s₁.seen.moments) := congrArg History.moments hseen
  rw [hmoments, hs.seen]
  simp only [List.append_assoc]

/-- What a request finds in the end has been written last by then. -/
theorem kept?_inquire (hs : s.Since s₁ tables h st) {h' : List Moment} {st' : EngineState}
    (hs' : s.Since (Host.requestValue .history node socket host s₁).2 tables h' st')
    (hexposed : (tables.exposed.socket? node socket).isSome = true) (cache : Cache) (hcache : cache ≠ .input) (l : Link) :
    ((s.engine.scene tables).inquire node socket host ⟨st, s₁.counters, s₁.seen⟩).2.state.stack.kept?
      (st.stack.height + 1) cache l = lastWritten cache l 0 (h'.drop 2) := by
  obtain ⟨ms, rfl, hshape, htells⟩ := hs.exists_moments node socket host hs' hexposed
  have hretains := htells (.values cache hcache) (fun _ => hs.retains cache hcache) fun m hm =>
    hs'.apart m (List.mem_append_right _ hm)
  have hheight : st.stack.height + 1 <
      ((s.engine.scene tables).inquire node socket host ⟨st, s₁.counters, s₁.seen⟩).2.state.stack.height := by
    rw [FrameStack.height_congr hshape]
    simp
  rw [hretains.kept _ hheight, FrameStack.root_congr hshape, hs.resting.bracketed.root_call]
  rfl

/-- Between brackets the end of a request makes no difference to what has been written last. -/
theorem lastWritten_drop (hs : s.Since s₁ tables h st) {h' : List Moment} {st' : EngineState}
    (hs' : s.Since (Host.requestValue .history node socket host s₁).2 tables h' st')
    (hexposed : (tables.exposed.socket? node socket).isSome = true) (hopen : 0 < st.stack.height) (cache : Cache)
    (l : Link) : lastWritten cache l 0 (h'.drop 2) = lastWritten cache l 0 h' := by
  obtain ⟨ms, rfl, hshape, -⟩ := hs.exists_moments node socket host hs' hexposed
  let inside := ((s.engine.scene tables).inquire node socket host ⟨st, s₁.counters, s₁.seen⟩).2
  have hheight : inside.state.stack.height = st.stack.height + 2 := by
    rw [FrameStack.height_congr hshape]
    simp
  have hclosed : inside.state.closeFrame.stack.height = st.stack.height + 1 := by
    rw [EngineState.closeFrame, FrameStack.height_pop, hheight]
    rfl
  have hclosed' : inside.state.closeBoth.stack.height = st.stack.height := by
    change inside.state.stack.pop.pop.height = _
    rw [FrameStack.height_pop, FrameStack.height_pop, hheight]
    rfl
  change _ = lastWritten cache l 0 (.change _ inside.state.closeBoth :: .change _ inside.state.closeFrame :: ms)
  rw [lastWritten_change _ _ (by omega), lastWritten_change _ _ (by omega)]
  rfl

/-- What a request answers has been written last by then: what the node has exposed, or else pushed. -/
theorem answer (hs : s.Since s₁ tables h st) {h' : List Moment} {st' : EngineState}
    (hs' : s.Since (Host.requestValue .history node socket host s₁).2 tables h' st') {answer : Option Value}
    (hanswer : (Host.requestValue .history node socket host s₁).1 = .ok answer) :
    answer = (lastWritten .exposed ⟨node, socket⟩ 0 (h'.drop 2)).or
      (lastWritten .output ⟨node, socket⟩ 0 (h'.drop 2)) := by
  have hrequested := (congrArg Prod.fst (hs.requestValue_apply node socket host)).symm.trans hanswer
  have hexposed : (tables.exposed.socket? node socket).isSome = true :=
    isSome_of_requestValue _ node socket host _ hrequested
  rw [requestValue_eq_inquire _ _ _ _ _ hexposed] at hrequested
  cases hevaluated : ((s.engine.scene tables).inquire node socket host ⟨st, s₁.counters, s₁.seen⟩).1 with
  | error failure =>
    simp only [hevaluated] at hrequested
    cases hrequested
  | ok exposed =>
    simp only [hevaluated] at hrequested
    have hkept := hs.kept?_inquire node socket host hs' hexposed .exposed (by decide) ⟨node, socket⟩
    have hpushed := hs.kept?_inquire node socket host hs' hexposed .output (by decide) ⟨node, socket⟩
    have hget := congrArg (·.get? socket) (exposedBy_evaluateAt hevaluated)
    rw [FrameStack.get?_exposedBy_eq_kept?] at hget
    exact (Except.ok.inj hrequested).symm.trans (congrArg₂ Option.or (hget.trans hkept) hpushed)

/-- The moments of a request for a node that needs no update. -/
theorem moments_of_skipped (hs : s.Since s₁ tables h st) {h' : List Moment} {st' : EngineState}
    (hs' : s.Since (Host.requestValue .history node socket host s₁).2 tables h' st')
    (hexposed : (tables.exposed.socket? node socket).isSome = true) {info : NodeInfo}
    (hnode : tables.executable.node? node = some info) :
    let opened := (st.push (.fresh true none)).push (.fresh true (host.map .host))
    let i := st.stack.height + 1
    opened.needsUpdate i node info.component = false → h' =
      (Moment.closing s₁.seen.calls opened).reverse ++ ⟨opened, s₁.seen.calls, .skipped i node⟩ ::
        ((Moment.opening s₁.seen.calls st (.fresh true none) (.fresh true (host.map .host))).reverse ++ h) := by
  intro opened i hneeds
  let r : Run History := ⟨st, s₁.counters, s₁.seen⟩
  have hinquire := inquire_of_marked (s.engine.scene tables) node socket host r hnode hneeds
  have hseen : (Host.requestValue .history node socket host s₁).2.seen = (Course.closed (Action.note .history
      (.skipped i node) (Course.opened r (.fresh true none) (.fresh true (host.map .host)))).2).seen := by
    rw [hs.requestValue_apply, requestValue_eq_inquire _ _ _ _ _ hexposed, hinquire]
  have hmoments := (congrArg History.moments hs'.seen).symm.trans (congrArg History.moments hseen)
  refine (List.append_left_inj s.seen.moments).1 (hmoments.trans ?_)
  change (Moment.closing s₁.seen.calls opened).reverse ++ ⟨opened, s₁.seen.calls, .skipped i node⟩ ::
    ((Moment.opening s₁.seen.calls st _ _).reverse ++ s₁.seen.moments) = _
  rw [hs.moments]
  simp only [List.append_assoc, List.cons_append]

/-- A request for a node that needs no update answers what has been written last before. -/
theorem answer_of_marked (hs : s.Since s₁ tables h st) {h' : List Moment} {st' : EngineState}
    (hs' : s.Since (Host.requestValue .history node socket host s₁).2 tables h' st')
    (hexposed : (tables.exposed.socket? node socket).isSome = true) {info : NodeInfo}
    (hnode : tables.executable.node? node = some info)
    (hneeds : ((st.push (.fresh true none)).push (.fresh true (host.map .host))).needsUpdate (st.stack.height + 1) node
      info.component = false) :
    (Host.requestValue .history node socket host s₁).1 =
      .ok ((lastWritten .exposed ⟨node, socket⟩ 0 h).or (lastWritten .output ⟨node, socket⟩ 0 h)) := by
  let opened := (st.push (.fresh true none)).push (.fresh true (host.map .host))
  let r : Run History := ⟨st, s₁.counters, s₁.seen⟩
  obtain ⟨answer, hanswer⟩ : ∃ answer, (Host.requestValue .history node socket host s₁).1 = .ok answer := by
    rw [hs.requestValue_apply, requestValue_eq_inquire _ _ _ _ _ hexposed,
      inquire_of_marked (s.engine.scene tables) node socket host r hnode hneeds]
    exact ⟨_, rfl⟩
  have hsince (cache : Cache) : lastWritten cache ⟨node, socket⟩ 0 (h'.drop 2) = lastWritten cache ⟨node, socket⟩ 0 h := by
    have hheight : 0 < opened.stack.height := Nat.lt_of_lt_of_eq (Nat.succ_pos _) (FrameStack.height_push ..).symm
    have hheight' : 0 < (st.push (.fresh true none)).stack.height :=
      Nat.lt_of_lt_of_eq (Nat.succ_pos _) (FrameStack.height_push ..).symm
    rw [hs.moments_of_skipped node socket host hs' hexposed hnode hneeds]
    change lastWritten cache _ 0 ([⟨opened, s₁.seen.calls, .skipped _ node⟩, .change _ opened, .change _ _] ++ h) = _
    refine lastWritten_append (List.forall_mem_cons.2 ⟨⟨hheight, rfl⟩, List.forall_mem_cons.2 ⟨⟨hheight, rfl⟩, ?_⟩⟩)
    exact List.forall_mem_singleton.2 ⟨hheight', rfl⟩
  rw [hanswer, hs.answer node socket host hs' hanswer, hsince, hsince]

/-- A request that has updated a node which remembers its updates forever leaves it marked. -/
theorem has_forever (hs : s.Since s₁ tables h st) {h' : List Moment} {st' : EngineState}
    (hs' : s.Since (Host.requestValue .history node socket host s₁).2 tables h' st') {answer : Option Value}
    (hanswer : (Host.requestValue .history node socket host s₁).1 = .ok answer) {info : NodeInfo} {c : NodeComponent}
    (hnode : tables.executable.node? node = some info)
    (hcomponent : s.engine.registry.get? info.component = some c.component) (hmemory : c.memory = some (.node, .forever))
    {new : List Moment} (hnew : h' = new ++ h) {m : Moment} (hm : m ∈ new) {i : Nat} {a : Activation}
    (hstarted : m.step = .started i a) : st'.forever.Has (.node node) := by
  let opened := (st.push (.fresh true none)).push (.fresh true (host.map .host))
  have hrequested := (congrArg Prod.fst (hs.requestValue_apply node socket host)).symm.trans hanswer
  have hexposed : (tables.exposed.socket? node socket).isSome = true :=
    isSome_of_requestValue _ node socket host _ hrequested
  rw [requestValue_eq_inquire _ _ _ _ _ hexposed] at hrequested
  cases hneeds : opened.needsUpdate (st.stack.height + 1) node info.component with
  | false =>
    -- nothing has been started if the node was left as it is
    have hmoments := hs.moments_of_skipped node socket host hs' hexposed hnode hneeds
    rw [hnew, ← List.cons_append, ← List.append_assoc] at hmoments
    rw [List.append_cancel_right hmoments] at hm
    simp only [Moment.closing, Moment.opening, List.reverse_cons, List.reverse_nil, List.nil_append,
      List.mem_append, List.mem_cons, List.not_mem_nil, or_false] at hm
    obtain (rfl | rfl) | rfl | rfl | rfl := hm
    all_goals cases hstarted
  | true =>
    cases hevaluated : ((s.engine.scene tables).inquire node socket host ⟨st, s₁.counters, s₁.seen⟩).1 with
    | error failure =>
      simp only [hevaluated] at hrequested
      cases hrequested
    | ok exposed =>
      have hforever := has_forever_of_evaluateAt hnode hcomponent hmemory
        (r := Course.opened ⟨st, s₁.counters, s₁.seen⟩ _ _) hneeds hevaluated
      have hactive := hs'.active
      rw [hs.requestValue_apply, requestValue_eq_inquire _ _ _ _ _ hexposed] at hactive
      obtain ⟨-, rfl⟩ := Prod.mk.inj (Option.some.inj hactive)
      exact hforever

end

end Session.Since

/-- What is covered everywhere stays so. -/
theorem Extent.covered_append {h : List Moment} {x : Subject} (hcovered : Extent.everywhere.Covered h x)
    (later : List Moment) : Extent.everywhere.Covered (later ++ h) x := by
  induction later with
  | nil => exact hcovered
  | cons m later ih =>
    obtain ⟨k, hlive, hextent, hof⟩ := ih
    exact ⟨k, ⟨hextent ▸ trivial, .inr hlive⟩, hextent, hof⟩

/-- A node that remembers its updates forever is not updated again, and its values are not kept for it. Once a request
has updated it and has got a value, no update of it is started in any later call of the activation; and a later
request, whatever was called for in between and whatever provider it brings, succeeds with what handlers of the node
have exposed last, or else pushed, since the outermost bracket was opened. So it gets nothing if no bracket is open,
and it gets the same value again if the bracket around the first request has stayed open and no handler of the node
has written the socket since. -/
theorem forever_marks_outlive_values (s : Session History) (tables : Tables)
    (hfresh : s.engine.active = some (tables, .fresh)) (hidle : s.seen.calls = []) (before between : List HostCall)
    (hbefore : ∀ call ∈ before, call ≠ .terminate) (hbetween : ∀ call ∈ between, call ≠ .terminate) (node : NodeId)
    (socket : String) (first again : Option Provider) {info : NodeInfo} {c : NodeComponent}
    (hnode : tables.executable.node? node = some info)
    (hcomponent : s.engine.registry.get? info.component = some c.component) (hmemory : c.memory = some (.node, .forever)) :
    let s₁ := (HostCall.performAll .history before s).2
    let asked := Host.requestValue .history node socket first s₁
    let s₃ := (HostCall.performAll .history between asked.2).2
    let answered := Host.requestValue .history node socket again s₃
    ∀ v new, asked.1 = .ok (some v) → asked.2.seen.moments = new ++ s₁.seen.moments →
      (∃ m ∈ new, m.updating? = some node) →
      ∃ later last since, s₃.seen.moments = later ++ asked.2.seen.moments ∧
        answered.2.seen.moments = last ++ s₃.seen.moments ∧ s₃.seen.moments = since ++ s.seen.moments ∧
        (∀ m ∈ last ++ later, m.updating? ≠ some node) ∧
        answered.1 = .ok ((lastWritten .exposed ⟨node, socket⟩ 0 since).or
          (lastWritten .output ⟨node, socket⟩ 0 since)) ∧
        (s₃.engine.openFrames = 0 → answered.1 = .ok none) ∧
        (0 < s₁.engine.openFrames →
          (∀ m ∈ later, 0 < m.state.stack.height ∧ ∀ cache, m.writes? cache ⟨node, socket⟩ 0 = none) →
          answered.1 = .ok (some v)) := by
  intro s₁ asked s₃ answered v new hasked hnew hupdated
  have hcall (provider : Option Provider) : ∀ call ∈ [HostCall.requestValue node socket provider], call ≠ .terminate :=
    List.forall_mem_singleton.2 HostCall.noConfusion
  have hsince (calls : List HostCall) := HostCall.since_performAll hfresh hidle calls
  -- what is known before and after the two requests
  have hbefore₂ := List.forall_mem_append.2 ⟨hbefore, hcall first⟩
  have hbefore₃ := List.forall_mem_append.2 ⟨hbefore₂, hbetween⟩
  obtain ⟨h₁, st₁, hs₁⟩ := hsince before hbefore
  obtain ⟨h₂, st₂, hs₂⟩ := hsince _ hbefore₂
  obtain ⟨h₃, st₃, hs₃⟩ := hsince _ hbefore₃
  obtain ⟨h₄, st₄, hs₄⟩ := hsince _ (List.forall_mem_append.2 ⟨hbefore₃, hcall again⟩)
  simp only [HostCall.performAll_append] at hs₂ hs₃ hs₄
  obtain ⟨new', hnew', rfl⟩ := hs₁.exists_append (hcall first) hs₂
  obtain rfl : new' = new := List.append_cancel_right (hnew'.symm.trans hnew)
  obtain ⟨later, hlater, rfl⟩ := hs₂.exists_append hbetween hs₃
  obtain ⟨last, hlast, rfl⟩ := hs₃.exists_append (hcall again) hs₄
  obtain ⟨m, hm, hupdating⟩ := hupdated
  obtain ⟨i, a, hstep, -⟩ := Moment.exists_of_updating? hupdating
  have hforever : st₂.forever.Has (.node node) :=
    hs₁.has_forever node socket first hs₂ hasked hnode hcomponent hmemory rfl hm hstep
  have hcovered := (hs₂.marked.forever _).1 hforever
  have hexposed : (tables.exposed.socket? node socket).isSome = true :=
    isSome_of_requestValue _ node socket first _
      ((congrArg Prod.fst (hs₁.requestValue_apply node socket first)).symm.trans hasked)
  have hanswer := hs₃.answer_of_marked node socket again hs₄ hexposed hnode
    (EngineState.needsUpdate_eq_false_iff.2 (.inl (.inl ((hs₃.marked.forever _).2 (Extent.covered_append hcovered later)))))
  refine ⟨later, last, _, hlater, hlast, hs₃.moments, ?_, hanswer, fun hnone => ?_, fun hopen hsame => ?_⟩
  · intro m hm hupdating
    obtain ⟨i, a, hstep, hpull, rfl⟩ := Moment.exists_of_updating? hupdating
    obtain ⟨late, early, hsplit⟩ := List.append_of_mem hm
    have hsplit' : last ++ (later ++ (new' ++ h₁)) = late ++ m :: (early ++ (new' ++ h₁)) := by
      rw [← List.append_assoc, hsplit, List.append_assoc, List.cons_append]
    obtain ⟨hdue, hmarked⟩ := hs₄.due _ m _ hsplit' (by rw [hstep]; exact Step.noConfusion)
    obtain ⟨k, hlive, hextent, hof⟩ := Extent.covered_append hcovered early
    exact hdue.not_covers hmarked hstep hpull hlive (hextent ▸ trivial) ((Marking.covers_iff hnode).2 (.inl hof))
  · have hclosed (cache : Cache) : lastWritten cache ⟨node, socket⟩ 0 (later ++ (new' ++ h₁)) = none :=
      lastWritten_of_closed fun m hm => Nat.le_of_eq ((hs₃.marked.height m hm).trans (hs₃.openFrames.symm.trans hnone))
    exact hanswer.trans (by rw [hclosed, hclosed, Option.none_or])
  · have hkept (cache : Cache) : lastWritten cache ⟨node, socket⟩ 0 (later ++ (new' ++ h₁)) =
        lastWritten cache ⟨node, socket⟩ 0 ((new' ++ h₁).drop 2) := by
      rw [lastWritten_append fun m hm => ⟨(hsame m hm).1, (hsame m hm).2 cache⟩,
        hs₁.lastWritten_drop node socket first hs₂ hexposed (hs₁.openFrames ▸ hopen)]
    exact hanswer.trans (by rw [hkept, hkept, ← hs₁.answer node socket first hs₂ hasked])

/-- A component that exposes a value and remembers its updates forever. -/
def onceComponent : NodeComponent :=
  ⟨"once", [], some fun _ => .expose "r" (.int 1) .succeed, none, some (.node, .forever)⟩

def onceTables : Tables :=
  ⟨⟨Table.empty.insert (socketKey "n" "r") ⟨"n", "r", "Number", "once"⟩, .empty⟩,
    ⟨Table.empty.insert "n" ⟨"once", .empty⟩, .empty, .empty⟩⟩

def onceSession : Session History :=
  ⟨⟨.ofComponents [onceComponent.component], ⟨20, 20⟩, none, some (onceTables, .fresh)⟩, .empty, [], []⟩

/-- The first of two requests is answered with the value, the second one with nothing, and the node has been updated
once. -/
theorem forever_value_lost :
    let asked := Host.requestValue .history "n" "r" none onceSession
    let again := Host.requestValue .history "n" "r" none asked.2
    asked.1.toOption = some (some (.int 1)) ∧ again.1.toOption = some none ∧
      asked.2.seen.moments.countP (·.updating? == some "n") = 1 ∧
      again.2.seen.moments.countP (·.updating? == some "n") = 1 := by
  decide +kernel

/-- In a bracket that is still open the value is found again, and the node is not updated for it. -/
theorem forever_marks_outlive_values_bracketed :
    let begun := (HostCall.performAll .history [.beginCycle] onceSession).2
    let asked := Host.requestValue .history "n" "r" none begun
    let updated := (HostCall.performAll .history [.updateNode "n" none] asked.2).2
    let answered := Host.requestValue .history "n" "r" none updated
    answered.1 = .ok (some (.int 1)) ∧ ∃ last, answered.2.seen.moments = last ++ updated.seen.moments ∧
      ∀ m ∈ last, m.updating? ≠ some "n" := by
  have hnode : onceTables.executable.node? "n" = some ⟨"once", .empty⟩ := by decide +kernel
  have hcomponent : onceSession.engine.registry.get? (NodeInfo.mk "once" .empty).component =
      some onceComponent.component := by rfl
  have hlasting := forever_marks_outlive_values onceSession onceTables rfl rfl [.beginCycle] [.updateNode "n" none]
    (List.forall_mem_singleton.2 HostCall.noConfusion) (List.forall_mem_singleton.2 HostCall.noConfusion) "n" "r"
    none none hnode hcomponent rfl
  have hruns :
      let begun := (HostCall.performAll .history [.beginCycle] onceSession).2
      let asked := Host.requestValue .history "n" "r" none begun
      let updated := (HostCall.performAll .history [.updateNode "n" none] asked.2).2
      begun.engine.openFrames = 1 ∧ begun.seen.moments.all (·.updating? == none) = true ∧
        asked.1.toOption = some (some (.int 1)) ∧ asked.2.seen.moments.any (·.updating? == some "n") = true ∧
        updated.seen.moments.length = asked.2.seen.moments.length + 5 ∧
        (updated.seen.moments.take 5).all (fun m => decide (0 < m.state.stack.height) &&
          [Cache.input, .output, .exposed].all (m.writes? · ⟨"n", "r"⟩ 0 == none)) = true := by decide +kernel
  dsimp only at hlasting hruns ⊢
  generalize (HostCall.performAll .history [.beginCycle] onceSession).2 = begun at hlasting hruns ⊢
  obtain ⟨ms, hseen, -⟩ := HostCall.exists_seen_perform (.requestValue "n" "r" none) begun
  have hmoments : (Host.requestValue .history "n" "r" none begun).2.seen.moments = ms.reverse ++ begun.seen.moments :=
    congrArg History.moments hseen
  generalize Host.requestValue .history "n" "r" none begun = asked at hlasting hruns hmoments ⊢
  generalize (HostCall.performAll .history [.updateNode "n" none] asked.2).2 = updated at hlasting hruns ⊢
  obtain ⟨hopen, hbegun, hasked, hupdated, hlength, hquiet⟩ := hruns
  have hanswered : asked.1 = .ok (some (.int 1)) := by
    cases hoption : asked.1 with
    | error failure =>
      rw [hoption] at hasked
      cases hasked
    | ok answer =>
      rw [hoption] at hasked
      exact congrArg Except.ok (Option.some.inj hasked)
  have hupdating : ∃ m ∈ ms.reverse, m.updating? = some "n" := by
    obtain ⟨m, hm, hupdating⟩ := List.any_eq_true.1 hupdated
    rw [hmoments] at hm
    refine ⟨m, (List.mem_append.1 hm).resolve_right fun hm => ?_, eq_of_beq hupdating⟩
    have hnone := eq_of_beq (List.all_eq_true.1 hbegun m hm)
    rw [hnone] at hupdating
    cases hupdating
  obtain ⟨later, last, -, hlater, hlast, -, hupdates, -, -, hsame⟩ := hlasting _ _ hanswered hmoments hupdating
  have htake : updated.seen.moments.take 5 = later := by
    rw [hlater, List.length_append] at hlength
    rw [hlater, List.take_left' (by omega)]
  rw [htake, List.all_eq_true] at hquiet
  refine ⟨hsame (by omega) fun m hm => ?_, last, hlast, fun m hm => hupdates m (List.mem_append_left _ hm)⟩
  obtain ⟨hheight, hwrites⟩ := Bool.and_eq_true_iff.1 (hquiet m hm)
  exact ⟨of_decide_eq_true hheight, fun cache => eq_of_beq (List.all_eq_true.1 hwrites cache (by cases cache <;> simp))⟩

end SocketGraph
