import SocketGraph.Proofs.Deliveries

/-! Propagations. The signals of a level are delivered one by one, each to a handler of its own, and the
signals that these handlers forward make up the next level. -/
namespace SocketGraph

/-- Some deliveries on a frame, one after the other, as the history tells of them. -/
structure Dispatched (scene : Scene) (calls : CallStack) (i : Nat) (r : Run History) (ms : List Moment)
    (ds : List Delivery) (r' : Run History) : Prop where
  recorded : Course.Recorded scene calls (.delivering i) r ms (.delivering i) r'
  deliveries : ∀ earlier, ms.foldl (Delivery.extend calls.length) earlier = ds.reverse ++ earlier
  signals : i < r.state.stack.height → ms.filterMap (Moment.signal? i) = ds.flatMap Delivery.signals

namespace Dispatched

variable {scene : Scene} {calls : CallStack} {i : Nat} {r r' r'' : Run History} {ms ms' : List Moment}
  {ds ds' : List Delivery}

theorem rest (h : r.seen.calls = calls) : Dispatched scene calls i r [] [] r :=
  ⟨.rest h, fun _ => rfl, fun _ => rfl⟩

theorem height (h : Dispatched scene calls i r ms ds r') :
    r'.state.stack.height = r.state.stack.height := h.recorded.2.height

theorem nesting (h : Dispatched scene calls i r ms ds r') : r'.state.nesting = r.state.nesting :=
  h.recorded.2.nesting

theorem trans (h : Dispatched scene calls i r ms ds r') (h' : Dispatched scene calls i r' ms' ds' r'') :
    Dispatched scene calls i r (ms ++ ms') (ds ++ ds') r'' where
  recorded := h.recorded.trans h'.recorded
  deliveries earlier := by
    rw [List.foldl_append, h.deliveries, h'.deliveries]
    simp
  signals hi := by
    rw [List.filterMap_append, h.signals hi, h'.signals (h.height ▸ hi)]
    simp

end Dispatched

namespace Course

variable {scene : Scene} {calls : CallStack} {st st' : EngineState} {i : Nat} {a : Activation}
  {g : Invocation} {ms : List Moment} {link : Link}

/-- The moments of a delivery to a handler. -/
def delivering (calls : CallStack) (st : EngineState) (i : Nat) (a : Activation) (link : Link)
    (ms : List Moment) (g : Invocation) (st' : EngineState) (outcome : Outcome Unit) : List Moment :=
  [⟨st, calls, .delivered i link⟩] ++ (Moment.change calls (st.enter i a) ::
    Moment.handled calls (st.enter i a) i a ms g st' outcome ++
      [Moment.change calls (st'.leave i)])

/-- What the activation of a handler has gathered are the sockets that its operations have forwarded
signals out of. -/
theorem forwarded_of_gathers {scripts : List Script} {depth height : Nat}
    (h : Course scene calls (handling i a) (st.enter i a) ms (.working g) st')
    (hi : i < st.stack.height) (hcause : a.cause = .push link.socket [])
    (hgathers : (⟨i, a, [], none⟩ : Invocation).Gathers g depth height ms scripts) :
    (st'.stack.active? i).elim [] Activation.forwarded = scripts.filterMap Script.forwarded? := by
  have hshape := h.shape (s := st.stack) rfl
  obtain ⟨hframe, hactivation⟩ := h.same
  rw [Role.on, hframe] at hshape
  rw [FrameStack.active?_congr hshape, FrameStack.active?_enter_self hi, Invocation.current, hactivation,
    hgathers.forwarded, Activation.sent_eq]
  simp [hcause, Activation.forwarded]

/-- A delivery to a handler, told moment by moment. -/
theorem exists_delivery (h : Course scene calls (handling i a) (st.enter i a) ms (.working g) st')
    (hi : i < st.stack.height) (hn : 0 < st.nesting ∧ st.nesting < scene.limits.recursionDepth)
    (hnode : a.node = link.node) (hcause : a.cause = .push link.socket []) (outcome : Outcome Unit) :
    ∃ d : Delivery, d.link = link ∧ d.outcome = some outcome ∧
      (st'.stack.active? i).elim [] Activation.forwarded = d.forwards ∧
      (∀ earlier, (delivering calls st i a link ms g st' outcome).foldl (Delivery.extend calls.length)
        earlier = d :: earlier) ∧
      (delivering calls st i a link ms g st' outcome).filterMap (Moment.signal? i) = d.signals ∧
      Course scene calls (.delivering i) st (delivering calls st i a link ms g st' outcome)
        (.delivering i) (st'.leave i) := by
  have hsignal : a.isSignal = true := by rw [Activation.isSignal, hcause]
  obtain ⟨scripts, hgathers⟩ := h.gathers _ g rfl rfl
  refine ⟨((Delivery.start link).performAll scripts).finish outcome, rfl, rfl, ?_, fun earlier => ?_,
    ?_, ?_⟩
  · exact forwarded_of_gathers h hi hcause hgathers
  · have hoperations := hgathers.operations (.start link :: earlier)
    simp [delivering, Moment.handled, hoperations]
  · have hsignals := hgathers.signals hsignal (by simpa using hi)
    rw [hnode] at hsignals
    refine Eq.trans ?_ hsignals
    simp [delivering, Moment.signal?, List.filterMap_cons]
  · exact (Course.delivered calls st i link).seq (.triggered outcome hsignal hn h)

end Course

namespace Delivery

variable {scene : Scene}

/-- Without a handler a delivery has failed if the answer to it is a failure. -/
theorem failure?_start {link : Link} {answer : Outcome Unit} (h : scene.receiver link = .error answer) :
    (start link).failure? scene = Outcome.failure? answer := by
  revert h
  unfold failure? Scene.receiver start
  cases scene.tables.executable.node? link.node with
  | none =>
    rintro ⟨⟩
    rfl
  | some info =>
    dsimp only
    cases scene.registry.get? info.component with
    | none =>
      rintro ⟨⟩
      rfl
    | some c =>
      dsimp only
      cases c.signal with
      | none =>
        rintro ⟨⟩
        rfl
      | some handler => exact nofun

/-- With a handler a delivery fails as the handler does. -/
theorem failure?_of_receiver {d : Delivery} {a : Activation} {script : Script}
    (h : scene.receiver d.link = .ok (a, script)) : d.failure? scene = d.outcome.bind Outcome.failure? := by
  obtain ⟨info, c, handler, hnode, hc, -⟩ := Scene.receiver_eq_ok.1 h
  rw [failure?, hnode]
  simp only [hc]

end Delivery

section
variable {scene : Scene} {below : Calls History} (hbelow : Course.Tracked scene below)
include hbelow

/-- A delivery to a handler: the operations that it performs are those of the delivery, and it is left
with the signals that they have forwarded. -/
theorem dispatched_handle {i : Nat} (a : Activation) (link : Link) (script : Script) (r : Run History)
    (hi : i < r.state.stack.height)
    (hn : 0 < r.state.nesting ∧ r.state.nesting < scene.limits.recursionDepth)
    (hnode : a.node = link.node) (hcause : a.cause = .push link.socket []) :
    let run := (Action.note .history (.delivered i link) >>= fun _ =>
      Action.changeStack .history (·.enter i a) >>= fun _ =>
      Course.handle scene below i a script >>= fun outcome =>
      Action.readStack (fun s => (s.active? i).elim [] Activation.forwarded) >>= fun forwarded =>
      Action.changeStack .history (·.leave i) >>= fun _ => pure (outcome, forwarded)) r
    ∃ ms d, Dispatched scene r.seen.calls i r ms [d] run.2 ∧ d.link = link ∧ d.outcome = some run.1.1 ∧
      run.1.2 = d.forwards := by
  obtain ⟨st, counters, calls, moments⟩ := r
  -- the run of the handler, after the signal is delivered and its node is active
  let r : Run History := ⟨st.enter i a, counters, calls,
    .change calls (st.enter i a) :: ⟨st, calls, .delivered i link⟩ :: moments⟩
  obtain ⟨ms, g, hcourse, hseen⟩ := Course.recorded_handle hbelow i a script r
  obtain ⟨d, hlink, houtcome, hforwards, hdeliveries, hsignals, hdelivering⟩ :=
    hcourse.exists_delivery hi hn hnode hcause (Course.handle scene below i a script r).1
  refine ⟨_, d, ⟨⟨?_, hdelivering⟩, hdeliveries, fun _ => ?_⟩, hlink, houtcome, hforwards⟩
  · refine (Course.seen_changeState (·.leave i) hseen).trans ?_
    simp [Course.delivering, Role.atWork, r]
  · rw [hsignals]
    simp

/-- A delivery, whether there is a handler for it or not: what it answers are its failure and the inputs
that its signals reach. -/
def Delivers (scene : Scene) (i : Nat) (link : Link) (r : Run History)
    (run : (Outcome Unit × List Link) × Run History) : Prop :=
  ∃ ms d, Dispatched scene r.seen.calls i r ms [d] run.2 ∧ d.link = link ∧
    d.failure? scene = Outcome.failure? run.1.1 ∧ run.1.2 = d.reached scene

omit hbelow in
variable (scene) in
theorem dispatched_start (i : Nat) (link : Link) (r : Run History) :
    Dispatched scene r.seen.calls i r [⟨r.state, r.seen.calls, .delivered i link⟩] [.start link]
      (Action.note .history (.delivered i link) r).2 :=
  ⟨⟨rfl, .delivered _ _ i link⟩, fun _ => if_pos rfl, fun _ => rfl⟩

theorem delivers_deliver (i : Nat) (link : Link) (r : Run History) (hi : i < r.state.stack.height)
    (hn : 0 < r.state.nesting ∧ r.state.nesting < scene.limits.recursionDepth) :
    Delivers scene i link r (deliver scene .history below i link r) := by
  rw [deliver_eq]
  cases hreceiver : scene.receiver link with
  | error answer => exact ⟨_, _, dispatched_start scene i link r, rfl, Delivery.failure?_start hreceiver, rfl⟩
  | ok reception =>
    obtain ⟨a, script⟩ := reception
    obtain ⟨ms, d, hdispatched, hlink, houtcome, hforwards⟩ := dispatched_handle hbelow a link script r hi hn
      (Scene.node_of_receiver hreceiver) (Scene.cause_of_receiver hreceiver)
    refine ⟨ms, d, hdispatched, hlink, ?_, ?_⟩
    · rw [Delivery.failure?_of_receiver (hlink ▸ hreceiver), houtcome]
      rfl
    · rw [Delivery.reached, hlink, ← hforwards]
      rfl

omit hbelow in
theorem deliverAll_cons_apply (i : Nat) (link : Link) (rest : List Link) (r : Run History) :
    deliverAll scene .history below i (link :: rest) r =
      let first := deliver scene .history below i link r
      let more := deliverAll scene .history below i rest first.2
      ((first.1.2 ++ more.1.1, (Outcome.failure? first.1.1).toList ++ more.1.2), more.2) := by
  rw [deliverAll]
  simp only [Bind.bind, StateT.bind]
  cases deliver scene .history below i link r with
  | mk result r' =>
    obtain ⟨outcome, next⟩ := result
    cases outcome <;> rfl

/-- The signals of a level are delivered one after the other. -/
theorem dispatched_deliverAll (i : Nat) (links : List Link) (r : Run History)
    (hi : i < r.state.stack.height)
    (hn : 0 < r.state.nesting ∧ r.state.nesting < scene.limits.recursionDepth) :
    let run := deliverAll scene .history below i links r
    ∃ ms ds, Dispatched scene r.seen.calls i r ms ds run.2 ∧ ds.map Delivery.link = links ∧
      run.1.1 = ds.flatMap (Delivery.reached scene) ∧
      run.1.2 = ds.filterMap (Delivery.failure? scene) := by
  induction links generalizing r with
  | nil => exact ⟨[], [], .rest rfl, rfl, rfl, rfl⟩
  | cons link rest ih =>
    obtain ⟨ms, d, hfirst, hlink, hfailure, hreached⟩ := delivers_deliver hbelow i link r hi hn
    obtain ⟨ms', ds, hrest, hlinks, hnext, hfailures⟩ :=
      ih (deliver scene .history below i link r).2 (hfirst.height ▸ hi) (hfirst.nesting ▸ hn)
    rw [hfirst.recorded.1] at hrest
    rw [deliverAll_cons_apply]
    refine ⟨_, _, hfirst.trans hrest, ?_, ?_, ?_⟩
    · simp [hlink, hlinks]
    · simp only [hnext, hreached]
      simp
    · simp only [hfailures, ← hfailure]
      cases hd : d.failure? scene <;> simp [hd]

/-- The levels of a propagation. Every level that is dispatched has an input, its deliveries are those
to its inputs in their order, and what they reach is the next level; what is left in the end is what the
last level has reached. -/
inductive Layered (scene : Scene) : Nat → List Link → List (List Delivery) → List Link → Prop
  | finished (levels : Nat) : Layered scene levels [] [] []
  | cut (links : List Link) (pending : links ≠ []) : Layered scene 0 links [] links
  | layer {levels : Nat} {links left : List Link} {layers : List (List Delivery)} (ds : List Delivery)
      (pending : links ≠ []) (dispatched : ds.map Delivery.link = links)
      (next : Layered scene levels (ds.flatMap (Delivery.reached scene)) layers left) :
      Layered scene (levels + 1) links (ds :: layers) left

/-- The failures of a propagation are those of its deliveries, and one more if it was cut. -/
def Scene.failuresOf (scene : Scene) (layers : List (List Delivery)) (left : List Link) : List Failure :=
  layers.flatten.filterMap (Delivery.failure? scene) ++
    if left = [] then [] else [.tooManyLevels scene.limits.signalLevels]

/-- A propagation goes on level by level. -/
theorem dispatched_walk (i levels : Nat) (tally : Tally) (links : List Link) (r : Run History)
    (hi : i < r.state.stack.height) (hn : links ≠ [] → 0 < r.state.nesting ∧
      r.state.nesting < scene.limits.recursionDepth) :
    let run := walk scene .history below i levels tally links r
    ∃ ms layers left, Dispatched scene r.seen.calls i r ms layers.flatten run.2 ∧
      Layered scene levels links layers left ∧
      run.1.failures = tally.failures ++ scene.failuresOf layers left := by
  induction levels generalizing tally links r with
  | zero =>
    cases links with
    | nil => exact ⟨[], [], [], .rest rfl, .finished _, by simp [walk, Scene.failuresOf]; rfl⟩
    | cons link rest =>
      exact ⟨[], [], _, .rest rfl, .cut _ (List.cons_ne_nil _ _), rfl⟩
  | succ levels ih =>
    cases links with
    | nil => exact ⟨[], [], [], .rest rfl, .finished _, by simp [walk, Scene.failuresOf]; rfl⟩
    | cons link rest =>
      obtain ⟨ms, ds, hlevel, hlinks, hnext, hfailures⟩ :=
        dispatched_deliverAll hbelow i (link :: rest) r hi (hn (List.cons_ne_nil _ _))
      -- the next level starts where this one has ended
      let level := deliverAll scene .history below i (link :: rest) r
      obtain ⟨ms', layers, left, hwalk, hlayered, hwalked⟩ :=
        ih ⟨tally.levels + 1, tally.handled + (link :: rest).length, tally.failures ++ level.1.2⟩
          level.1.1 level.2 (hlevel.height ▸ hi) fun _ => hlevel.nesting ▸ hn (List.cons_ne_nil _ _)
      rw [hlevel.recorded.1] at hwalk
      rw [hnext] at hlayered
      refine ⟨_, ds :: layers, left, hlevel.trans hwalk,
        .layer ds (List.cons_ne_nil _ _) hlinks hlayered, hwalked.trans ?_⟩
      rw [hfailures]
      simp [Scene.failuresOf]

/-- What a propagation does that is not refused: a course on the frames of a call of its own, in which
the signals are delivered level by level, and whose result is read off the inner one of these frames. -/
structure Propagated (scene : Scene) (socket : String) (sources : List NodeId)
    (provider : Option Provider) (r : Run History) (run : TriggerResult × Run History)
    (ms : List Moment) (st : EngineState) (layers : List (List Delivery)) (left : List Link) : Prop where
  course : Course scene r.seen.calls (.delivering (r.state.stack.height + 1))
    (r.state.deeper.openCall provider) ms (.delivering (r.state.stack.height + 1)) st
  state : run.2.state = st.closeBoth.shallower
  seen : run.2.seen = ⟨r.seen.calls,
    (Moment.propagating r.seen.calls r.state provider ms st).reverse ++ r.seen.moments⟩
  deliveries : ms.foldl (Delivery.extend r.seen.calls.length) [] = layers.flatten.reverse
  signals : ms.filterMap (Moment.signal? (r.state.stack.height + 1)) =
    layers.flatten.flatMap Delivery.signals
  layered : Layered scene scene.limits.signalLevels (frontier scene socket sources) layers left
  failures : run.1.failures = scene.failuresOf layers left
  result : ∃ f, st.stack.frame? (r.state.stack.height + 1) = some f ∧ run.1.signals = f.signals ∧
    run.1.values = f.exposed

omit hbelow in
/-- The moments in which a propagation opens and closes its frames tell of no deliveries. -/
theorem deliveries_propagating (calls : CallStack) (st : EngineState) (provider : Option Provider)
    (ms : List Moment) (st' : EngineState) :
    deliveries calls.length (Moment.propagating calls st provider ms st') =
      deliveries calls.length ms := by
  simp [deliveries, Moment.propagating, Moment.openingCall, Moment.opening, Moment.closing]

omit hbelow in
/-- The history of a propagation tells of its deliveries, level by level. -/
theorem deliveries_of_propagated {socket : String} {sources : List NodeId} {provider : Option Provider}
    {r : Run History} {run : TriggerResult × Run History} {ms : List Moment} {st : EngineState}
    {layers : List (List Delivery)} {left : List Link}
    (h : Propagated scene socket sources provider r run ms st layers left) :
    deliveries r.seen.calls.length (Moment.propagating r.seen.calls r.state provider ms st) =
      layers.flatten := by
  rw [deliveries_propagating, deliveries, h.deliveries, List.reverse_reverse]

omit hbelow in
theorem conclude_apply (i : Nat) (tally : Tally) {r : Run History} {f : Frame}
    (hf : r.state.stack.frame? i = some f) :
    conclude .history i tally r = (⟨f.signals, f.exposed, tally.failures⟩, r) := by
  rw [conclude, Action.log_bind_apply, Action.readStack_bind_apply]
  dsimp only
  rw [hf]
  rfl

omit hbelow in
/-- A propagation with a source that is not refused is not nested too deep. -/
theorem nesting_of_refused? {st : EngineState} {sources : List NodeId}
    (h : refused? scene st sources = none) (hsources : sources ≠ []) :
    st.nesting + 1 < scene.limits.recursionDepth := by
  refine Nat.lt_of_not_le fun hdeep => hsources ?_
  rwa [refused?, if_pos hdeep, List.head?_eq_none_iff] at h

theorem propagated_propagateAt (socket : String) (sources : List NodeId) (provider : Option Provider)
    (r : Run History) (hrefused : refused? scene r.state sources = none) :
    ∃ ms st layers left, Propagated scene socket sources provider r
      (propagateAt scene .history below socket sources provider r) ms st layers left := by
  -- the run one nesting deeper, and the body of the call
  let deeper : Run History := ⟨r.state.deeper, r.counters, r.seen.calls,
    .change r.seen.calls r.state.deeper :: r.seen.moments⟩
  let inside : Run History :=
    Course.opened deeper (.fresh true none) (.fresh true (provider.map .host))
  let body (frame : Nat) : Action History TriggerResult :=
    walk scene .history below frame scene.limits.signalLevels .start (frontier scene socket sources) >>=
      conclude .history frame
  have hi : r.state.stack.height + 1 < inside.state.stack.height := by
    change _ < (r.state.deeper.openCall provider).stack.height
    simp
  -- a propagation that reaches an input has a source, so it was not refused for its nesting
  have hn (hlinks : frontier scene socket sources ≠ []) :
      0 < r.state.nesting + 1 ∧ r.state.nesting + 1 < scene.limits.recursionDepth := by
    refine ⟨Nat.succ_pos _, nesting_of_refused? hrefused ?_⟩
    rintro rfl
    exact hlinks rfl
  obtain ⟨ms, layers, left, hwalk, hlayered, hfailures⟩ := dispatched_walk hbelow
    (r.state.stack.height + 1) scene.limits.signalLevels .start (frontier scene socket sources) inside hi
    hn
  obtain ⟨f, hf⟩ := FrameStack.exists_frame? (hwalk.height ▸ hi)
  have hbody : body (deeper.state.stack.height + 1) inside = _ := conclude_apply _ _ hf
  obtain ⟨hresult, hstate, hseen⟩ := Course.recorded_between (.fresh true none)
    (.fresh true (provider.map .host)) body deeper ms hbody hwalk.recorded.1
  have hrun : propagateAt scene .history below socket sources provider r =
      Action.nested .history (propagateLevels scene .history below socket sources provider) r := by
    rw [propagateAt, Action.state_bind_apply, hrefused]
  have hnested : Action.nested .history
      (propagateLevels scene .history below socket sources provider) r =
    let run := Action.callScope .history provider body deeper
    (run.1, (Action.changeState .history .shallower run.2).2) := rfl
  rw [hrun, hnested]
  refine ⟨ms, _, layers, left, hwalk.recorded.2, ?_, ?_, ?_, hwalk.signals hi, hlayered, ?_, f, hf, ?_,
    ?_⟩
  · exact congrArg EngineState.shallower hstate
  · refine (Course.seen_changeState .shallower hseen).trans ?_
    rw [hstate]
    simp [Moment.propagating, Moment.openingCall, deeper]
  · exact (hwalk.deliveries []).trans (List.append_nil _)
  · exact (congrArg TriggerResult.failures hresult).trans hfailures
  · exact congrArg TriggerResult.signals hresult
  · exact congrArg TriggerResult.values hresult

omit hbelow in
/-- A propagation that is refused leaves nothing behind. -/
theorem propagateAt_of_refused (socket : String) (sources : List NodeId) (provider : Option Provider)
    (r : Run History) {source : NodeId} (hrefused : refused? scene r.state sources = some source) :
    propagateAt scene .history below socket sources provider r =
      (⟨[], .empty, [.tooDeep source scene.limits.recursionDepth]⟩, r) := by
  rw [propagateAt, Action.state_bind_apply, hrefused]
  rfl

theorem propagates_propagateAt (socket : String) (node : NodeId) (provider : Option Provider)
    (r : Run History) : Course.Propagates scene provider r
      (propagateAt scene .history below socket [node] provider r).2 := by
  cases hrefused : refused? scene r.state [node] with
  | some source =>
    rw [propagateAt_of_refused socket _ provider r hrefused]
    exact .inl ⟨rfl, rfl⟩
  | none =>
    obtain ⟨ms, st, layers, left, h⟩ := propagated_propagateAt hbelow socket _ provider r hrefused
    exact .inr ⟨nesting_of_refused? hrefused (List.cons_ne_nil _ _), ms, st, h.course, h.state, h.seen⟩

end

/-- The histories of all calls of a scene are courses, by induction on the levels of nesting that are
left to them. -/
theorem Scene.tracked_calls (scene : Scene) (levels : Nat) :
    Course.Tracked scene (scene.calls .history levels) := by
  induction levels with
  | zero => exact ⟨fun _ _ _ _ => Course.follows_pure _, fun _ _ _ _ => .inl ⟨rfl, rfl⟩⟩
  | succ levels ih =>
    exact ⟨fun _ i node requested => Course.follows_evaluateAt ih i node requested,
      fun socket node provider r => propagates_propagateAt ih socket node provider r⟩

end SocketGraph
