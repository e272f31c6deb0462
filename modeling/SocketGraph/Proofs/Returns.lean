import SocketGraph.Proofs.Lookups
import SocketGraph.Proofs.Ownership
import SocketGraph.Proofs.Repeatable
import SocketGraph.Proofs.Repetition
import SocketGraph.Proofs.Shadowing

/-! What linked scenes return. A gateway that has delivered a signal inside copies all results of the propagation
out: the signals are forwarded, the values are pushed, and failures are handed on, with nothing lost because of
another one. -/
namespace SocketGraph

/-- A propagation leaves the frames as it has found them, apart from their contents, whoever watches. -/
theorem Scene.shape_propagate {ω : Type} (scene : Scene) (watch : Watcher ω) (levels : Nat) (socket : String)
    (sources : List NodeId) (provider : Option Provider) (r : Run ω) :
    ((scene.calls watch levels).propagate socket sources provider r).2.state.stack.shape =
      r.state.stack.shape := by
  -- a run with the same state under the watcher that keeps every moment
  let r' : Run History := ⟨r.state, r.counters, [], []⟩
  obtain ⟨-, ⟨hstate, -⟩, -⟩ := (Likeness.agree_calls (Likeness.lasting_unwatched watch .history)
    (fun _ => Likeness.counting_unwatched watch .history) (scene.registry.counts_of_allowed trivial)
    levels r.state.nesting).propagate socket sources provider r r' ⟨rfl, rfl⟩ rfl
  refine (congrArg (·.stack.shape) hstate).trans ?_
  cases levels with
  | zero => rfl
  | succ levels =>
    change (propagateAt scene .history _ socket sources provider r').2.state.stack.shape = r'.state.stack.shape
    cases hrefused : refused? scene r'.state sources with
    | some source => rw [propagateAt_of_refused socket sources provider r' hrefused]
    | none =>
      obtain ⟨ms, st, layers, left, h⟩ :=
        propagated_propagateAt (scene.tracked_calls levels) socket sources provider r' hrefused
      rw [h.state]
      exact EngineState.shape_closeBoth (h.course.shape (EngineState.shape_pushBoth rfl))

section
variable {ω α : Type} {watch : Watcher ω} {r : Run ω}

/-- A scene that is left as it was found is closed again without a trace. -/
theorem shape_sceneScope {body : Nat → Action ω α}
    (hbody : ∀ i (r : Run ω), (body i r).2.state.stack.shape = r.state.stack.shape) (caller : Nat) (p : Pairings) :
    (Action.sceneScope watch caller p body r).2.state.stack.shape = r.state.stack.shape := by
  let opened := ((r.change watch (·.push (.fresh false (some (.gateway ⟨caller, p⟩))))).change watch
    (·.push (.fresh true none)))
  have hinside : (body opened.state.stack.top opened).2.state.stack.shape =
      ((r.state.stack.push (.fresh false (some (.gateway ⟨caller, p⟩)))).push (.fresh true none)).shape :=
    hbody _ opened
  exact EngineState.shape_closeBoth hinside

end

namespace FrameStack

variable {s t : FrameStack} {i : Nat}

/-- An output has the value that was pushed last. -/
theorem output?_putOutput (hi : i < s.height) (l l' : Link) (v : Value) :
    (s.putOutput i l v).output? i l' = if l' = l then some v else s.output? i l' := by
  refine (kept?_keep hi i .output .output l l' v).trans ?_
  simp only [sees_self, true_and, and_true]
  rfl

theorem output?_of_view (h : s.view Frame.outputs = t.view Frame.outputs) (i : Nat) (l : Link) :
    s.output? i l = t.output? i l :=
  readThrough_of_view h (·.get? l.node l.socket) i

/-- An output after some values have been pushed, each of them for its own socket. -/
theorem output?_foldl_putOutput (node : NodeId) {values : List (String × Value)} {value? : String → Option Value}
    (hvalue : ∀ k v, (k, v) ∈ values → value? k = some v) (hi : i < s.height) (k : String) :
    (values.foldl (fun s e => s.putOutput i ⟨node, e.1⟩ e.2) s).output? i ⟨node, k⟩ =
      if k ∈ values.map Prod.fst then value? k else s.output? i ⟨node, k⟩ := by
  induction values generalizing s with
  | nil => simp
  | cons e rest ih =>
    obtain ⟨first, v⟩ := e
    have hhead := hvalue first v List.mem_cons_self
    rw [List.foldl_cons, ih (fun k v h => hvalue k v (List.mem_cons_of_mem _ h)) (by simpa [putOutput] using hi),
      output?_putOutput hi]
    by_cases hrest : k ∈ rest.map Prod.fst
    · simp [hrest]
    · by_cases hk : k = first
      · subst hk
        simp [hrest, hhead]
      · simp [hrest, hk]

theorem shape_foldl_putOutput (s : FrameStack) (i : Nat) (node : NodeId) (values : List (String × Value)) :
    (values.foldl (fun s e => s.putOutput i ⟨node, e.1⟩ e.2) s).shape = s.shape := by
  induction values generalizing s with
  | nil => rfl
  | cons e rest ih => exact (ih _).trans (shape_putOutput s i _ _)

end FrameStack

section
variable {ω : Type} (scene : Scene) (watch : Watcher ω) (below : Calls ω) {i : Nat} {a : Activation} {r : Run ω}

/-- Signals that are forwarded one after another join the activation in this order. -/
theorem perform_forward_all (done : List String) (hsignal : a.isSignal = true)
    (hactive : r.state.stack.active? i = some (a.sent done)) (sockets : List String) (rest : Script) :
    ∃ r', perform scene watch below i a (sockets.foldr (fun socket next => .forward socket next) rest) r =
        perform scene watch below i a rest r' ∧
      r'.state.stack.active? i = some (a.sent (done ++ sockets)) ∧
      r'.state.stack.view Frame.outputs = r.state.stack.view Frame.outputs := by
  induction sockets generalizing r done with
  | nil => exact ⟨r, rfl, by rwa [List.append_nil], rfl⟩
  | cons socket sockets ih =>
    let noted := (Action.note watch (.performed i a
      (.forward socket (sockets.foldr (fun socket next => .forward socket next) rest))) r).2
    let forwarded := (Action.changeStack watch (·.forward i socket) noted).2
    have hforwarded : forwarded.state.stack.active? i = some (a.sent (done ++ [socket])) := by
      change (r.state.stack.forward i socket).active? i = _
      rw [FrameStack.active?_eq_head?] at hactive ⊢
      rw [FrameStack.activeOn_forward, if_pos rfl, List.head?_modifyHead, hactive]
      simp
    obtain ⟨r', hperform, hactive', hview⟩ := ih _ hforwarded
    refine ⟨r', ?_, ?_, ?_⟩
    · rw [List.foldr_cons, perform_forward_of_active scene watch below socket _ hactive, if_pos hsignal]
      exact hperform
    · rwa [List.append_assoc] at hactive'
    · exact hview.trans (FrameStack.view_modify (fun _ => rfl) fun _ => rfl)

/-- Values that are pushed one after another. -/
theorem perform_push_all (values : List (String × Value)) (rest : Script) :
    ∃ r', perform scene watch below i a (values.foldr (fun e next => .push e.1 e.2 next) rest) r =
        perform scene watch below i a rest r' ∧
      r'.state.stack = values.foldl (fun s e => s.putOutput i ⟨a.node, e.1⟩ e.2) r.state.stack := by
  induction values generalizing r with
  | nil => exact ⟨r, rfl, rfl⟩
  | cons e values ih =>
    obtain ⟨r', hperform, hstack⟩ := ih (r := (Action.changeStack watch (·.putOutput i ⟨a.node, e.1⟩ e.2)
      (Action.note watch (.performed i a (.push e.1 e.2
        (values.foldr (fun e next => .push e.1 e.2 next) rest))) r).2).2)
    exact ⟨r', hperform, hstack⟩

end
namespace Gateway

/-- How a gateway ends once its scene has returned: it fails with all failures of the scene, if there are any. -/
def verdict (node : NodeId) (failures : List Failure) : Outcome Unit :=
  if failures = [] then .ok () else .error (.linkedScene node failures)

/-- What a gateway does with what its scene returns: signals and values are copied out, and then it ends. -/
def convey (a : Activation) (p : Pairings) (result : TriggerResult) : Script :=
  forwardPaired p (pushPaired p (.done (verdict a.node result.failures))
    (result.values.entries.flatMap fun e => exposedBy e.1 e.2)) result.signals

theorem signal_of_paired {a : Activation} {socket : String} {p : Pairings} {target : Link}
    (hp : pairings a.attributes = .ok p) (htarget : p.get? socket = some target) :
    signal a socket = .emit (.logged (.gatewayEntered a.node socket target.node target.socket))
      (.pushScene p target (convey a p)) := by
  unfold signal enter
  rw [hp]
  dsimp only
  rw [htarget]
  dsimp only
  refine congrArg _ (congrArg _ (funext fun result => ?_))
  unfold convey verdict
  cases hfailures : result.failures <;> simp [TriggerResult.succeeded, hfailures, Script.succeed, Script.fail]

/-- The values that a gateway pushes for what its scene exposes. -/
theorem mem_pairedValues_exposures {p : Pairings} {values : Table (Table Value)} {socket : String} {v : Value} :
    (socket, v) ∈ pairedValues p (values.entries.flatMap fun e => exposedBy e.1 e.2) ↔
      ((p.get? socket).bind fun target => SocketValues.get? values target.node target.socket) = some v := by
  have hsplit : pairedValues p (values.entries.flatMap fun e => exposedBy e.1 e.2) =
      values.entries.flatMap fun e => pairedValues p (exposedBy e.1 e.2) := List.flatMap_assoc
  rw [hsplit, List.mem_flatMap]
  simp only [mem_pairedValues]
  constructor
  · rintro ⟨⟨node, exposed⟩, he, inner, hsocket, hv⟩
    have hexposed : Table.get? values node = some exposed := Table.get?_eq_some_iff.2 he
    simp only [hsocket, Option.bind_some, SocketValues.get?, hexposed, hv]
  · intro h
    obtain ⟨⟨node, inner⟩, hsocket, h⟩ := Option.bind_eq_some_iff.1 h
    obtain ⟨exposed, hexposed, hv⟩ := Option.bind_eq_some_iff.1 h
    exact ⟨(node, exposed), Table.get?_eq_some_iff.1 hexposed, inner, hsocket, hv⟩

/-- What a gateway has done on its frame when it ends, given the frames as its scene has left them: it has forwarded
each signal of the scene out of all sockets that are paired with it, and each of its outputs that is paired with a
value of the scene has this value. -/
structure Conveys (p : Pairings) (result : TriggerResult) (frame : Nat) (node : NodeId) (s t : FrameStack) : Prop where
  forwarded : (t.active? frame).map Activation.forwarded = some (result.signals.flatMap p.socketsFor)
  outputs : ∀ socket, t.output? frame ⟨node, socket⟩ =
    ((p.get? socket).bind fun target => SocketValues.get? result.values target.node target.socket).or
      (s.output? frame ⟨node, socket⟩)

/-- Copying out succeeds before the gateway fails for what has failed in its scene. -/
theorem perform_convey {ω : Type} (scene : Scene) (watch : Watcher ω) (below : Calls ω) {frame : Nat} {a : Activation}
    {socket : String} (p : Pairings) (result : TriggerResult) {r : Run ω} (hcause : a.cause = .push socket [])
    (hactive : r.state.stack.active? frame = some a) (hframe : frame < r.state.stack.height) :
    ∃ r', perform scene watch below frame a (convey a p result) r = (verdict a.node result.failures, r') ∧
      Conveys p result frame a.node r.state.stack r'.state.stack := by
  have hsignal : a.isSignal = true := by rw [Activation.isSignal, hcause]
  let values := pairedValues p (result.values.entries.flatMap fun e => exposedBy e.1 e.2)
  let ending : Script := .done (verdict a.node result.failures)
  obtain ⟨r₁, hforward, hforwarded, hview⟩ := perform_forward_all scene watch below [] hsignal hactive
    (result.signals.flatMap p.socketsFor) (values.foldr (fun e next => .push e.1 e.2 next) ending)
  obtain ⟨r₂, hpush, hstack⟩ := perform_push_all scene watch below (i := frame) (a := a) (r := r₁) values ending
  refine ⟨r₂, ?_, ⟨?_, fun socket => ?_⟩⟩
  · rw [convey, pushPaired_eq, forwardPaired]
    exact hforward.trans hpush
  · rw [hstack, FrameStack.active?_congr (FrameStack.shape_foldl_putOutput ..), hforwarded, Activation.sent_eq, hcause]
    rfl
  · have hheight : frame < r₁.state.stack.height := FrameStack.height_of_view hview ▸ hframe
    rw [hstack, FrameStack.output?_foldl_putOutput a.node (fun k v => mem_pairedValues_exposures.1) hheight,
      FrameStack.output?_of_view hview]
    cases hvalue : (p.get? socket).bind fun target => SocketValues.get? result.values target.node target.socket with
    | none =>
      rw [if_neg, Option.none_or]
      intro hpushed
      obtain ⟨⟨_, v⟩, hmem, rfl⟩ := List.mem_map.1 hpushed
      exact Option.some_ne_none v ((mem_pairedValues_exposures.1 hmem).symm.trans hvalue)
    | some v =>
      rw [if_pos (List.mem_map_of_mem (mem_pairedValues_exposures.2 hvalue)), Option.some_or]

end Gateway

section
variable {ω : Type} (scene : Scene) (watch : Watcher ω) (below : Calls ω)

/-- A delivery to a gateway until its scene has returned. -/
def deliverInside (frame : Nat) (link : Link) (a : Activation) (p : Pairings) (target : Link) :
    Action ω TriggerResult := do
  let entered : Event := .logged (.gatewayEntered a.node link.socket target.node target.socket)
  let inside : Script := .pushScene p target (Gateway.convey a p)
  Action.note watch (.delivered frame link)
  Action.changeStack watch (·.enter frame a)
  Action.note watch (.started frame a)
  Action.note watch (.performed frame a (.emit entered inside))
  Action.emit watch entered
  Action.note watch (.performed frame a inside)
  Action.sceneScope watch frame p fun _ => below.propagate target.socket [target.node] none

/-- A delivery to a gateway until its handler is finished: what its scene has returned is copied out then. -/
def deliverFinished (frame : Nat) (link : Link) (a : Activation) (p : Pairings) (target : Link) :
    Action ω (Outcome Unit) := do
  let result ← deliverInside watch below frame link a p target
  let outcome ← perform scene watch below frame a (Gateway.convey a p result)
  Action.note watch (.finished frame a outcome)
  pure outcome

/-- The moment that the handler is finished is the last one by then, with the frames as they stand. -/
theorem head?_deliverFinished (scene : Scene) (below : Calls History) (frame : Nat) (link : Link) (a : Activation)
    (p : Pairings) (target : Link) (r : Run History) :
    let finished := deliverFinished scene .history below frame link a p target r
    finished.2.seen.moments.head?.map (fun m => (m.step, m.state)) =
      some (.finished frame a finished.1, finished.2.state) := rfl

/-- A delivery on a paired socket of a gateway is one inside, after which all is copied out, and the signals that the
handler has forwarded are handed on. -/
theorem deliver_of_paired (frame : Nat) {link : Link} {info : NodeInfo} {p : Pairings} {target : Link}
    (hinfo : scene.tables.executable.node? link.node = some info)
    (hgateway : scene.registry.get? info.component = some Gateway.component)
    (hp : Gateway.pairings info.attributes = .ok p) (htarget : p.get? link.socket = some target) :
    let a := Gateway.component.activation link.node info.attributes (.push link.socket [])
    deliver scene watch below frame link = (do
      let outcome ← deliverFinished scene watch below frame link a p target
      let forwarded ← Action.readStack fun s => (s.active? frame).elim [] Activation.forwarded
      Action.changeStack watch (·.leave frame)
      pure (outcome, forwarded.flatMap (scene.tables.executable.consumers link.node))) := by
  intro a
  have hreceiver : scene.receiver link = .ok (a, Gateway.signal a link.socket) :=
    Scene.receiver_eq_ok.2 ⟨info, Gateway.component, Gateway.signal, hinfo, hgateway, rfl, rfl, rfl⟩
  rw [deliver_eq, hreceiver, Gateway.signal_of_paired hp htarget]
  rfl

/-- What the first delivery of a level reaches comes first, and so does its failure, which is only reported before
the others follow. -/
theorem deliverAll_cons (frame : Nat) (link : Link) (r : Run ω) :
    ∃ told : Run ω, ∀ links, deliverAll scene watch below frame (link :: links) r =
      let first := deliver scene watch below frame link r
      let more := deliverAll scene watch below frame links told
      ((first.1.2 ++ more.1.1, (Outcome.failure? first.1.1).toList ++ more.1.2), more.2) := by
  simp only [deliverAll, Bind.bind, StateT.bind]
  cases deliver scene watch below frame link r with
  | mk result r' =>
    obtain ⟨outcome, next⟩ := result
    cases outcome <;> exact ⟨_, fun _ => rfl⟩

/-- A level that is dispatched in two parts. -/
theorem deliverAll_append (frame : Nat) (links more : List Link) (r : Run ω) :
    deliverAll scene watch below frame (links ++ more) r =
      let first := deliverAll scene watch below frame links r
      let second := deliverAll scene watch below frame more first.2
      ((first.1.1 ++ second.1.1, first.1.2 ++ second.1.2), second.2) := by
  induction links generalizing r with
  | nil => rfl
  | cons link links ih =>
    obtain ⟨told, hcons⟩ := deliverAll_cons scene watch below frame link r
    simp only [List.cons_append, hcons, ih told, List.append_assoc]

/-- What one delivery of a level reaches stands between what the others reach, and its failure between theirs. -/
theorem deliverAll_around (frame : Nat) (before : List Link) (link : Link) (after : List Link) (r : Run ω) :
    let earlier := deliverAll scene watch below frame before r
    let delivered := deliver scene watch below frame link earlier.2
    ∃ later failures r', deliverAll scene watch below frame (before ++ link :: after) r =
      ((earlier.1.1 ++ (delivered.1.2 ++ later),
        earlier.1.2 ++ ((Outcome.failure? delivered.1.1).toList ++ failures)), r') := by
  intro earlier delivered
  obtain ⟨told, hcons⟩ :=
    deliverAll_cons scene watch below frame link (deliverAll scene watch below frame before r).2
  simp only [deliverAll_append, hcons]
  exact ⟨_, _, _, rfl⟩

theorem height_deliverAll (levels frame : Nat) (links : List Link) {r : Run ω} (h : frame < r.state.stack.height) :
    (deliverAll scene watch (scene.calls watch levels) frame links r).2.state.stack.height =
      r.state.stack.height := by
  have hserves := (Upkeep.settled scene watch).serves_calls levels
  exact (Upkeep.settled scene watch).height (Upkeep.keeps_deliverAll hserves frame links r h)

/-- When the scene of a gateway returns, the frames stand as they did when the gateway was called, and what it returns
is what the signal has set off from the paired node of the scene. -/
theorem deliverInside_returns (levels : Nat) {frame : Nat} (link : Link) (a : Activation) (p : Pairings) (target : Link)
    {r : Run ω} (hframe : frame < r.state.stack.height) :
    let below := scene.calls watch levels
    let inside := deliverInside watch below frame link a p target r
    (∃ opened : Run ω, opened.state.stack = ((r.state.stack.enter frame a).push
        (.fresh false (some (.gateway ⟨frame, p⟩)))).push (.fresh true none) ∧
      inside.1 = (below.propagate target.socket [target.node] none opened).1) ∧
    inside.2.state.stack.active? frame = some a ∧ frame < inside.2.state.stack.height := by
  intro below inside
  have hshape : inside.2.state.stack.shape = (r.state.stack.enter frame a).shape := by
    refine shape_sceneScope (fun _ r => scene.shape_propagate watch levels _ _ _ r) frame p
  refine ⟨⟨_, rfl, rfl⟩, ?_, ?_⟩
  · rw [FrameStack.active?_congr hshape, FrameStack.active?_enter_self hframe]
  · rwa [FrameStack.height_congr hshape, FrameStack.height_enter]

end

section
variable {ω : Type} {scene : Scene} {link : Link} {info : NodeInfo} {p : Pairings} {target : Link}

/-- What a delivery to a gateway hands on: the inputs that are reached by the signals of its scene, through all sockets
that they are paired with. -/
def Gateway.reached (scene : Scene) (node : NodeId) (p : Pairings) (result : TriggerResult) : List Link :=
  (result.signals.flatMap p.socketsFor).flatMap (scene.tables.executable.consumers node)

/-- A delivery to a gateway conveys what its scene has returned and hands the signals on, however it ends. -/
theorem deliver_conveys (hinfo : scene.tables.executable.node? link.node = some info)
    (hgateway : scene.registry.get? info.component = some Gateway.component)
    (hp : Gateway.pairings info.attributes = .ok p) (htarget : p.get? link.socket = some target) (watch : Watcher ω)
    (levels : Nat) {frame : Nat} {r : Run ω} (hframe : frame < r.state.stack.height) :
    let below := scene.calls watch levels
    let a := Gateway.component.activation link.node info.attributes (.push link.socket [])
    let inside := deliverInside watch below frame link a p target r
    let finished := deliverFinished scene watch below frame link a p target r
    let delivered := deliver scene watch below frame link r
    delivered.1 = (Gateway.verdict link.node inside.1.failures, Gateway.reached scene link.node p inside.1) ∧
      finished.1 = Gateway.verdict link.node inside.1.failures ∧
      Gateway.Conveys p inside.1 frame link.node inside.2.state.stack finished.2.state.stack ∧
      delivered.2.state.stack = finished.2.state.stack.leave frame := by
  intro below a inside finished delivered
  obtain ⟨-, hactive, hheight⟩ := deliverInside_returns scene watch levels link a p target hframe
  obtain ⟨r', hperform, hconveys⟩ := Gateway.perform_convey scene watch below p inside.1 (a := a) rfl hactive hheight
  have hfinished : finished = (Gateway.verdict link.node inside.1.failures,
      (Action.note watch (.finished frame a (Gateway.verdict link.node inside.1.failures)) r').2) := by
    change deliverFinished scene watch below frame link a p target r = _
    rw [deliverFinished, Action.bind_apply, Action.bind_apply, hperform]
    rfl
  have hdelivered : delivered = ((finished.1, ((finished.2.state.stack.active? frame).elim []
      Activation.forwarded).flatMap (scene.tables.executable.consumers link.node)),
      (Action.changeStack watch (·.leave frame) finished.2).2) := by
    change deliver scene watch below frame link r = _
    rw [deliver_of_paired scene watch below frame hinfo hgateway hp htarget]
    rfl
  have hforwarded : (r'.state.stack.active? frame).elim [] Activation.forwarded =
      inside.1.signals.flatMap p.socketsFor := by
    obtain ⟨b, hb, hforwarded⟩ := Option.map_eq_some_iff.1 hconveys.forwarded
    rw [hb]
    exact hforwarded
  rw [hdelivered, hfinished]
  exact ⟨congrArg (Prod.mk _) (congrArg (List.flatMap _) hforwarded), rfl, hconveys, rfl⟩

/-- A level that is dispatched is followed by what its deliveries have reached. -/
theorem walk_succ (scene : Scene) (watch : Watcher ω) (below : Calls ω) (frame left : Nat) (tally : Tally)
    {links : List Link} (hlinks : links ≠ []) (r : Run ω) :
    let level := deliverAll scene watch below frame links r
    walk scene watch below frame (left + 1) tally links r =
      walk scene watch below frame left
        ⟨tally.levels + 1, tally.handled + links.length, tally.failures ++ level.1.2⟩ level.1.1 level.2 := by
  cases links with
  | nil => exact absurd rfl hlinks
  | cons link links => rfl

/-- The results of a scene are conveyed without loss, whatever fails. When a signal is delivered to a paired socket of a
gateway, its scene is called for the target of the socket, and what it returns is copied out: its signals are
forwarded in their order, each out of all sockets that are paired with it, and the outputs that are paired with values
have these values. The gateway then fails if anything has failed in its scene, and with all of it. In both cases the
inputs that are reached by the forwarded signals stand in the next level of the propagation around it, next to what
the other deliveries of the level reach, and a failure is noted among theirs. -/
theorem gateway_conveys_losslessly (hinfo : scene.tables.executable.node? link.node = some info)
    (hgateway : scene.registry.get? info.component = some Gateway.component)
    (hp : Gateway.pairings info.attributes = .ok p) (htarget : p.get? link.socket = some target) (watch : Watcher ω)
    (levels frame : Nat) :
    let below := scene.calls watch levels
    let a := Gateway.component.activation link.node info.attributes (.push link.socket [])
    -- the sockets paired with a socket of the scene, in ascending order
    (∀ inner, (p.socketsFor inner).Pairwise (· < ·) ∧ ∀ own, own ∈ p.socketsFor inner ↔ p.get? own = some inner) ∧
    (∀ r : Run ω, frame < r.state.stack.height →
      let inside := deliverInside watch below frame link a p target r
      let finished := deliverFinished scene watch below frame link a p target r
      let delivered := deliver scene watch below frame link r
      -- the scene is called for the target, in frames of its own
      (∃ opened : Run ω, opened.state.stack = ((r.state.stack.enter frame a).push
          (.fresh false (some (.gateway ⟨frame, p⟩)))).push (.fresh true none) ∧
        inside.1 = (below.propagate target.socket [target.node] none opened).1) ∧
      -- when the handler is finished, signals and values have been copied out, and it hands the failures on
      (Gateway.Conveys p inside.1 frame link.node inside.2.state.stack finished.2.state.stack ∧
        finished.1 = Gateway.verdict link.node inside.1.failures ∧
        delivered.2.state.stack = finished.2.state.stack.leave frame) ∧
      delivered.1 = (Gateway.verdict link.node inside.1.failures, Gateway.reached scene link.node p inside.1)) ∧
    -- a level with this delivery is followed by what the forwarded signals reach
    ∀ (before after : List Link) (left : Nat) (tally : Tally) (r : Run ω), frame < r.state.stack.height →
      let earlier := deliverAll scene watch below frame before r
      let inside := deliverInside watch below frame link a p target earlier.2
      ∃ later failures handled r', walk scene watch below frame (left + 1) tally (before ++ link :: after) r =
        walk scene watch below frame left
          ⟨tally.levels + 1, handled, tally.failures ++ (earlier.1.2 ++
            ((Outcome.failure? (Gateway.verdict link.node inside.1.failures)).toList ++ failures))⟩
          (earlier.1.1 ++ (Gateway.reached scene link.node p inside.1 ++ later)) r' := by
  intro below a
  refine ⟨fun inner => ⟨p.ascending_socketsFor inner, fun own => Pairings.mem_socketsFor⟩, fun r hframe => ?_, ?_⟩
  · obtain ⟨hdelivered, hfinished, hconveys, hleft⟩ := deliver_conveys hinfo hgateway hp htarget watch levels hframe
    have hinside := deliverInside_returns scene watch levels link a p target hframe
    exact ⟨hinside.1, ⟨hconveys, hfinished, hleft⟩, hdelivered⟩
  · intro before after left tally r hframe earlier inside
    have hheight : frame < earlier.2.state.stack.height :=
      (height_deliverAll scene watch levels frame before hframe).symm ▸ hframe
    obtain ⟨hdelivered, -⟩ := deliver_conveys hinfo hgateway hp htarget watch levels hheight
    obtain ⟨later, failures, r', hlevel⟩ := deliverAll_around scene watch below frame before link after r
    rw [hdelivered] at hlevel
    exact ⟨later, failures, _, r', (walk_succ scene watch below frame left tally (by simp) r).trans (by rw [hlevel])⟩

end

/-- Two sockets of a gateway for one signal of its scene. -/
def doublingPairings : Pairings := .ofList [("i", ⟨"s", "o"⟩), ("x", ⟨"e", "o"⟩), ("y", ⟨"e", "o"⟩)]

/-- The gateway with these pairings. -/
def doublingGateway : NodeInfo :=
  ⟨Gateway.name, Table.empty.insert Gateway.pairingAttribute (.object [("i", Link.toValue ⟨"s", "o"⟩),
    ("x", Link.toValue ⟨"e", "o"⟩), ("y", Link.toValue ⟨"e", "o"⟩)])⟩

/-- The node inside exposes a value and that signal, twice, and then fails; outside, each of the two sockets feeds an
input of its own. -/
def failingScene : Scene :=
  let signals : Table (List Link) := .ofList [(socketKey "s" "o", [⟨"e", "i"⟩]), (socketKey "g" "x", [⟨"t", "x"⟩]),
    (socketKey "g" "y", [⟨"t", "y"⟩])]
  let failing : Component := ⟨"c", [], none, some fun a _ =>
    .expose "o" .null (.exposeSignal "o" (.exposeSignal "o" (.fail (.handler a.node a.component "no"))))⟩
  ⟨⟨.empty, ⟨.ofList [("e", ⟨"c", .empty⟩), ("g", doublingGateway)], .empty, signals⟩⟩,
    .ofComponents [Gateway.component, failing], ⟨20, 20⟩⟩

/-- A run on one open frame. -/
def oneFrame : Run History :=
  ⟨{ EngineState.fresh with stack := FrameStack.empty.push (.fresh true none) }, .empty, [], []⟩

/-- The two signals leave through both sockets each, the sockets have the value, and the failure is handed on. -/
theorem gateway_conveys_losslessly_failing :
    let below := failingScene.calls .history 3
    let a := Gateway.component.activation "g" doublingGateway.attributes (.push "i" [])
    let finished := deliverFinished failingScene .history below 0 ⟨"g", "i"⟩ a doublingPairings ⟨"s", "o"⟩ oneFrame
    let delivered := deliver failingScene .history below 0 ⟨"g", "i"⟩ oneFrame
    (∃ failure, Outcome.failure? delivered.1.1 = some (.linkedScene "g" [failure])) ∧
      delivered.1.2 = [⟨"t", "x"⟩, ⟨"t", "y"⟩, ⟨"t", "x"⟩, ⟨"t", "y"⟩] ∧
      finished.2.seen.moments.head?.map (fun m => (m.step, m.state)) =
        some (.finished 0 a finished.1, finished.2.state) ∧
      (finished.2.state.stack.active? 0).map Activation.forwarded = some ["x", "y", "x", "y"] ∧
      finished.2.state.stack.output? 0 ⟨"g", "x"⟩ = some .null ∧
      finished.2.state.stack.output? 0 ⟨"g", "y"⟩ = some .null ∧
      delivered.2.state.stack = finished.2.state.stack.leave 0 := by
  have hinfo : failingScene.tables.executable.node? (Link.mk "g" "i").node = some doublingGateway := by decide +kernel
  have hgateway : failingScene.registry.get? doublingGateway.component = some Gateway.component := by rfl
  have hp : Gateway.pairings doublingGateway.attributes = .ok doublingPairings := by rfl
  have htarget : doublingPairings.get? (Link.mk "g" "i").socket = some ⟨"s", "o"⟩ := by decide +kernel
  have hlast := head?_deliverFinished failingScene (failingScene.calls .history 3) 0 ⟨"g", "i"⟩
    (Gateway.component.activation "g" doublingGateway.attributes (.push "i" [])) doublingPairings ⟨"s", "o"⟩ oneFrame
  obtain ⟨-, hdelivery, -⟩ := gateway_conveys_losslessly hinfo hgateway hp htarget .history 3 0
  obtain ⟨-, ⟨hconveys, -, hleft⟩, hdelivered⟩ := hdelivery oneFrame (by decide)
  have hresult : let result := (deliverInside .history (failingScene.calls .history 3) 0 ⟨"g", "i"⟩
        (Gateway.component.activation "g" doublingGateway.attributes (.push "i" [])) doublingPairings ⟨"s", "o"⟩
        oneFrame).1
      result.signals = [⟨"e", "o"⟩, ⟨"e", "o"⟩] ∧ SocketValues.get? result.values "e" "o" = some .null ∧
        result.failures.length = 1 := by decide +kernel
  dsimp only at hresult hconveys hdelivered hleft hlast ⊢
  generalize (deliverInside .history (failingScene.calls .history 3) 0 ⟨"g", "i"⟩
    (Gateway.component.activation "g" doublingGateway.attributes (.push "i" [])) doublingPairings ⟨"s", "o"⟩
    oneFrame).1 = result at hresult hconveys hdelivered
  generalize deliverFinished failingScene .history (failingScene.calls .history 3) 0 ⟨"g", "i"⟩
    (Gateway.component.activation "g" doublingGateway.attributes (.push "i" [])) doublingPairings ⟨"s", "o"⟩
    oneFrame = finished at hlast hconveys hleft ⊢
  generalize deliver failingScene .history (failingScene.calls .history 3) 0 ⟨"g", "i"⟩ oneFrame = delivered
    at hdelivered hleft ⊢
  obtain ⟨hsignals, hvalue, hfailures⟩ := hresult
  obtain ⟨failure, hfailure⟩ := List.length_eq_one_iff.1 hfailures
  have hx : doublingPairings.get? "x" = some ⟨"e", "o"⟩ := by decide +kernel
  have hy : doublingPairings.get? "y" = some ⟨"e", "o"⟩ := by decide +kernel
  have hsockets : doublingPairings.socketsFor ⟨"e", "o"⟩ = ["x", "y"] := by decide +kernel
  have hforwarded : result.signals.flatMap doublingPairings.socketsFor = ["x", "y", "x", "y"] := by
    simp [hsignals, hsockets]
  refine ⟨⟨failure, ?_⟩, ?_, hlast, ?_, ?_, ?_, hleft⟩
  · rw [hdelivered, hfailure]
    rfl
  · rw [hdelivered, Gateway.reached, hforwarded]
    dsimp only
    decide +kernel
  · rw [hconveys.forwarded, hforwarded]
  · rw [hconveys.outputs, hx, Option.bind_some, hvalue, Option.some_or]
  · rw [hconveys.outputs, hy, Option.bind_some, hvalue, Option.some_or]

end SocketGraph
