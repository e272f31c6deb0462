import SocketGraph.Proofs.Course
import SocketGraph.Proofs.Balance

/-! Recorded runs. Whatever an engine does under the watcher that keeps every moment, the moments that
it adds to the history are a course. -/
namespace SocketGraph

namespace Course

variable {α β : Type} {scene : Scene} {calls : CallStack} {role role' : Role}

/-- One run leads to another by a course, and the history tells so. -/
def Recorded (scene : Scene) (calls : CallStack) (role : Role) (r : Run History) (ms : List Moment)
    (role' : Role) (r' : Run History) : Prop :=
  r'.seen = ⟨role'.atWork calls, ms.reverse ++ r.seen.moments⟩ ∧
    Course scene calls role r.state ms role' r'.state

/-- An action goes on with a part of a run, from wherever that part has got to. -/
def Follows (scene : Scene) (calls : CallStack) (role : Role) (x : Action History α) : Prop :=
  ∀ role', role.Same role' → ∀ r : Run History, r.seen.calls = role'.atWork calls →
    ∃ ms role'', Recorded scene calls role' r ms role'' (x r).2

theorem Recorded.rest {r : Run History} (h : r.seen.calls = role.atWork calls) :
    Recorded scene calls role r [] role r :=
  ⟨by rw [← h]; rfl, .rest _ _ _⟩

theorem Recorded.trans {role'' : Role} {r r' r'' : Run History} {ms ms' : List Moment}
    (h : Recorded scene calls role r ms role' r') (h' : Recorded scene calls role' r' ms' role'' r'') :
    Recorded scene calls role r (ms ++ ms') role'' r'' := by
  refine ⟨?_, h.2.seq h'.2⟩
  rw [h'.1, h.1, List.reverse_append, List.append_assoc]

theorem follows_pure (a : α) : Follows scene calls role (pure a) :=
  fun _ _ _ h => ⟨[], _, .rest h⟩

theorem Follows.bind_of {x : Action History α} {f : α → Action History β} {P : α → Prop}
    (hx : Follows scene calls role x) (hanswers : ∀ r, P (x r).1)
    (hf : ∀ a, P a → Follows scene calls role (f a)) : Follows scene calls role (x >>= f) := by
  intro role' hsame r h
  obtain ⟨ms, role'', hfirst⟩ := hx role' hsame r h
  obtain ⟨ms', role''', hsecond⟩ := hf (x r).1 (hanswers r) role'' (hsame.trans hfirst.2.same) (x r).2
    (congrArg History.calls hfirst.1)
  exact ⟨ms ++ ms', role''', hfirst.trans hsecond⟩

theorem Follows.bind {x : Action History α} {f : α → Action History β}
    (hx : Follows scene calls role x) (hf : ∀ a, Follows scene calls role (f a)) :
    Follows scene calls role (x >>= f) :=
  hx.bind_of (P := fun _ => True) (fun _ => trivial) fun a _ => hf a

theorem follows_readStack (read : FrameStack → α) :
    Follows scene calls role (Action.readStack read) :=
  fun _ _ _ h => ⟨[], _, .rest h⟩

theorem follows_emit (e : Event) : Follows scene calls role (Action.emit .history e) :=
  fun _ _ _ h => ⟨[], _, .rest h⟩

theorem follows_log (m : Message) : Follows scene calls role (Action.log .history m) :=
  follows_emit _

theorem follows_count (name : String) : Follows scene calls role (Action.count name) :=
  fun _ _ _ h => ⟨[], _, .rest h⟩

/-- What is asked for is a part of its own, at every time. -/
theorem follows_asked {x : Action History α}
    (hx : ∀ st counters moments, ∃ ms, Recorded scene calls .asked ⟨st, counters, ⟨calls, moments⟩⟩ ms
      .asked (x ⟨st, counters, ⟨calls, moments⟩⟩).2) : Follows scene calls .asked x := by
  rintro _ rfl ⟨st, counters, calls', moments⟩ h
  obtain rfl : calls' = calls := h
  obtain ⟨ms, hrun⟩ := hx st counters moments
  exact ⟨ms, .asked, hrun⟩

theorem Follows.asked {x : Action History α} (hx : Follows scene calls .asked x) (r : Run History)
    (h : r.seen.calls = calls) : ∃ ms, Recorded scene calls .asked r ms .asked (x r).2 := by
  obtain ⟨ms, role', hrun⟩ := hx .asked .rfl r h
  obtain rfl : role' = .asked := hrun.2.same
  exact ⟨ms, hrun⟩

/-- A change of the state is the latest moment. -/
theorem seen_changeState (change : EngineState → EngineState) {r : Run History} {moments : List Moment}
    (h : r.seen = ⟨calls, moments⟩) : (Action.changeState .history change r).2.seen =
      ⟨calls, Moment.change calls (change r.state) :: moments⟩ := by
  obtain ⟨st, counters, seen⟩ := r
  obtain rfl : seen = _ := h
  rfl

/-! Inputs. -/

variable (scene calls role) in
/-- Actions that go on with a part of a run make up a congruence. -/
def following : Congruence Watcher.history Watcher.history where
  Relates x _ := Follows scene calls role x
  relates_pure := follows_pure
  relates_bind_of hx hanswers _ hf := hx.bind_of hanswers hf
  relates_emit := follows_emit

theorem follows_askHost (provider : Provider) (socket : Link) :
    Follows scene calls role (askHost .history provider socket) :=
  (following scene calls role).relates_askHost provider socket

theorem follows_putInput (i : Nat) (l : Link) (v : Value) :
    Follows scene calls .asked (Action.changeStack .history (·.putInput i l v)) :=
  follows_asked fun _ _ _ => ⟨_, rfl, .kept _ _ i l v⟩

theorem follows_paired (i : Nat) (b : Binding) (l : Link) (own : String) :
    Follows scene calls .asked (Action.note .history (.paired i b l own)) :=
  follows_asked fun _ _ _ => ⟨_, rfl, .paired _ _ i b l own⟩

section
variable {below : Calls History} {i : Nat} {lookup : Lookup History}
  (hbelow : ∀ node requested, Follows scene calls .asked (below.evaluate i node requested))
  (hlookup : ∀ socket, Follows scene calls .asked (lookup i socket))
include hbelow hlookup

theorem follows_resolveProducer (producer : Link) :
    Follows scene calls .asked (resolveProducer below lookup i producer) :=
  (following scene calls .asked).relates_resolveProducer below below lookup lookup
    (follows_readStack _) (hbelow _ _) (hlookup producer)

end

section
variable {below : Calls History}
  (hbelow : ∀ i node requested, Follows scene calls .asked (below.evaluate i node requested))
include hbelow

theorem follows_lookupWithin (steps i : Nat) (socket : Link) :
    Follows scene calls .asked (lookupWithin scene .history below steps i socket) :=
  (following scene calls .asked).relates_lookupWithin below below follows_readStack follows_putInput hbelow
    follows_paired steps i socket

theorem follows_fetchInput (i : Nat) (socket : String) :
    Follows scene calls .asked (fetchInput scene .history below i socket) :=
  (following scene calls .asked).relates_fetchInput below below follows_readStack follows_putInput hbelow
    follows_paired i socket

end

/-! Handlers. -/

/-- The part of a run in which the handler of an activation works on a frame. -/
def handling (i : Nat) (a : Activation) : Role := .working ⟨i, a, [], none⟩

section
variable {i : Nat} {a : Activation}

/-- At any time of a handler its frame and its activation are known. -/
theorem follows_handling {x : Action History α}
    (hx : ∀ g : Invocation, g.frame = i → g.activation = a → ∀ st counters moments,
      ∃ ms g', Recorded scene calls (.working g) ⟨st, counters, ⟨g :: calls, moments⟩⟩ ms (.working g')
        (x ⟨st, counters, ⟨g :: calls, moments⟩⟩).2) : Follows scene calls (handling i a) x := by
  rintro (_ | _ | g) hsame ⟨st, counters, calls', moments⟩ h
  · exact nomatch hsame
  · exact nomatch hsame
  · obtain rfl : calls' = g :: calls := h
    obtain ⟨ms, g', hrun⟩ := hx g hsame.1 hsame.2 st counters moments
    exact ⟨ms, .working g', hrun⟩

/-- What a handler asks for is done while the handler is at work. -/
theorem Follows.inner {x : Action History α} (hx : ∀ g, Follows scene (g :: calls) .asked x) :
    Follows scene calls (handling i a) x := by
  refine follows_handling fun g _ _ st counters moments => ?_
  obtain ⟨ms, hseen, hcourse⟩ := (hx g).asked ⟨st, counters, ⟨g :: calls, moments⟩⟩ rfl
  exact ⟨ms, g, hseen, .inner hcourse⟩

/-- An operation that writes nothing is noted. -/
theorem follows_performed {script : Script} (heffect : ∀ st, script.effect i a st = st) :
    Follows scene calls (handling i a) (Action.note .history (.performed i a script)) := by
  refine follows_handling ?_
  rintro g rfl rfl st counters moments
  exact ⟨_, _, rfl, .idle calls g st script (heffect st)⟩

/-- An operation that writes something is noted before. -/
theorem follows_wrote {change : EngineState → EngineState} {x : Action History α} (script : Script)
    (heffect : ∀ st, script.effect i a st = change st) (hx : Follows scene calls (handling i a) x) :
    Follows scene calls (handling i a) (Action.note .history (.performed i a script) >>= fun _ =>
      Action.changeState .history change >>= fun _ => x) := by
  obtain rfl : change = fun st => script.effect i a st := funext fun st => (heffect st).symm
  have hwrote : Follows scene calls (handling i a) (Action.note .history (.performed i a script) >>=
      fun _ => Action.changeState .history fun st => script.effect i a st) := by
    refine follows_handling ?_
    rintro g rfl rfl st counters moments
    exact ⟨_, _, rfl, .wrote calls g st script⟩
  exact hwrote.bind fun _ => hx

/-- Whether a signal is forwarded is decided by the innermost activation of the frame. -/
theorem follows_forward (socket : String) (next : Script) {x : Action History α}
    (hx : Follows scene calls (handling i a) x) :
    Follows scene calls (handling i a) (Action.note .history (.performed i a (.forward socket next)) >>=
      fun _ => Action.readStack (fun s => (s.active? i).any Activation.isSignal) >>= fun signal =>
        if signal then Action.changeStack .history (·.forward i socket) >>= fun _ => x
        else Action.log .history (.forwardIgnored a.node socket) >>= fun _ => x) := by
  have hforward : Follows scene calls (handling i a)
      (Action.note .history (.performed i a (.forward socket next)) >>= fun _ =>
        Action.readStack (fun s => (s.active? i).any Activation.isSignal) >>= fun signal =>
          if signal then Action.changeStack .history (·.forward i socket)
          else Action.log .history (.forwardIgnored a.node socket)) := by
    refine follows_handling ?_
    rintro g rfl rfl st counters moments
    change ∃ ms g', Recorded scene calls _ _ ms _
      ((if (st.stack.active? g.frame).any Activation.isSignal = true then _ else _ :
        Action History Unit) _).2
    split_ifs with hsignal
    · have hwrote : Course scene calls _ _ _ _ _ := .wrote calls g st (.forward socket next)
      rw [Script.effect, if_pos hsignal] at hwrote
      exact ⟨_, _, rfl, hwrote⟩
    · exact ⟨_, _, rfl, .idle calls g st (.forward socket next) (if_neg hsignal)⟩
  -- the rest of the script is the same on both sides of the choice
  have hchoice (signal : Bool) (y z : Action History Unit) :
      (if signal = true then y >>= fun _ => x else z >>= fun _ => x) =
        (if signal = true then y else z) >>= fun _ => x := by
    cases signal <;> rfl
  simp only [hchoice]
  exact hforward.bind fun _ => hx

end

/-! Scenes and calls, each on two frames of its own. -/

/-- A run after two frames have been opened. -/
def opened (r : Run History) (outer inner : Frame) : Run History :=
  ⟨(r.state.push outer).push inner, r.counters,
    ⟨r.seen.calls, (Moment.opening r.seen.calls r.state outer inner).reverse ++ r.seen.moments⟩⟩

/-- A run after two frames have been closed. -/
def closed (r : Run History) : Run History :=
  ⟨r.state.closeBoth, r.counters,
    ⟨r.seen.calls, (Moment.closing r.seen.calls r.state).reverse ++ r.seen.moments⟩⟩

/-- The moments of a scope are those of its body between the moments in which its frames are opened and
closed. -/
theorem recorded_between (outer inner : Frame) (body : Nat → Action History α) (r : Run History)
    (ms : List Moment) {b : α} {r' : Run History}
    (hbody : body (r.state.stack.height + 1) (opened r outer inner) = (b, r'))
    (hseen : r'.seen = ⟨r.seen.calls, ms.reverse ++ (opened r outer inner).seen.moments⟩) :
    (Action.between .history outer inner body r).1 = b ∧
      (Action.between .history outer inner body r).2.state = r'.state.closeBoth ∧
      (Action.between .history outer inner body r).2.seen = ⟨r.seen.calls,
        (Moment.opening r.seen.calls r.state outer inner ++ ms ++
          Moment.closing r.seen.calls r'.state).reverse ++ r.seen.moments⟩ := by
  have htop : (opened r outer inner).state.stack.top = r.state.stack.height + 1 := by
    change ((r.state.stack.push outer).push inner).top = _
    rw [FrameStack.top_push, FrameStack.height_push]
  rw [← htop] at hbody
  have hclosed : Action.between .history outer inner body r = (b, closed r') :=
    congrArg (fun run : α × Run History => (run.1, closed run.2)) hbody
  rw [hclosed]
  refine ⟨rfl, rfl, ?_⟩
  rw [closed, hseen]
  simp [opened]

section
variable {i : Nat} {a : Activation}

/-- A scene that a handler pulls from. -/
theorem Follows.sceneScope {body : Nat → Action History α} (p : Pairings)
    (hbody : ∀ g j, Follows scene (g :: calls) .asked (body j)) :
    Follows scene calls (handling i a) (Action.sceneScope .history i p body) := by
  refine follows_handling ?_
  rintro g rfl rfl st counters moments
  obtain ⟨ms, hseen, hcourse⟩ := (hbody g (st.stack.height + 1)).asked
    (opened ⟨st, counters, ⟨g :: calls, moments⟩⟩ (.fresh false (some (.gateway ⟨g.frame, p⟩)))
      (.fresh true none)) rfl
  obtain ⟨-, hstate, hscope⟩ :=
    recorded_between _ _ body ⟨st, counters, ⟨g :: calls, moments⟩⟩ ms rfl hseen
  exact ⟨_, g, hscope, hstate ▸ .linked p hcourse⟩

end

/-- A propagation that is made goes one nesting deeper and takes the frames of a call; with no nesting
left nothing is done. -/
def Propagates (scene : Scene) (provider : Option Provider) (r r' : Run History) : Prop :=
  (r'.state = r.state ∧ r'.seen = r.seen) ∨
    r.state.nesting + 1 < scene.limits.recursionDepth ∧ ∃ ms st',
      Course scene r.seen.calls (.delivering (r.state.stack.height + 1))
        (r.state.deeper.openCall provider) ms (.delivering (r.state.stack.height + 1)) st' ∧
      r'.state = st'.closeBoth.shallower ∧
      r'.seen = ⟨r.seen.calls,
        (Moment.propagating r.seen.calls r.state provider ms st').reverse ++ r.seen.moments⟩

section
variable {i : Nat} {a : Activation}

/-- A scene that a handler sends a signal to. -/
theorem follows_signalled {x : Action History α} {provider : Option Provider} (p : Pairings)
    (hx : ∀ r, Propagates scene provider r (x r).2) :
    Follows scene calls (handling i a) (Action.sceneScope .history i p fun _ => x) := by
  refine follows_handling ?_
  rintro g rfl rfl st counters moments
  have hscope := recorded_between (.fresh false (some (.gateway ⟨g.frame, p⟩))) (.fresh true none)
    (fun _ => x) ⟨st, counters, ⟨g :: calls, moments⟩⟩
  rcases hx (opened ⟨st, counters, ⟨g :: calls, moments⟩⟩
    (.fresh false (some (.gateway ⟨g.frame, p⟩))) (.fresh true none)) with
    ⟨hstate, hseen⟩ | ⟨hnested, ms, st', hcourse, hstate, hseen⟩
  · obtain ⟨-, hclosed, hscope⟩ := hscope [] rfl hseen
    rw [hstate] at hclosed hscope
    exact ⟨_, g, hscope, hclosed ▸ .linked p (.rest _ _ _)⟩
  · obtain ⟨-, hclosed, hscope⟩ := hscope _ rfl hseen
    rw [hstate] at hclosed hscope
    exact ⟨_, g, hscope, hclosed ▸ .signalled p provider hnested hcourse⟩

end

/-- A run after a node has become active, one nesting deeper. -/
def entered (i : Nat) (a : Activation) (r : Run History) : Run History :=
  ⟨(r.state.enter i a).deeper, r.counters, r.seen.calls,
    [Moment.change r.seen.calls (r.state.enter i a).deeper,
      Moment.change r.seen.calls (r.state.enter i a)] ++ r.seen.moments⟩

/-- A run after the innermost node of a frame has been left, with its nesting. -/
def left (i : Nat) (r : Run History) : Run History :=
  ⟨r.state.shallower.leave i, r.counters, r.seen.calls,
    [Moment.change r.seen.calls (r.state.shallower.leave i),
      Moment.change r.seen.calls r.state.shallower] ++ r.seen.moments⟩

/-- An update is declined without a trace, or its handler runs. -/
def Updates (scene : Scene) (i : Nat) (a : Activation) (r r' : Run History) : Prop :=
  (r'.state = r.state ∧ r'.seen = r.seen) ∨
    r.state.nesting < scene.limits.recursionDepth ∧ ∃ ms g outcome,
      Course scene r.seen.calls (handling i a) r.state ms (.working g) r'.state ∧
      r'.seen = ⟨r.seen.calls,
        (Moment.handled r.seen.calls r.state i a ms g r'.state outcome).reverse ++ r.seen.moments⟩

/-- Calls whose histories are courses. -/
structure Tracked (scene : Scene) (below : Calls History) : Prop where
  evaluate : ∀ calls i node requested, Follows scene calls .asked (below.evaluate i node requested)
  propagate : ∀ socket node provider r,
    Propagates scene provider r (below.propagate socket [node] provider r).2

/-- A handler is started, performs its script and is finished with the outcome. -/
def handle (scene : Scene) (below : Calls History) (i : Nat) (a : Activation) (script : Script) :
    Action History (Outcome Unit) := do
  Action.note .history (.started i a)
  let outcome ← perform scene .history below i a script
  Action.note .history (.finished i a outcome)
  pure outcome

section
variable {below : Calls History} (hbelow : Tracked scene below)
include hbelow

/-- A script works through, one operation after the other. -/
theorem follows_perform (i : Nat) (a : Activation) (script : Script) :
    Follows scene calls (handling i a) (perform scene .history below i a script) := by
  induction script with
  | done outcome => exact follows_pure _
  | fetch socket next ih =>
    exact (follows_performed fun _ => rfl).bind fun _ =>
      (Follows.inner fun g => follows_fetchInput (hbelow.evaluate _) i socket).bind fun answer =>
        ih answer
  | push socket v next ih => exact follows_wrote (.push socket v next) (fun _ => rfl) ih
  | expose socket v next ih => exact follows_wrote (.expose socket v next) (fun _ => rfl) ih
  | hasExposed socket next ih =>
    exact (follows_performed fun _ => rfl).bind fun _ => (follows_readStack _).bind fun answer =>
      ih answer
  | exposeSignal socket next ih =>
    rw [perform]
    split_ifs with hsignal
    · exact follows_wrote (.exposeSignal socket next) (fun _ => by rw [Script.effect, if_pos hsignal]) ih
    · exact (follows_performed fun _ => by rw [Script.effect, if_neg hsignal]).bind fun _ =>
        (follows_log _).bind fun _ => ih
  | forward socket next ih => exact follows_forward socket next ih
  | mark target scope next ih => exact follows_wrote (.mark target scope next) (fun _ => rfl) ih
  | emit event next ih =>
    exact (follows_performed fun _ => rfl).bind fun _ => (follows_emit _).bind fun _ => ih
  | count name next ih =>
    exact (follows_performed fun _ => rfl).bind fun _ => (follows_count _).bind fun n => ih n
  | pullScene p target next ih =>
    exact (follows_performed fun _ => rfl).bind fun _ =>
      (Follows.sceneScope p fun g j => hbelow.evaluate _ j _ _).bind fun answer => ih answer
  | pushScene p target next ih =>
    exact (follows_performed fun _ => rfl).bind fun _ =>
      (follows_signalled p fun r => hbelow.propagate _ _ none r).bind fun answer => ih answer

theorem recorded_handle (i : Nat) (a : Activation) (script : Script) (r : Run History) :
    let run := handle scene below i a script r
    ∃ ms g, Course scene r.seen.calls (handling i a) r.state ms (.working g) run.2.state ∧
      run.2.seen = ⟨r.seen.calls,
        (Moment.handled r.seen.calls r.state i a ms g run.2.state run.1).reverse ++ r.seen.moments⟩ := by
  obtain ⟨st, counters, calls, moments⟩ := r
  have hperform : ∃ ms role', Recorded scene calls (handling i a) _ ms role' _ :=
    follows_perform hbelow i a script (handling i a) .rfl
      (Action.note .history (.started i a) ⟨st, counters, calls, moments⟩).2 rfl
  obtain ⟨ms, role, hseen, hcourse⟩ := hperform
  cases role with
  | asked => exact nomatch hcourse.same
  | delivering => exact nomatch hcourse.same
  | working g =>
    refine ⟨ms, g, hcourse, ?_⟩
    have hfinished : ∀ outcome (r : Run History),
        r.seen = ⟨g :: calls, ms.reverse ++ ⟨st, calls, .started i a⟩ :: moments⟩ →
        (Action.note .history (.finished i a outcome) r).2.seen =
          ⟨calls, (Moment.handled calls st i a ms g r.state outcome).reverse ++ moments⟩ := by
      rintro outcome ⟨st', counters', seen⟩ rfl
      simp [Action.note, Watcher.history, CallStack.after, Moment.handled]
    exact hfinished _ _ hseen

theorem updates_runUpdate (i : Nat) (c : Component) (a : Activation) (r : Run History) :
    Updates scene i a r (runUpdate scene .history below i c a r).2 := by
  rw [runUpdate_apply]
  split_ifs with hdepth
  · exact .inl ⟨rfl, rfl⟩
  · unfold attempt
    cases c.update with
    | none => exact .inl ⟨rfl, rfl⟩
    | some handler =>
      obtain ⟨ms, g, hcourse, hseen⟩ := recorded_handle hbelow i a (handler a) r
      exact .inr ⟨Nat.lt_of_not_le hdepth, ms, g, _, hcourse, hseen⟩

/-- A node is active while its update runs, one nesting deeper. -/
theorem follows_activeUpdate (i : Nat) (c : Component) {a : Activation} (hpull : a.isSignal = false) :
    Follows scene calls .asked (activeUpdate scene .history below i c a) := by
  refine follows_asked fun st counters moments => ?_
  have hupdates := updates_runUpdate hbelow i c a (entered i a ⟨st, counters, calls, moments⟩)
  change ∃ ms, Recorded scene calls .asked _ ms .asked
    (left i (runUpdate scene .history below i c a (entered i a ⟨st, counters, calls, moments⟩)).2)
  generalize (runUpdate scene .history below i c a (entered i a ⟨st, counters, calls, moments⟩)).2 =
    r' at hupdates
  rcases hupdates with ⟨hstate, hseen⟩ | ⟨hnested, ms, g, outcome, hcourse, hseen⟩
  · have hleave : r'.state.shallower.leave i = st :=
      (congrArg (EngineState.leave · i) (congrArg EngineState.shallower hstate)).trans
        (congrArg (fun s => { st with stack := s }) (FrameStack.leave_enter st.stack i a))
    have hdeclined : Course scene calls .asked st _ .asked st := .declined calls st i a
    rw [left, hleave, hseen, hstate]
    exact ⟨_, rfl, hdeclined⟩
  · refine ⟨_, ?_, .updated outcome hpull hnested hcourse⟩
    rw [left, hseen]
    simp [entered, Role.atWork]

/-- A node is evaluated in the course of what asks for it. -/
theorem follows_evaluateAt (i : Nat) (node : NodeId) (requested : Option String) :
    Follows scene calls .asked (evaluateAt scene .history below i node requested) := by
  intro role' hsame r hcalls
  rcases evaluateAt_cases .history below i node requested r with
    ⟨failure, heq⟩ | ⟨info, -, -, heq⟩ | ⟨info, c, -, -, -, heq⟩
  · rw [heq]
    exact follows_pure failure role' hsame r hcalls
  · have hskipped : Follows scene calls .asked (Action.note .history (.skipped i node)) :=
      follows_asked fun _ _ _ => ⟨_, rfl, .skipped _ _ i node⟩
    rw [heq]
    exact hskipped role' hsame r hcalls
  · rw [heq]
    exact follows_activeUpdate hbelow i c rfl role' hsame r hcalls

end

end Course
end SocketGraph
