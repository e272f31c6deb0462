import SocketGraph.Proofs.Propagations

/-! Courses of a host. A call on an active engine opens or closes a frame, or it pulls values or pushes a
signal on two frames of its own; all that it does is told by the moments that it adds to the history. -/
namespace SocketGraph

/-- What a call of the host does to the state of an active engine. -/
inductive HostCourse (scene : Scene) (calls : CallStack) (st : EngineState) :
    List Moment → EngineState → Prop
  | idle : HostCourse scene calls st [] st
  | opened : HostCourse scene calls st [.change calls st.openFrame] st.openFrame
  | closed : HostCourse scene calls st [.change calls st.closeFrame] st.closeFrame
  | pulled (provider : Option Provider) {ms : List Moment} {st' : EngineState}
      (course : Course scene calls .asked (st.openCall provider) ms .asked st') :
      HostCourse scene calls st
        (Moment.openingCall calls st provider ++ ms ++ Moment.closing calls st') st'.closeBoth
  | pushed (provider : Option Provider) {ms : List Moment} {st' : EngineState}
      (course : Course scene calls (.delivering (st.stack.height + 1)) (st.deeper.openCall provider) ms
        (.delivering (st.stack.height + 1)) st') :
      HostCourse scene calls st (Moment.propagating calls st provider ms st') st'.closeBoth.shallower

/-- What a call of the host does to a run of an active engine: nothing that is told of, a frame is opened or
closed, a node is evaluated on the frames of a call, or a signal is sent. -/
inductive Errand (scene : Scene) (r : Run History) : Run History → Prop
  | idle : Errand scene r r
  | opened : Errand scene r (Action.changeState .history EngineState.openFrame r).2
  | closed : Errand scene r (Action.changeState .history EngineState.closeFrame r).2
  | evaluated (node : NodeId) (requested : Option String) (provider : Option Provider) :
      Errand scene r (Action.callScope .history provider
        (fun frame => (scene.hostCalls .history).evaluate frame node requested) r).2
  | propagated (socket : String) (sources : List NodeId) (provider : Option Provider) :
      Errand scene r ((scene.hostCalls .history).propagate socket sources provider r).2

namespace Errand

variable {α β : Type} {scene : Scene} {r r' : Run History}

theorem snd_between (outer inner : Frame) (body : Nat → Action History α) (r : Run History) :
    (Action.between .history outer inner body r).2 =
      Course.closed (body (r.state.stack.height + 1) (Course.opened r outer inner)).2 := by
  have htop : (Course.opened r outer inner).state.stack.top = r.state.stack.height + 1 := by
    change ((r.state.stack.push outer).push inner).top = _
    rw [FrameStack.top_push, FrameStack.height_push]
  rw [← htop]
  rfl

/-- What is only read off in the end leaves no trace. -/
theorem snd_callScope_bind (provider : Option Provider) {body : Nat → Action History α}
    {f : Nat → α → Action History β} (hf : ∀ i a r, (f i a r).2 = r) (r : Run History) :
    (Action.callScope .history provider (fun i => body i >>= f i) r).2 =
      (Action.callScope .history provider body r).2 := by
  rw [Action.callScope, snd_between, Action.callScope, snd_between]
  exact congrArg Course.closed (hf _ _ _)

theorem log_bind (m : Message) {x : Action History α} (hx : ∀ r, Errand scene r (x r).2)
    (r : Run History) : Errand scene r ((Action.log .history m >>= fun _ => x) r).2 := hx r

theorem reported (node : NodeId) (socket : String) {x : Action History (Outcome α)}
    (hx : ∀ r, Errand scene r (x r).2) (r : Run History) :
    Errand scene r ((x >>= reportFailure .history node socket) r).2 := by
  change Errand scene r (reportFailure .history node socket (x r).1 (x r).2).2
  cases (x r).1 <;> exact hx r

theorem requestValue (node : NodeId) (socket : String) (provider : Option Provider) (r : Run History) :
    Errand scene r (scene.requestValue .history node socket provider r).2 := by
  unfold Scene.requestValue
  cases scene.tables.exposed.socket? node socket with
  | none => exact .idle
  | some _ =>
    refine log_bind _ (reported node socket fun r => ?_) r
    rw [snd_callScope_bind]
    · exact .evaluated node (some socket) provider
    · rintro i (_ | _) r <;> rfl

theorem updateNode (node : NodeId) (provider : Option Provider) (r : Run History) :
    Errand scene r (scene.updateNode .history node provider r).2 :=
  reported node "*" (fun _ => .evaluated node none provider) r

theorem triggerSignal (socket : String) (source : Option SignalSource) (provider : Option Provider)
    (r : Run History) : Errand scene r (scene.triggerSignal .history socket source provider r).2 := by
  cases source with
  | none => exact .idle
  | some source => exact .propagated socket _ provider

/-- What is asked for on the frames of a call goes on by a course. -/
theorem course_callScope (provider : Option Provider) {body : Nat → Action History α}
    (hbody : ∀ calls j, Course.Follows scene calls .asked (body j)) (r : Run History) :
    ∃ ms, HostCourse scene r.seen.calls r.state ms (Action.callScope .history provider body r).2.state ∧
      (Action.callScope .history provider body r).2.seen =
        ⟨r.seen.calls, ms.reverse ++ r.seen.moments⟩ := by
  obtain ⟨ms, hseen, hcourse⟩ := (hbody r.seen.calls (r.state.stack.height + 1)).asked
    (Course.opened r (.fresh true none) (.fresh true (provider.map .host))) rfl
  obtain ⟨-, hstate, hscope⟩ := Course.recorded_between _ _ body r ms rfl hseen
  exact ⟨_, hstate ▸ .pulled provider hcourse, hscope⟩

/-- Whatever is done goes on by a course of the host, and the history tells so. -/
theorem course (h : Errand scene r r') : ∃ ms, HostCourse scene r.seen.calls r.state ms r'.state ∧
    r'.seen = ⟨r.seen.calls, ms.reverse ++ r.seen.moments⟩ := by
  cases h with
  | idle => exact ⟨[], .idle, rfl⟩
  | opened => exact ⟨_, .opened, rfl⟩
  | closed => exact ⟨_, .closed, rfl⟩
  | evaluated node requested provider =>
    exact course_callScope provider
      (fun calls j => (scene.tracked_calls _).evaluate calls j node requested) r
  | propagated socket sources provider =>
    change ∃ ms, HostCourse scene _ _ ms
      (propagateAt scene .history (scene.calls .history scene.limits.allowance) socket sources provider
        r).2.state ∧ _
    cases hrefused : refused? scene r.state sources with
    | some source =>
      refine ⟨[], ?_⟩
      change _ ∧ (propagateAt scene .history (scene.calls .history scene.limits.allowance) socket sources
        provider r).2.seen = _
      rw [propagateAt_of_refused socket sources provider r hrefused]
      exact ⟨.idle, rfl⟩
    | none =>
      obtain ⟨ms, st, layers, left, h⟩ := propagated_propagateAt
        (scene.tracked_calls scene.limits.allowance) socket sources provider r hrefused
      exact ⟨_, h.state ▸ .pushed provider h.course, h.seen⟩

end Errand

namespace HostCall

variable {s : Session History}

/-- A session after a call on an active engine: the state of the engine has gone on by a course. -/
def Continues (s s' : Session History) (tables : Tables) (st : EngineState) : Prop :=
  s'.engine.registry = s.engine.registry ∧ s'.engine.limits = s.engine.limits ∧
    ∃ ms st', s'.engine.active = some (tables, st') ∧
      s'.seen = ⟨s.seen.calls, ms.reverse ++ s.seen.moments⟩ ∧
      HostCourse (s.engine.scene tables) s.seen.calls st ms st'

/-- What a host calls for on an active engine, unless it terminates the engine, is an errand. -/
theorem errand_perform (call : HostCall) {tables : Tables} {st : EngineState}
    (hactive : s.engine.active = some (tables, st)) (hcall : call ≠ .terminate) :
    ∃ r, (call.perform .history s).2 =
        ⟨{ s.engine with active := some (tables, r.state) }, r.counters, r.seen⟩ ∧
      Errand (s.engine.scene tables) ⟨st, s.counters, s.seen⟩ r := by
  have hisActive : s.engine.isActive = true := by rw [Engine.isActive, hactive]; rfl
  have hidle : ∃ r, s = ⟨{ s.engine with active := some (tables, r.state) }, r.counters, r.seen⟩ ∧
      Errand (s.engine.scene tables) ⟨st, s.counters, s.seen⟩ r := by
    refine ⟨_, ?_, .idle⟩
    obtain ⟨⟨_, _, _, active⟩, _, _⟩ := s
    obtain rfl : active = _ := hactive
    rfl
  cases call with
  | terminate => exact absurd rfl hcall
  | bind source =>
    change ∃ r, (Host.bind source s).2 = _ ∧ _
    rwa [Host.bind_apply, if_pos hisActive]
  | activate files =>
    change ∃ r, (Host.activate .history files s).2 = _ ∧ _
    obtain ⟨w, hw, hrun⟩ := Host.activate_apply .history files s
    obtain rfl : w = s.seen := hw (· = s.seen) (fun _ _ h => h) rfl
    rwa [hrun, Host.activated, if_pos hisActive]
  | beginCycle =>
    change ∃ r, (Host.changeState .history _ .openFrame s).2 = _ ∧ _
    rw [Host.changeState_apply, hactive]
    exact ⟨_, rfl, .opened⟩
  | endCycle =>
    change ∃ r, (Host.changeState .history _ .closeFrame s).2 = _ ∧ _
    rw [Host.changeState_apply, hactive]
    exact ⟨_, rfl, .closed⟩
  | requestValue node socket provider =>
    change ∃ r, (Host.requestValue .history node socket provider s).2 = _ ∧ _
    rw [Host.requestValue, Host.whileActive_apply, hactive]
    exact ⟨_, rfl, .requestValue node socket provider _⟩
  | updateNode node provider =>
    change ∃ r, (Host.updateNode .history node provider s).2 = _ ∧ _
    rw [Host.updateNode, Host.whileActive_apply, hactive]
    exact ⟨_, rfl, .updateNode node provider _⟩
  | triggerSignal socket source provider =>
    change ∃ r, (Host.triggerSignal .history socket source provider s).2 = _ ∧ _
    rw [Host.triggerSignal, Host.whileActive_apply, hactive]
    exact ⟨_, rfl, .triggerSignal socket source provider _⟩

/-- A call of the host on an active engine, unless it terminates the engine, goes on by a course. -/
theorem continues_perform (call : HostCall) {tables : Tables} {st : EngineState}
    (hactive : s.engine.active = some (tables, st)) (hcall : call ≠ .terminate) :
    Continues s (call.perform .history s).2 tables st := by
  obtain ⟨r, hrun, herrand⟩ := errand_perform call hactive hcall
  obtain ⟨ms, hcourse, hseen⟩ := herrand.course
  exact hrun ▸ ⟨rfl, rfl, ms, r.state, rfl, hseen, hcourse⟩

theorem seen_activate (files : Files) (s : Session History) :
    (Host.activate .history files s).2.seen = s.seen := by
  obtain ⟨w, hw, hrun⟩ := Host.activate_apply .history files s
  obtain rfl : w = s.seen := hw (· = s.seen) (fun _ _ h => h) rfl
  rw [hrun]
  cases Host.activated files s.engine <;> rfl

theorem seen_terminate (s : Session History) : (Host.terminate .history s).2.seen = s.seen := by
  rw [Host.terminate_apply]
  split_ifs <;> rfl

/-- Nothing is told of an engine that is not active. -/
theorem seen_perform_of_inactive (call : HostCall) (hactive : s.engine.active = none) :
    (call.perform .history s).2.seen = s.seen := by
  cases call with
  | bind source =>
    change (Host.bind source s).2.seen = s.seen
    rw [Host.bind_apply]
    split_ifs <;> rfl
  | activate files => exact seen_activate files s
  | terminate => exact seen_terminate s
  | beginCycle | endCycle =>
    change (Host.changeState .history _ _ s).2.seen = s.seen
    rw [Host.changeState_apply, hactive]
    rfl
  | requestValue node socket provider =>
    change (Host.requestValue .history node socket provider s).2.seen = s.seen
    rw [Host.requestValue, Host.whileActive_apply, hactive]
    rfl
  | updateNode node provider =>
    change (Host.updateNode .history node provider s).2.seen = s.seen
    rw [Host.updateNode, Host.whileActive_apply, hactive]
    rfl
  | triggerSignal socket source provider =>
    change (Host.triggerSignal .history socket source provider s).2.seen = s.seen
    rw [Host.triggerSignal, Host.whileActive_apply, hactive]
    rfl

/-- What is told of a call of the host: nothing, or how the state of an active engine has gone on. -/
theorem exists_seen_perform (call : HostCall) (s : Session History) :
    ∃ ms, (call.perform .history s).2.seen = ⟨s.seen.calls, ms.reverse ++ s.seen.moments⟩ ∧
      (ms = [] ∨ ∃ tables st st', s.engine.active = some (tables, st) ∧
        HostCourse (s.engine.scene tables) s.seen.calls st ms st') := by
  match hactive : s.engine.active with
  | none => exact ⟨[], seen_perform_of_inactive call hactive, .inl rfl⟩
  | some (tables, st) =>
    by_cases hcall : call = .terminate
    · subst hcall
      exact ⟨[], seen_terminate s, .inl rfl⟩
    · obtain ⟨-, -, ms, st', -, hseen, hcourse⟩ := continues_perform call hactive hcall
      exact ⟨ms, hseen, .inr ⟨tables, st, st', rfl, hcourse⟩⟩

end HostCall
end SocketGraph
