import SocketGraph.Proofs.Warrants

/-! Warranted calls. All that the calls of a scene and the calls of a host add to a history is warranted.
-/
namespace SocketGraph

open Course

variable {scene : Scene} {paired : Pairings → Prop} {calls : CallStack}

section
variable {below : Calls History} (htracked : Tracked scene below)
  (hbelow : Warranting scene paired below)
  (hlinks : ∀ c a, scene.Instance c a → c.Links (fun _ => paired) a)
include htracked hbelow hlinks

theorem tells_runUpdate {i : Nat} {c : Component} {a : Activation} (hmade : scene.Instance c a)
    (r : Run History) (hr : r.state.stack.Workable paired i)
    (hstart : (⟨r.state, r.seen.calls, .started i a⟩ : Moment).Due scene paired) :
    Tells scene paired r (runUpdate scene .history below i c a r).2 := by
  rw [runUpdate_apply]
  split_ifs
  · exact .refl r
  · unfold attempt
    cases hhandler : c.update with
    | none => exact .refl r
    | some handler =>
      have hscript := (hlinks c a hmade).update handler hhandler
      obtain ⟨ms, hseen, hms⟩ := warranted_handle htracked hbelow i a (handler a) hscript r hr hstart
      exact ⟨_, hseen, hms⟩

/-- A node that is asked for is updated if no mark covers it, and left as it is because one does. -/
theorem warrants_evaluateAt (i : Nat) (node : NodeId) (requested : Option String) :
    Warrants scene paired calls .asked
      (fun s => s.Workable paired i ∧ Summoned scene.tables.executable calls s i node requested)
      (evaluateAt scene .history below i node requested) := by
  rintro role' rfl r hcalls ⟨hr, hsummoned⟩
  obtain rfl : r.seen.calls = calls := hcalls
  rcases evaluateAt_cases .history below i node requested r with
    ⟨failure, heq⟩ | ⟨info, hnode, hneeds, heq⟩ | ⟨info, c, hnode, hget, hneeds, heq⟩
  · rw [heq]
    exact .refl r
  · rw [heq]
    exact tells_note (by exact ⟨hr.inner, info, hnode, hneeds⟩) nofun
  · rw [heq]
    let a := c.activation node info.attributes (.pull requested)
    have hentered : (r.state.enter i a).deeper.stack.Workable paired i :=
      hr.congr (FrameStack.fittings_enter r.state.stack i a).symm
    have hstart : (⟨(r.state.enter i a).deeper, r.seen.calls, .started i a⟩ : Moment).Due scene paired :=
      ⟨hentered.regular, hentered.inner, r.state, info, rfl, hnode, hneeds, hsummoned⟩
    have hupdate : Tells scene paired r (Action.nested .history (runUpdate scene .history below i c a)
        (Action.changeStack .history (·.enter i a) r).2).2 := by
      refine (tells_changeState (·.enter i a) r).trans (tells_nested ?_)
      exact tells_runUpdate htracked hbelow hlinks ⟨info, .pull requested, hnode, hget, rfl⟩ _ hentered hstart
    exact hupdate.trans (tells_changeState (·.leave i) _)

/-! Signals. -/

theorem tells_deliver (i : Nat) (link : Link) (r : Run History)
    (hr : r.state.stack.Receiving paired r.seen.calls i) :
    Tells scene paired r (deliver scene .history below i link r).2 := by
  rw [deliver_eq]
  cases hreceiver : scene.receiver link with
  | error answer =>
    -- a delivery without a handler is a moment of its own
    refine ⟨[⟨r.state, r.seen.calls, .delivered i link⟩], rfl, .delivered ?_ .nil⟩
    rintro _ _ info c handler ⟨rfl, rfl⟩ hnode hc hhandler
    exact nomatch hreceiver.symm.trans (Scene.receiver_eq_ok.2 ⟨info, c, handler, hnode, hc, hhandler, rfl, rfl⟩)
  | ok reception =>
    obtain ⟨a, script⟩ := reception
    have hentered : (r.state.enter i a).stack.Workable paired i :=
      hr.toWorkable.congr (FrameStack.fittings_enter r.state.stack i a).symm
    -- the run of the handler, after the signal is delivered and its node is active
    let run : Run History := ⟨r.state.enter i a, r.counters, r.seen.calls,
      .change r.seen.calls (r.state.enter i a) :: ⟨r.state, r.seen.calls, .delivered i link⟩ ::
        r.seen.moments⟩
    have hsent : r.seen.calls = [] ∨
        ∃ b, (r.state.enter i a).stack.provider? i = some (.gateway b) := by
      refine hr.sent.imp id fun ⟨b, hb⟩ => ⟨b, ?_⟩
      exact (FrameStack.provider?_enter r.state.stack i a i).trans hb
    have hstart : (⟨run.state, run.seen.calls, .started i a⟩ : Moment).Due scene paired := by
      refine ⟨hentered.regular, hentered.inner, ?_⟩
      rwa [if_pos (by rw [Activation.isSignal, Scene.cause_of_receiver hreceiver])]
    have hlinked : script.Links paired := by
      obtain ⟨c, handler, hmade, hhandler, rfl⟩ := Scene.instance_of_receiver hreceiver
      exact (hlinks c a hmade).signal handler hhandler link.socket
    obtain ⟨ms, hseen, hms⟩ := warranted_handle htracked hbelow i a script hlinked run hentered hstart
    have hheeded : (⟨r.state, r.seen.calls, .delivered i link⟩ : Moment).Heeded scene
        (.change r.seen.calls (r.state.enter i a) ::
          ⟨r.state.enter i a, r.seen.calls, .started i a⟩ :: ms) := by
      rintro _ _ info c handler ⟨rfl, rfl⟩ hnode hc hhandler
      obtain ⟨rfl, -⟩ := Prod.ext_iff.1 (Except.ok.inj (hreceiver.symm.trans
        (Scene.receiver_eq_ok.2 ⟨info, c, handler, hnode, hc, hhandler, rfl, rfl⟩)))
      exact ⟨ms, rfl⟩
    have hhandled : Tells scene paired r (Course.handle scene below i a script run).2 :=
      ⟨_, by rw [hseen]; simp [run], .delivered hheeded ((Warranted.change _ _).cons hms)⟩
    exact hhandled.trans (tells_changeState (·.leave i) _)

omit htracked hbelow hlinks in
/-- A frame that has received signals can receive the next ones. -/
theorem receiving_of_dispatched {i : Nat} {r r' : Run History} {ms : List Moment}
    {ds : List Delivery} (h : Dispatched scene r.seen.calls i r ms ds r')
    (hr : r.state.stack.Receiving paired r.seen.calls i) :
    r'.state.stack.Receiving paired r'.seen.calls i := by
  have hcalls : r'.seen.calls = r.seen.calls := by rw [h.recorded.1]; rfl
  have hshape : r'.state.stack.shape = r.state.stack.shape := h.recorded.2.shape rfl
  exact hcalls ▸ hr.congr hshape.symm

theorem tells_deliverAll (i : Nat) (links : List Link) (r : Run History)
    (hr : r.state.stack.Receiving paired r.seen.calls i)
    (hn : 0 < r.state.nesting ∧ r.state.nesting < scene.limits.recursionDepth) :
    Tells scene paired r (deliverAll scene .history below i links r).2 := by
  induction links generalizing r with
  | nil => exact .refl r
  | cons link rest ih =>
    obtain ⟨ms, d, hfirst, -⟩ := delivers_deliver htracked i link r hr.inner.lt_height hn
    rw [deliverAll_cons_apply]
    exact (tells_deliver htracked hbelow hlinks i link r hr).trans
      (ih _ (receiving_of_dispatched hfirst hr) (hfirst.nesting ▸ hn))

theorem tells_walk (i levels : Nat) (tally : Tally) (links : List Link) (r : Run History)
    (hr : r.state.stack.Receiving paired r.seen.calls i)
    (hn : links ≠ [] → 0 < r.state.nesting ∧ r.state.nesting < scene.limits.recursionDepth) :
    Tells scene paired r (walk scene .history below i levels tally links r).2 := by
  induction levels generalizing tally links r with
  | zero => cases links <;> exact .refl r
  | succ levels ih =>
    cases links with
    | nil => exact .refl r
    | cons link rest =>
      have hn := hn (List.cons_ne_nil _ _)
      obtain ⟨ms, ds, hlevel, -⟩ :=
        dispatched_deliverAll htracked i (link :: rest) r hr.inner.lt_height hn
      exact (tells_deliverAll htracked hbelow hlinks i (link :: rest) r hr hn).trans
        (ih _ _ _ (receiving_of_dispatched hlevel hr) fun _ => hlevel.nesting ▸ hn)

theorem warrants_propagateAt (socket : String) (sources : List NodeId) (provider : Option Provider) :
    Warrants scene paired calls .asked
      (fun s => s.Regular paired ∧
        (calls = [] ∨ provider = none ∧ ∃ b, s.provider? s.top = some (.gateway b)))
      (propagateAt scene .history below socket sources provider) := by
  rintro role' rfl r hcalls ⟨hr, hsent⟩
  obtain rfl : r.seen.calls = calls := hcalls
  cases hrefused : refused? scene r.state sources with
  | some source =>
    rw [propagateAt_of_refused socket sources provider r hrefused]
    exact .refl r
  | none =>
    rw [propagateAt, Action.state_bind_apply, hrefused]
    have hn (hfrontier : frontier scene socket sources ≠ []) :
        0 < r.state.nesting + 1 ∧ r.state.nesting + 1 < scene.limits.recursionDepth := by
      refine ⟨Nat.succ_pos _, nesting_of_refused? hrefused ?_⟩
      rintro rfl
      exact hfrontier rfl
    have hconclude (tally : Tally) (r' : Run History) :
        Tells scene paired r' (conclude .history (r.state.stack.height + 1) tally r').2 := by
      refine .of_eq ?_
      rw [conclude, Action.log_bind_apply, Action.readStack_bind_apply]
      cases FrameStack.frame? _ _ <;> rfl
    refine tells_nested (tells_between ?_)
    exact (tells_walk htracked hbelow hlinks _ _ _ _ _ (FrameStack.receiving_push hr hsent) hn).trans
      (hconclude _ _)

end

/-- Whatever the calls of a scene do is warranted, by induction on the levels of nesting that are left to
them. -/
theorem Scene.warranting_calls (hlinks : ∀ c a, scene.Instance c a → c.Links (fun _ => paired) a)
    (levels : Nat) : Warranting scene paired (scene.calls .history levels) := by
  induction levels with
  | zero => exact ⟨fun _ _ _ _ => warrants_pure _, fun _ _ _ _ => warrants_pure _⟩
  | succ levels ih =>
    have htracked := scene.tracked_calls levels
    exact ⟨fun _ i node requested => warrants_evaluateAt htracked ih hlinks i node requested,
      fun _ socket sources provider => warrants_propagateAt htracked ih hlinks socket sources provider⟩

/-! Calls of a host. -/

namespace FrameStack

theorem Bracketed.regular {s : FrameStack} (hs : s.Bracketed) : s.Regular paired := by
  intro w hw
  obtain ⟨f, hf, rfl⟩ := List.mem_map.1 hw
  have hbracket := hs f.shape (List.mem_map_of_mem hf)
  refine .inl ⟨congrArg Frame.Shape.permeable hbracket, fun b hb => ?_⟩
  exact nomatch hb.symm.trans (congrArg Frame.Shape.provider hbracket)

end FrameStack

/-- A call of the host leaves its engine at rest again. -/
theorem HostCourse.resting {st st' : EngineState} {ms : List Moment}
    (h : HostCourse scene calls st ms st') (hst : st.Resting) : st'.Resting := by
  cases h with
  | idle => exact hst
  | opened => exact ⟨hst.bracketed.push, hst.nesting⟩
  | closed => exact ⟨hst.bracketed.pop, hst.nesting⟩
  | pulled provider course =>
    have hshape := EngineState.shape_closeBoth (course.shape (s := (st.openCall provider).stack) rfl)
    exact ⟨hst.bracketed.congr hshape.symm, course.nesting.trans hst.nesting⟩
  | pushed provider course =>
    have hshape := EngineState.shape_closeBoth
      (course.shape (s := (st.deeper.openCall provider).stack) rfl)
    refine ⟨hst.bracketed.congr hshape.symm, ?_⟩
    exact (congrArg (· - 1) course.nesting).trans hst.nesting

/-- What the host does to an engine at rest is warranted. -/
theorem Errand.tells (hlinks : ∀ c a, scene.Instance c a → c.Links (fun _ => paired) a)
    {r r' : Run History} (h : Errand scene r r') (hr : r.state.Resting) (hcalls : r.seen.calls = []) :
    Tells scene paired r r' := by
  have hbelow := scene.warranting_calls hlinks (scene.limits.allowance + 1)
  cases h with
  | idle => exact .refl r
  | opened | closed => exact tells_changeState _ r
  | evaluated node requested provider =>
    have hreceiving : FrameStack.Receiving paired [] (r.state.stack.height + 1)
        ((r.state.stack.push (.fresh true none)).push (.fresh true (provider.map .host))) :=
      FrameStack.receiving_push hr.bracketed.regular (.inl rfl)
    exact tells_between (hbelow.evaluate [] (r.state.stack.height + 1) node requested .asked .rfl
      (Course.opened r (.fresh true none) (.fresh true (provider.map .host))) hcalls
      ⟨hreceiving.toWorkable, .host requested rfl⟩)
  | propagated socket sources provider =>
    exact hbelow.propagate [] socket sources provider .asked .rfl r hcalls
      ⟨hr.bracketed.regular, .inl rfl⟩

namespace HostCall

variable {s : Session History} {tables : Tables} {st : EngineState}
  (hlinks : ∀ c a, (s.engine.scene tables).Instance c a → c.Links (fun _ => paired) a)
  (hactive : s.engine.active = some (tables, st)) (hresting : st.Resting)
  (hcalls : s.seen.calls = [])
include hlinks hactive hresting hcalls

/-- What a host calls for on an engine at rest is warranted. -/
theorem warranted_perform (call : HostCall) (hcall : call ≠ .terminate) :
    ∃ ms, (call.perform .history s).2.seen.moments = ms.reverse ++ s.seen.moments ∧
      Warranted (s.engine.scene tables) paired ms := by
  obtain ⟨r, hrun, herrand⟩ := errand_perform call hactive hcall
  exact hrun ▸ herrand.tells hlinks hresting hcalls

end HostCall

/-- A session that has gone on from another one at rest, by moments that are warranted. -/
structure Session.Warrants (paired : Pairings → Prop) (s s' : Session History) (tables : Tables)
    (st : EngineState) (ms : List Moment) (st' : EngineState) : Prop
    extends s.GoesOn s' tables st ms st' where
  warranted : Warranted (s.engine.scene tables) paired ms
  resting : st'.Resting

/-- Whatever a host calls for, short of terminating an engine at rest, is warranted. -/
theorem HostCall.warrants_performAll {s : Session History} {tables : Tables} {st : EngineState}
    (hlinks : ∀ c a, (s.engine.scene tables).Instance c a → c.Links (fun _ => paired) a)
    (hactive : s.engine.active = some (tables, st)) (hresting : st.Resting)
    (hseen : s.seen.calls = []) (calls : List HostCall) (hcalls : ∀ call ∈ calls, call ≠ .terminate) :
    ∃ ms st', s.Warrants paired (performAll .history calls s).2 tables st ms st' := by
  induction calls generalizing s st with
  | nil => exact ⟨[], st, ⟨rfl, rfl, hactive, rfl, fun _ _ => Chronicle.carries_nil⟩, .nil, hresting⟩
  | cons call rest ih =>
    obtain ⟨hcall, hrest⟩ := List.forall_mem_cons.1 hcalls
    obtain ⟨ms, st₁, h₁, hcourse⟩ := goesOn_perform hactive call hcall
    obtain ⟨ms', hmoments, hwarranted⟩ :=
      warranted_perform hlinks hactive hresting hseen call hcall
    -- both tell of the same moments
    obtain rfl : ms = ms' := List.reverse_inj.1
      (List.append_cancel_right ((congrArg History.moments h₁.seen).symm.trans hmoments))
    have hscene : (call.perform .history s).2.engine.scene tables = s.engine.scene tables := by
      rw [Engine.scene, h₁.registry, h₁.limits]
      rfl
    obtain ⟨ms', st', h⟩ := ih (hscene ▸ hlinks) h₁.active (hcourse.resting hresting)
      ((congrArg History.calls h₁.seen).trans hseen) hrest
    exact ⟨ms ++ ms', st', h₁.trans h.toGoesOn, hwarranted.append (hscene ▸ h.warranted), h.resting⟩

/-- The same of an engine that has just been activated, whatever scenes its handlers link. -/
theorem HostCall.warrants_activated {s : Session History} {tables : Tables}
    (hfresh : s.engine.active = some (tables, .fresh)) (hidle : s.seen.calls = [])
    (calls : List HostCall) (hcalls : ∀ call ∈ calls, call ≠ .terminate) :
    ∃ ms st', s.Warrants (fun _ => True) (performAll .history calls s).2 tables .fresh ms st' :=
  warrants_performAll (fun c a _ => .unconditional c a) hfresh ⟨.empty, rfl⟩ hidle calls hcalls

end SocketGraph
