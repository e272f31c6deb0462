import SocketGraph.Proofs.Chronicle

/-! The body of a call: what happens between the opening and the closing of its frames. Only the handler that
the host has asked for is started with no other one at work, and before all others. -/
namespace SocketGraph

open Course

variable {scene : Scene} {calls : CallStack} {role role' : Role} {st st' : EngineState}
  {ms : List Moment}

namespace Moment

/-- The node whose update is started in a moment. -/
def updating? (m : Moment) : Option NodeId :=
  match m.step with
  | .started _ a => if a.isSignal then none else some a.node
  | _ => none

theorem exists_of_updating? {m : Moment} {node : NodeId} (h : m.updating? = some node) :
    ∃ i a, m.step = .started i a ∧ a.isSignal = false ∧ a.node = node := by
  obtain ⟨st, calls, step⟩ := m
  cases step with
  | started i a =>
    simp only [updating?] at h
    split_ifs at h with hpull
    exact ⟨i, a, rfl, by simpa using hpull, Option.some.inj h⟩
  | _ => exact nomatch h

/-- An update is started only while another handler is at work. -/
def CalledFor (m : Moment) : Prop := m.updating? ≠ none → m.calls ≠ []

theorem calledFor_of_step {m : Moment} (hstep : ∀ i a, m.step = .started i a → a.isSignal = true) :
    m.CalledFor := by
  intro hupdating
  obtain ⟨node, hnode⟩ := Option.ne_none_iff_exists'.1 hupdating
  obtain ⟨i, a, hstarted, hpull, -⟩ := exists_of_updating? hnode
  rw [hstep i a hstarted] at hpull
  exact nomatch hpull

theorem Inside.calledFor {n : Nat} {m : Moment} (h : m.Inside (n + 1)) : m.CalledFor := by
  rintro - hnone
  obtain ⟨st, calls, step⟩ := m
  obtain rfl : calls = [] := hnone
  cases step <;> exact nomatch h

/-- After an update only such are started that a handler at work calls for. -/
def Rooted (ms : List Moment) : Prop := ms.Pairwise fun m m' => m.updating? ≠ none → m'.CalledFor

theorem rooted_of_calledFor (h : ∀ m ∈ ms, m.CalledFor) : Rooted ms :=
  List.pairwise_of_forall_mem_list fun _ _ m' hm' _ => h m' hm'

end Moment

open Moment in
/-- A handler at work has called for all updates that are started on its behalf. -/
theorem Course.calledFor (h : Course scene calls role st ms role' st') (hrole : role ≠ .asked) :
    ∀ m ∈ ms, m.CalledFor := by
  have hchange (calls st) : (change calls st).CalledFor := calledFor_of_step (by simp [change])
  have hquiet {m : Moment} (hstep : ∀ i a, m.step ≠ .started i a) : ∀ m' ∈ [m], m'.CalledFor :=
    List.forall_mem_singleton.2 (calledFor_of_step fun i a hm => absurd hm (hstep i a))
  induction h with
  | rest => exact List.forall_mem_nil _
  | seq first _ ih ih' =>
    refine List.forall_mem_append.2 ⟨ih hrole, ih' ?_⟩
    rintro rfl
    have hsame := first.same
    cases role <;> simp_all [Role.Same]
  | skipped | paired | kept | declined | updated => exact absurd rfl hrole
  | delivered | idle => exact hquiet (by simp)
  | triggered outcome signal nested work ih =>
    refine List.forall_mem_append.2 ⟨List.forall_mem_cons.2 ⟨hchange _ _, ?_⟩, hquiet (by simp [change])⟩
    refine List.forall_mem_append.2 ⟨List.forall_mem_cons.2 ⟨?_, ih (by simp)⟩, hquiet (by simp)⟩
    refine calledFor_of_step ?_
    rintro _ _ ⟨⟩
    exact signal
  | wrote => exact List.forall_mem_cons.2 ⟨calledFor_of_step (by simp), hquiet (by simp [change])⟩
  | inner course => exact fun m hm => (course.inside m hm).calledFor
  | linked pairings course =>
    exact fun m hm => (inside_scope course.inside _ _ _ _ m hm).calledFor
  | signalled pairings provider nested course =>
    exact fun m hm => (inside_scope (inside_propagating course.inside _ _ _) _ _ _ _ m hm).calledFor

namespace EngineState

theorem outline_push (st : EngineState) (f : Frame) :
    (st.push f).stack.outline = st.stack.outline ++ [f.permeable] := by
  simp [push, FrameStack.push, FrameStack.outline]

theorem outline_closeFrame (st : EngineState) :
    st.closeFrame.stack.outline = st.stack.outline.dropLast := by
  simp [closeFrame, FrameStack.pop, FrameStack.outline, List.map_dropLast]

end EngineState

/-- A scene is linked: some frame lets nothing through. -/
def Moment.Linked (m : Moment) : Prop := false ∈ m.state.stack.outline

theorem EngineState.outline_openScene (st : EngineState) (i : Nat) (p : Pairings) :
    (st.openScene i p).stack.outline = st.stack.outline ++ [false, true] := by
  simp [openScene, outline_push, Frame.fresh]

theorem EngineState.false_mem_outline {st : EngineState} {s : FrameStack} {i : Nat} {p : Pairings}
    (h : s.outline = (st.openScene i p).stack.outline) : false ∈ s.outline := by
  simp [h, outline_openScene]

namespace Moment

/-- On frames that let something through nothing changes for a linked scene below. -/
theorem linked_of_call {provider : Option Provider} (hst : false ∈ st.stack.outline)
    (hms : ∀ m ∈ ms, m.Linked) (houtline : st'.stack.outline = (st.openCall provider).stack.outline) :
    ∀ m ∈ openingCall calls st provider ++ ms ++ closing calls st', m.Linked := by
  simp only [EngineState.openCall, EngineState.outline_push] at houtline
  simp only [openingCall, opening, closing, List.mem_append, List.mem_cons, List.not_mem_nil, or_false]
  rintro m (((rfl | rfl) | hm) | rfl | rfl)
  · simp [Linked, change, EngineState.outline_push, hst]
  · simp [Linked, change, EngineState.outline_push, hst]
  · exact hms m hm
  · simp [Linked, change, EngineState.outline_closeFrame, houtline, hst, Frame.fresh]
  · simp [Linked, change, EngineState.closeBoth, EngineState.outline_closeFrame, houtline, hst, Frame.fresh]

theorem outline_of_scene {i : Nat} {p : Pairings} (hms : ∀ m ∈ ms, m.Linked)
    (houtline : st'.stack.outline = (st.openScene i p).stack.outline) :
    ∀ m ∈ openingScene calls st i p ++ ms ++ closing calls st',
      m.state.stack.outline = st.stack.outline ∨ m.Linked := by
  rw [EngineState.outline_openScene] at houtline
  simp only [openingScene, opening, closing, List.mem_append, List.mem_cons, List.not_mem_nil, or_false]
  rintro m (((rfl | rfl) | hm) | rfl | rfl)
  · simp [Linked, change, EngineState.outline_push, Frame.fresh]
  · simp [Linked, change, EngineState.outline_push, Frame.fresh]
  · exact .inr (hms m hm)
  · simp [Linked, change, EngineState.outline_closeFrame, houtline]
  · simp [Linked, change, EngineState.closeBoth, EngineState.outline_closeFrame, houtline]

/-- A handler works on the frames that are open when its node is entered. -/
theorem outline_of_handled {i : Nat} {a : Activation} {g : Invocation} (outcome : Outcome Unit)
    (hms : ∀ m ∈ ms, m.state.stack.outline = (st.enter i a).stack.outline ∨ m.Linked)
    (hst' : st'.stack.outline = (st.enter i a).stack.outline) {st₁ : EngineState}
    (hst₁ : st₁.stack = (st.enter i a).stack) : ∀ m ∈ handled calls st₁ i a ms g st' outcome,
      m.state.stack.outline = st.stack.outline ∨ m.Linked := by
  have henter : (st.enter i a).stack.outline = st.stack.outline := FrameStack.outline_enter st.stack i a
  rw [henter] at hms hst'
  exact List.forall_mem_append.2 ⟨List.forall_mem_cons.2 ⟨.inl (hst₁ ▸ henter), hms⟩,
    List.forall_mem_singleton.2 (.inl hst')⟩

end Moment

open Moment in
/-- The frames that are open in a moment of a course are those that were open before it, unless a scene is
linked. -/
theorem Course.outline_of_mem (h : Course scene calls role st ms role' st') :
    ∀ m ∈ ms, m.state.stack.outline = st.stack.outline ∨ m.Linked := by
  induction h with
  | rest => exact List.forall_mem_nil _
  | seq first _ ih ih' => exact List.forall_mem_append.2 ⟨ih, first.outline ▸ ih'⟩
  | skipped | paired | delivered | idle => exact List.forall_mem_singleton.2 (.inl rfl)
  | kept =>
    exact List.forall_mem_singleton.2
      (.inl (FrameStack.outline_eq_of_shape (FrameStack.shape_putInput _ _ _ _)))
  | declined => simp [change, EngineState.enter, FrameStack.outline_enter]
  | @updated _ st st' i a _ ms outcome _ _ work ih =>
    have henter := FrameStack.outline_enter st.stack i a
    have hleave := FrameStack.outline_leave st'.stack i
    have hwork : st'.stack.outline = st.stack.outline := work.outline.trans henter
    refine List.forall_mem_append.2 ⟨List.forall_mem_append.2 ⟨?_, ?_⟩, ?_⟩
    · simp [change, EngineState.enter, henter]
    · exact outline_of_handled outcome ih work.outline rfl
    · simp [change, EngineState.leave, hwork, hleave]
  | @triggered _ st st' i a _ ms outcome _ _ work ih =>
    have henter := FrameStack.outline_enter st.stack i a
    have hwork : st'.stack.outline = st.stack.outline := work.outline.trans henter
    refine List.forall_mem_append.2 ⟨List.forall_mem_cons.2 ⟨.inl henter, ?_⟩, ?_⟩
    · exact outline_of_handled outcome ih work.outline rfl
    · exact List.forall_mem_singleton.2 (.inl ((FrameStack.outline_leave _ _).trans hwork))
  | wrote calls g st script =>
    refine List.forall_mem_cons.2 ⟨.inl rfl, List.forall_mem_singleton.2 (.inl ?_)⟩
    exact script.outline_effect _ _ st
  | inner _ ih => exact ih
  | linked pairings course ih =>
    exact outline_of_scene (fun m hm => (ih m hm).elim EngineState.false_mem_outline id) course.outline
  | @signalled _ g st _ ms pairings provider nested course ih =>
    have hopened : false ∈ ((st.openScene g.frame pairings).deeper.openCall provider).stack.outline := by
      simp [EngineState.openCall, EngineState.outline_push, EngineState.outline_openScene]
    have hclosed := EngineState.outline_closeBoth course.outline
    have hscened : false ∈ (st.openScene g.frame pairings).deeper.stack.outline :=
      EngineState.false_mem_outline rfl
    refine outline_of_scene (List.forall_mem_cons.2 ⟨hscened, List.forall_mem_append.2 ⟨?_, ?_⟩⟩) hclosed
    · refine linked_of_call hscened (fun m hm => (ih m hm).elim (fun h => ?_) id) course.outline
      exact Eq.mpr (congrArg (false ∈ ·) h) hopened
    · exact List.forall_mem_singleton.2 (EngineState.false_mem_outline hclosed)

/-! Evaluations and errands. -/

namespace Moment

/-- Changes before and after tell of no update. -/
theorem Rooted.between {before after : List Moment} (hms : Rooted ms)
    (hbefore : ∀ m ∈ before, m.step = .changed) (hafter : ∀ m ∈ after, m.step = .changed) :
    Rooted (before ++ ms ++ after) := by
  have hchange {m : Moment} (hm : m.step = .changed) : m.updating? = none := by rw [updating?, hm]
  refine List.pairwise_append.2 ⟨List.pairwise_append.2 ⟨?_, hms, ?_⟩, ?_, ?_⟩
  · exact List.pairwise_of_forall_mem_list fun m hm _ _ h => absurd (hchange (hbefore m hm)) h
  · exact fun m hm _ _ h => absurd (hchange (hbefore m hm)) h
  · exact List.pairwise_of_forall_mem_list fun _ _ m hm _ h => absurd (hchange (hafter m hm)) h
  · exact fun _ _ m hm _ h => absurd (hchange (hafter m hm)) h

/-- A handler is started before whatever it calls for. -/
theorem rooted_handled {i : Nat} {a : Activation} {g : Invocation}
    (work : Course scene calls (handling i a) st ms (.working g) st') (outcome : Outcome Unit) :
    Rooted (handled calls st i a ms g st' outcome) := by
  have hwork : ∀ m ∈ ms ++ [(⟨st', g :: calls, .finished i a outcome⟩ : Moment)], m.CalledFor :=
    List.forall_mem_append.2 ⟨work.calledFor nofun,
      List.forall_mem_singleton.2 (calledFor_of_step nofun)⟩
  exact List.pairwise_cons.2 ⟨fun m hm _ => hwork m hm, rooted_of_calledFor hwork⟩

end Moment

section
variable {below : Calls History} (hbelow : Tracked scene below)
include hbelow

theorem rooted_activeUpdate (i : Nat) (c : Component) (a : Activation) (r : Run History) :
    ∃ ms, Moment.Rooted ms ∧ (activeUpdate scene .history below i c a r).2.seen.moments =
      ms.reverse ++ r.seen.moments := by
  change ∃ ms, _ ∧ (left i (runUpdate scene .history below i c a (entered i a r)).2).seen.moments = _
  have hupdates := updates_runUpdate hbelow i c a (entered i a r)
  generalize (runUpdate scene .history below i c a (entered i a r)).2 = r' at hupdates
  obtain ⟨ms, hrooted, hseen⟩ : ∃ ms, Moment.Rooted ms ∧
      r'.seen = ⟨r.seen.calls, ms.reverse ++ (entered i a r).seen.moments⟩ := by
    rcases hupdates with ⟨-, hseen⟩ | ⟨-, ms, g, outcome, work, hseen⟩
    · exact ⟨[], .nil, hseen⟩
    · exact ⟨_, Moment.rooted_handled work outcome, hseen⟩
  have hrooted : Moment.Rooted ([.change r.seen.calls (r.state.enter i a),
      .change r.seen.calls (r.state.enter i a).deeper] ++ ms ++ [.change r.seen.calls r'.state.shallower,
      .change r.seen.calls (r'.state.shallower.leave i)]) :=
    hrooted.between (by simp [Moment.change]) (by simp [Moment.change])
  refine ⟨_, hrooted, ?_⟩
  rw [left, hseen]
  simp [entered]

/-- The handler of a node is the first one that its evaluation starts, and it calls for all others. -/
theorem rooted_evaluateAt (i : Nat) (node : NodeId) (requested : Option String) (r : Run History) :
    ∃ ms, Moment.Rooted ms ∧ (evaluateAt scene .history below i node requested r).2.seen.moments =
      ms.reverse ++ r.seen.moments := by
  rcases evaluateAt_cases .history below i node requested r with
    ⟨failure, heq⟩ | ⟨info, -, -, heq⟩ | ⟨info, c, -, -, -, heq⟩
  · rw [heq]
    exact ⟨[], .nil, rfl⟩
  · rw [heq]
    exact ⟨[⟨r.state, r.seen.calls, .skipped i node⟩], List.pairwise_singleton _ _, rfl⟩
  · rw [heq]
    exact rooted_activeUpdate hbelow i c _ r

end

/-- The body of a call that the host makes on some frames: the frames of the call are open throughout, perhaps
with those of linked scenes above, and what every advance keeps is carried through it. -/
structure Body (n : Nat) (ms : List Moment) : Prop where
  rooted : Moment.Rooted ms
  height : ∀ m ∈ ms, m.state.stack.height = n + 2 ∨ m.Linked
  carries : ∃ st₀ st', ∀ C : Chronicle, C.tells [] st₀ → C.Carries [] ms st'

namespace Body

theorem nil (n : Nat) : Body n [] :=
  ⟨.nil, nofun, .fresh, .fresh, fun _ => Chronicle.carries_nil⟩

theorem of_course {provider : Option Provider} (hrooted : Moment.Rooted ms)
    (course : Course scene calls role (st.openCall provider) ms role' st') : Body st.stack.height ms := by
  refine ⟨hrooted, fun m hm => (course.outline_of_mem m hm).imp (fun h => ?_) id, _, _,
    fun C ht => course.carries ht⟩
  exact (FrameStack.height_of_outline h).trans (by simp)

end Body

namespace Errand

variable {r r' : Run History}

/-- A run that adds the body of a call to the history, with changes before and after. -/
def Adds (r r' : Run History) : Prop :=
  ∃ before body after, r'.seen.moments = (before ++ body ++ after).reverse ++ r.seen.moments ∧
    (∀ m ∈ before ++ after, m.step = .changed) ∧ Body r.state.stack.height body

theorem adds_callScope {α : Type} (provider : Option Provider) {body : Nat → Action History α}
    (hfollows : ∀ j, Follows scene r.seen.calls .asked (body j))
    (hrooted : ∀ j r, ∃ ms, Moment.Rooted ms ∧
      (body j r).2.seen.moments = ms.reverse ++ r.seen.moments) :
    Adds r (Action.callScope .history provider body r).2 := by
  obtain ⟨ms, hseen, course⟩ := (hfollows (r.state.stack.height + 1)).asked
    (Course.opened r (.fresh true none) (.fresh true (provider.map .host))) rfl
  obtain ⟨ms', hms', hmoments⟩ := hrooted (r.state.stack.height + 1)
    (Course.opened r (.fresh true none) (.fresh true (provider.map .host)))
  -- both tell of the same moments
  obtain rfl : ms = ms' := List.reverse_inj.1 (List.append_cancel_right
    ((congrArg History.moments hseen).symm.trans hmoments))
  obtain ⟨-, -, hscope⟩ := recorded_between _ _ body r ms rfl hseen
  refine ⟨_, ms, _, congrArg History.moments hscope, ?_, .of_course hms' course⟩
  simp [Moment.opening, Moment.closing, Moment.change]

theorem adds_propagateAt {below : Calls History} (hbelow : Tracked scene below) (socket : String)
    (sources : List NodeId) (provider : Option Provider) :
    Adds r (propagateAt scene .history below socket sources provider r).2 := by
  cases hrefused : refused? scene r.state sources with
  | some source =>
    rw [propagateAt_of_refused socket sources provider r hrefused]
    exact ⟨[], [], [], rfl, nofun, .nil _⟩
  | none =>
    obtain ⟨ms, st, layers, left, h⟩ :=
      propagated_propagateAt hbelow socket sources provider r hrefused
    have hbody : Body r.state.deeper.stack.height ms :=
      .of_course (Moment.rooted_of_calledFor (h.course.calledFor nofun)) h.course
    refine ⟨.change r.seen.calls r.state.deeper :: Moment.openingCall r.seen.calls r.state.deeper provider,
      ms, Moment.closing r.seen.calls st ++ [.change r.seen.calls st.closeBoth.shallower], ?_, ?_, hbody⟩
    · rw [h.seen]
      simp [Moment.propagating]
    · simp [Moment.openingCall, Moment.opening, Moment.closing, Moment.change]

/-- What an errand adds to the history is the body of a call, with changes before and after. -/
theorem adds (h : Errand scene r r') : Adds r r' := by
  have htracked := scene.tracked_calls
  cases h with
  | idle => exact ⟨[], [], [], rfl, nofun, .nil _⟩
  | opened => exact ⟨[.change r.seen.calls r.state.openFrame], [], [], rfl, by simp [Moment.change], .nil _⟩
  | closed => exact ⟨[.change r.seen.calls r.state.closeFrame], [], [], rfl, by simp [Moment.change], .nil _⟩
  | evaluated node requested provider =>
    exact adds_callScope provider (fun j => (htracked _).evaluate _ j node requested) fun j r =>
      rooted_evaluateAt (htracked scene.limits.allowance) j node requested r
  | propagated socket sources provider =>
    exact adds_propagateAt (htracked scene.limits.allowance) socket sources provider

end Errand
end SocketGraph
