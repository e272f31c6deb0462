import SocketGraph.Proofs.Discipline
import SocketGraph.Proofs.History

/-! Courses: how a run can go on, as a grammar of its moments. Nodes are evaluated one nesting deeper,
handlers perform their operations one after another, and linked scenes are opened by handlers alone; so
whatever a run has opened is closed again in turn. -/
namespace SocketGraph

namespace EngineState

def enter (st : EngineState) (i : Nat) (a : Activation) : EngineState :=
  { st with stack := st.stack.enter i a }

def leave (st : EngineState) (i : Nat) : EngineState := { st with stack := st.stack.leave i }

def push (st : EngineState) (f : Frame) : EngineState := { st with stack := st.stack.push f }

/-- The frames of a linked scene that a gateway on a frame has opened. -/
def openScene (st : EngineState) (caller : Nat) (pairings : Pairings) : EngineState :=
  (st.push (.fresh false (some (.gateway ⟨caller, pairings⟩)))).push (.fresh true none)

/-- The frames of a call. -/
def openCall (st : EngineState) (provider : Option Provider) : EngineState :=
  (st.push (.fresh true none)).push (.fresh true (provider.map .host))

/-- The two frames that a scene or a call has opened are closed. -/
def closeBoth (st : EngineState) : EngineState := st.closeFrame.closeFrame

@[simp] theorem stack_deeper (st : EngineState) : st.deeper.stack = st.stack := rfl

@[simp] theorem stack_shallower (st : EngineState) : st.shallower.stack = st.stack := rfl

@[simp] theorem height_enter (st : EngineState) (i : Nat) (a : Activation) :
    (st.enter i a).stack.height = st.stack.height := FrameStack.height_enter _ _ _

@[simp] theorem height_leave (st : EngineState) (i : Nat) :
    (st.leave i).stack.height = st.stack.height := FrameStack.height_modify _ _ _

@[simp] theorem height_openScene (st : EngineState) (caller : Nat) (pairings : Pairings) :
    (st.openScene caller pairings).stack.height = st.stack.height + 2 := by simp [openScene, push]

@[simp] theorem height_openCall (st : EngineState) (provider : Option Provider) :
    (st.openCall provider).stack.height = st.stack.height + 2 := by simp [openCall, push]

@[simp] theorem nesting_deeper (st : EngineState) : st.deeper.nesting = st.nesting + 1 := rfl

@[simp] theorem nesting_enter (st : EngineState) (i : Nat) (a : Activation) :
    (st.enter i a).nesting = st.nesting := rfl

@[simp] theorem nesting_openScene (st : EngineState) (caller : Nat) (pairings : Pairings) :
    (st.openScene caller pairings).nesting = st.nesting := rfl

@[simp] theorem nesting_openCall (st : EngineState) (provider : Option Provider) :
    (st.openCall provider).nesting = st.nesting := rfl

end EngineState

/-- What the first operation of a script writes when the handler of an activation performs it on a frame.
-/
def Script.effect (i : Nat) (a : Activation) (st : EngineState) : Script → EngineState
  | .push socket v _ => { st with stack := st.stack.putOutput i ⟨a.node, socket⟩ v }
  | .expose socket v _ => { st with stack := st.stack.putExposed i ⟨a.node, socket⟩ v }
  | .exposeSignal socket _ =>
    if a.isSignal then { st with stack := st.stack.addSignal i ⟨a.node, socket⟩ } else st
  | .forward socket _ =>
    if (st.stack.active? i).any Activation.isSignal then
      { st with stack := st.stack.forward i socket }
    else st
  | .mark target scope _ => st.mark i a.node a.component target scope
  | _ => st

namespace Moment

/-- A change of the state, right after it. -/
def change (calls : CallStack) (st : EngineState) : Moment := ⟨st, calls, .changed⟩

/-- The moments in which two frames are opened. -/
def opening (calls : CallStack) (st : EngineState) (outer inner : Frame) : List Moment :=
  [change calls (st.push outer), change calls ((st.push outer).push inner)]

/-- The moments in which two frames are closed. -/
def closing (calls : CallStack) (st : EngineState) : List Moment :=
  [change calls st.closeFrame, change calls st.closeBoth]

def openingScene (calls : CallStack) (st : EngineState) (caller : Nat) (pairings : Pairings) :
    List Moment :=
  opening calls st (.fresh false (some (.gateway ⟨caller, pairings⟩))) (.fresh true none)

def openingCall (calls : CallStack) (st : EngineState) (provider : Option Provider) : List Moment :=
  opening calls st (.fresh true none) (.fresh true (provider.map .host))

/-- The moments of a handler from its start to its end. -/
def handled (calls : CallStack) (st : EngineState) (i : Nat) (a : Activation) (ms : List Moment)
    (g : Invocation) (st' : EngineState) (outcome : Outcome Unit) : List Moment :=
  ⟨st, calls, .started i a⟩ :: ms ++ [⟨st', g :: calls, .finished i a outcome⟩]

/-- The moments of a propagation: it is nested one deeper and has the frames of a call. -/
def propagating (calls : CallStack) (st : EngineState) (provider : Option Provider)
    (ms : List Moment) (st' : EngineState) : List Moment :=
  change calls st.deeper :: (openingCall calls st.deeper provider ++ ms ++ closing calls st' ++
    [change calls st'.closeBoth.shallower])

end Moment

/-- What a part of a run is about: inputs are asked for, signals are delivered on a frame, or a handler
works, which is the innermost one then. -/
inductive Role
  | asked
  | delivering (frame : Nat)
  | working (g : Invocation)

namespace Role

/-- The same part of a run, perhaps later: a handler at work may have performed operations since. -/
def Same : Role → Role → Prop
  | .working g, .working g' => g'.frame = g.frame ∧ g'.activation = g.activation
  | role, role' => role' = role

theorem Same.rfl {role : Role} : role.Same role := by cases role <;> simp [Same]

theorem Same.trans {role role' role'' : Role} (h : role.Same role') (h' : role'.Same role'') :
    role.Same role'' := by
  cases role <;> cases role' <;> cases role'' <;> simp_all [Same]

/-- The handlers at work, with the one that a part is about. -/
def atWork : Role → CallStack → CallStack
  | .working g, calls => g :: calls
  | _, calls => calls

/-- A stack with the activation of the handler that a part is about. -/
def on : Role → FrameStack → FrameStack
  | .working g, s => s.enter g.frame g.current
  | _, s => s

end Role

/-- How a run can go on above some handlers at work. -/
inductive Course (scene : Scene) :
    CallStack → Role → EngineState → List Moment → Role → EngineState → Prop
  | rest (calls : CallStack) (role : Role) (st : EngineState) : Course scene calls role st [] role st
  | seq {calls : CallStack} {role role' role'' : Role} {st st' st'' : EngineState}
      {ms ms' : List Moment} (first : Course scene calls role st ms role' st')
      (second : Course scene calls role' st' ms' role'' st'') :
      Course scene calls role st (ms ++ ms') role'' st''
  | skipped (calls : CallStack) (st : EngineState) (i : Nat) (node : NodeId) :
      Course scene calls .asked st [⟨st, calls, .skipped i node⟩] .asked st
  | paired (calls : CallStack) (st : EngineState) (i : Nat) (b : Binding) (socket : Link)
      (own : String) : Course scene calls .asked st [⟨st, calls, .paired i b socket own⟩] .asked st
  | kept (calls : CallStack) (st : EngineState) (i : Nat) (socket : Link) (v : Value) :
      Course scene calls .asked st
        [.change calls { st with stack := st.stack.putInput i socket v }] .asked
        { st with stack := st.stack.putInput i socket v }
  | declined (calls : CallStack) (st : EngineState) (i : Nat) (a : Activation) :
      Course scene calls .asked st [.change calls (st.enter i a), .change calls (st.enter i a).deeper,
        .change calls (st.enter i a), .change calls st] .asked st
  | updated {calls : CallStack} {st st' : EngineState} {i : Nat} {a : Activation} {g : Invocation}
      {ms : List Moment} (outcome : Outcome Unit) (pull : a.isSignal = false)
      (nested : st.nesting + 1 < scene.limits.recursionDepth)
      (work : Course scene calls (.working ⟨i, a, [], none⟩) (st.enter i a).deeper ms (.working g)
        st') :
      Course scene calls .asked st
        ([.change calls (st.enter i a), .change calls (st.enter i a).deeper] ++
          Moment.handled calls (st.enter i a).deeper i a ms g st' outcome ++
          [.change calls st'.shallower, .change calls (st'.shallower.leave i)])
        .asked (st'.shallower.leave i)
  | delivered (calls : CallStack) (st : EngineState) (i : Nat) (link : Link) :
      Course scene calls (.delivering i) st [⟨st, calls, .delivered i link⟩] (.delivering i) st
  | triggered {calls : CallStack} {st st' : EngineState} {i : Nat} {a : Activation} {g : Invocation}
      {ms : List Moment} (outcome : Outcome Unit) (signal : a.isSignal = true)
      (nested : 0 < st.nesting ∧ st.nesting < scene.limits.recursionDepth)
      (work : Course scene calls (.working ⟨i, a, [], none⟩) (st.enter i a) ms (.working g) st') :
      Course scene calls (.delivering i) st
        (.change calls (st.enter i a) ::
          Moment.handled calls (st.enter i a) i a ms g st' outcome ++ [.change calls (st'.leave i)])
        (.delivering i) (st'.leave i)
  | idle (calls : CallStack) (g : Invocation) (st : EngineState) (script : Script)
      (effect : script.effect g.frame g.activation st = st) :
      Course scene calls (.working g) st
        [⟨st, g :: calls, .performed g.frame g.activation script⟩]
        (.working (g.perform st.stack.height script)) st
  | wrote (calls : CallStack) (g : Invocation) (st : EngineState) (script : Script) :
      Course scene calls (.working g) st
        [⟨st, g :: calls, .performed g.frame g.activation script⟩,
          .change (g.perform st.stack.height script :: calls) (script.effect g.frame g.activation st)]
        (.working (g.perform st.stack.height script)) (script.effect g.frame g.activation st)
  | inner {calls : CallStack} {g : Invocation} {st st' : EngineState} {ms : List Moment}
      (course : Course scene (g :: calls) .asked st ms .asked st') :
      Course scene calls (.working g) st ms (.working g) st'
  | linked {calls : CallStack} {g : Invocation} {st st' : EngineState} {ms : List Moment}
      (pairings : Pairings)
      (course : Course scene (g :: calls) .asked (st.openScene g.frame pairings) ms .asked st') :
      Course scene calls (.working g) st
        (Moment.openingScene (g :: calls) st g.frame pairings ++ ms ++ Moment.closing (g :: calls) st')
        (.working g) st'.closeBoth
  | signalled {calls : CallStack} {g : Invocation} {st st' : EngineState} {ms : List Moment}
      (pairings : Pairings) (provider : Option Provider)
      (nested : st.nesting + 1 < scene.limits.recursionDepth)
      (course : Course scene (g :: calls)
        (.delivering ((st.openScene g.frame pairings).stack.height + 1))
        ((st.openScene g.frame pairings).deeper.openCall provider) ms
        (.delivering ((st.openScene g.frame pairings).stack.height + 1)) st') :
      Course scene calls (.working g) st
        (Moment.openingScene (g :: calls) st g.frame pairings ++
          Moment.propagating (g :: calls) (st.openScene g.frame pairings) provider ms st' ++
          Moment.closing (g :: calls) st'.closeBoth.shallower)
        (.working g) st'.closeBoth.shallower.closeBoth

namespace FrameStack

variable {s t : FrameStack}

/-- Which frames let walks go on, the outermost first. -/
def outline (s : FrameStack) : List Bool := s.frames.map Frame.permeable

theorem outline_eq_of_shape (h : s.shape = t.shape) : s.outline = t.outline := by
  simpa [outline, shape, Frame.shape, Function.comp_def] using
    congrArg (List.map Frame.Shape.permeable) h

theorem height_of_outline (h : s.outline = t.outline) : s.height = t.height := by
  simpa [outline, height] using congrArg List.length h

theorem isPermeable_of_outline (h : s.outline = t.outline) (i : Nat) :
    s.isPermeable i = t.isPermeable i := by
  have hi : s.outline[i]? = t.outline[i]? := by rw [h]
  unfold isPermeable frame?
  simp only [outline, List.getElem?_map] at hi
  cases hs : s.frames[i]? <;> cases ht : t.frames[i]? <;> simp_all

/-- A change that keeps what every frame lets through keeps the outline. -/
theorem outline_modify {i : Nat} {change : Frame → Frame}
    (h : ∀ f, (change f).permeable = f.permeable) : (s.modify i change).outline = s.outline := by
  refine List.ext_getElem? fun j => ?_
  simp only [outline, modify, List.getElem?_map, List.getElem?_modify]
  split_ifs
  · cases s.frames[j]? <;> simp [h]
  · cases s.frames[j]? <;> rfl

theorem outline_enter (s : FrameStack) (i : Nat) (a : Activation) :
    (s.enter i a).outline = s.outline := outline_modify fun _ => rfl

theorem outline_leave (s : FrameStack) (i : Nat) : (s.leave i).outline = s.outline :=
  outline_modify fun _ => rfl

theorem outline_pop_congr (h : s.outline = t.outline) : s.pop.outline = t.pop.outline := by
  simpa [outline, pop, List.map_dropLast] using congrArg List.dropLast h

/-- An activation on a frame that there is not is nowhere. -/
theorem enter_of_height_le {i : Nat} (h : s.height ≤ i) (a : Activation) : s.enter i a = s := by
  refine FrameStack.ext_frame? fun j => ?_
  rw [enter, frame?_modify]
  split_ifs with hij
  · rw [← hij, frame?_eq_none_iff.2 h]
    rfl
  · rfl

end FrameStack

namespace EngineState

variable {st st' : EngineState} {s : FrameStack}

theorem outline_closeBoth {f f' : Frame}
    (h : st'.stack.outline = ((st.push f).push f').stack.outline) :
    st'.closeBoth.stack.outline = st.stack.outline := by
  have hpop := FrameStack.outline_pop_congr (FrameStack.outline_pop_congr h)
  rwa [push, push, FrameStack.pop_push, FrameStack.pop_push] at hpop

theorem shape_pushBoth {f f' : Frame} (h : st.stack.shape = s.shape) :
    ((st.push f).push f').stack.shape = ((s.push f).push f').shape :=
  FrameStack.shape_push_congr (FrameStack.shape_push_congr h rfl) rfl

theorem shape_closeBoth {f f' : Frame} (h : st'.stack.shape = ((s.push f).push f').shape) :
    st'.closeBoth.stack.shape = s.shape := by
  have hpop := FrameStack.shape_pop_congr (FrameStack.shape_pop_congr h)
  rwa [FrameStack.pop_push, FrameStack.pop_push] at hpop

end EngineState

namespace Script

variable {i : Nat} {a : Activation} {st : EngineState}

theorem nesting_effect (i : Nat) (a : Activation) (st : EngineState) (script : Script) :
    (script.effect i a st).nesting = st.nesting := by
  cases script with
  | exposeSignal | forward =>
    simp only [effect]
    split_ifs <;> rfl
  | mark target scope next => cases scope <;> rfl
  | _ => rfl

theorem outline_effect (i : Nat) (a : Activation) (st : EngineState) (script : Script) :
    (script.effect i a st).stack.outline = st.stack.outline := by
  cases script with
  | push | expose =>
    exact FrameStack.outline_eq_of_shape (FrameStack.shape_writeThrough fun _ => rfl)
  | exposeSignal =>
    simp only [effect]
    split_ifs
    · exact FrameStack.outline_eq_of_shape (FrameStack.shape_addSignal _ _ _)
    · rfl
  | forward =>
    simp only [effect]
    split_ifs
    · exact FrameStack.outline_modify fun _ => rfl
    · rfl
  | mark target scope next =>
    cases scope with
    | frame | root => exact FrameStack.outline_modify fun _ => rfl
    | forever => rfl
  | _ => rfl

end Script

namespace Invocation

variable {g : Invocation} {st : EngineState} {s : FrameStack}

/-- A signal that a handler forwards joins its activation, which is the innermost one of its frame. -/
theorem shape_forward (socket : String) (next : Script)
    (h : st.stack.shape = (s.enter g.frame g.current).shape) :
    ((Script.forward socket next).effect g.frame g.activation st).stack.shape =
      (s.enter g.frame (g.activation.sent (g.forwarded ++ [socket]))).shape := by
  have hactive := FrameStack.active?_congr h g.frame
  simp only [Script.effect, hactive]
  by_cases hi : g.frame < s.height
  · rw [FrameStack.active?_enter_self hi]
    cases hsignal : g.activation.isSignal with
    | true =>
      rw [if_pos (by simp [current, hsignal])]
      have hforward := FrameStack.shape_forward_congr h g.frame socket
      rwa [FrameStack.forward_enter, current, Activation.forward_sent] at hforward
    | false =>
      rw [if_neg (by simp [current, hsignal]), Invariant.sent_of_not_signal hsignal]
      rwa [current, Invariant.sent_of_not_signal hsignal] at h
  · have hheight : s.height ≤ g.frame := Nat.not_lt.1 hi
    rw [FrameStack.enter_of_height_le hheight] at h
    rwa [FrameStack.enter_of_height_le hheight, FrameStack.enter_of_height_le hheight,
      FrameStack.active?, FrameStack.frame?_eq_none_iff.2 hheight, if_neg (by simp)]

/-- A handler at work stands on its frame with what it has forwarded so far. -/
theorem shape_perform (n : Nat) (script : Script)
    (h : st.stack.shape = (s.enter g.frame g.current).shape) :
    (script.effect g.frame g.activation st).stack.shape =
      (s.enter g.frame (g.perform n script).current).shape := by
  have hsame (hnone : script.forwarded? = none) : (g.perform n script).current = g.current := by
    simp [perform, current, hnone]
  cases script with
  | forward socket next => exact shape_forward socket next h
  | push =>
    rw [hsame rfl]
    exact (FrameStack.shape_putOutput _ _ _ _).trans h
  | expose =>
    rw [hsame rfl]
    exact (FrameStack.shape_putExposed _ _ _ _).trans h
  | exposeSignal socket next =>
    rw [hsame rfl]
    simp only [Script.effect]
    split_ifs
    · exact (FrameStack.shape_addSignal _ _ _).trans h
    · exact h
  | mark target scope next =>
    rw [hsame rfl]
    cases scope with
    | frame | root => exact (FrameStack.shape_mark _ _ _ _ _).trans h
    | forever => exact h
  | _ =>
    rw [hsame rfl]
    exact h

end Invocation

namespace Course

variable {scene : Scene} {calls : CallStack} {role role' : Role} {st st' : EngineState}
  {ms : List Moment}

theorem same (h : Course scene calls role st ms role' st') : role.Same role' := by
  induction h with
  | seq _ _ ih ih' => exact ih.trans ih'
  | idle | wrote => exact ⟨rfl, rfl⟩
  | _ => exact .rfl

/-- Every nesting is left again. -/
theorem nesting (h : Course scene calls role st ms role' st') : st'.nesting = st.nesting := by
  induction h with
  | seq _ _ ih ih' => exact ih'.trans ih
  | updated _ _ _ _ ih => exact congrArg (· - 1) ih
  | triggered _ _ _ _ ih => exact ih
  | wrote calls g st script => exact script.nesting_effect _ _ st
  | inner _ ih => exact ih
  | linked _ _ ih => exact ih
  | signalled _ _ _ _ ih => exact congrArg (· - 1) ih
  | _ => rfl

/-- Every frame that is opened is closed again, and the others let through what they did before. -/
theorem outline (h : Course scene calls role st ms role' st') :
    st'.stack.outline = st.stack.outline := by
  induction h with
  | seq _ _ ih ih' => exact ih'.trans ih
  | kept => exact FrameStack.outline_eq_of_shape (FrameStack.shape_putInput _ _ _ _)
  | updated _ _ _ _ ih | triggered _ _ _ _ ih =>
    exact (FrameStack.outline_leave _ _).trans (ih.trans (FrameStack.outline_enter _ _ _))
  | wrote calls g st script => exact script.outline_effect _ _ st
  | inner _ ih => exact ih
  | linked _ _ ih => exact EngineState.outline_closeBoth ih
  | signalled _ _ _ _ ih =>
    have hcall := EngineState.outline_closeBoth ih
    exact EngineState.outline_closeBoth hcall
  | _ => rfl

theorem height (h : Course scene calls role st ms role' st') :
    st'.stack.height = st.stack.height := FrameStack.height_of_outline h.outline

/-- The activation of every handler is ended again, and that of a handler at work gathers the signals
that it forwards. -/
theorem shape (h : Course scene calls role st ms role' st') {s : FrameStack}
    (hs : st.stack.shape = (role.on s).shape) : st'.stack.shape = (role'.on s).shape := by
  induction h generalizing s with
  | seq _ _ ih ih' => exact ih' (ih hs)
  | kept => exact (FrameStack.shape_putInput _ _ _ _).trans hs
  | @updated _ _ _ i _ _ _ _ _ _ work ih | @triggered _ _ _ i _ _ _ _ _ _ work ih =>
    have hwork := ih (s := s) (FrameStack.shape_enter_congr hs _ _)
    have hleave := FrameStack.shape_leave_congr hwork i
    rwa [Role.on, work.same.1, FrameStack.leave_enter] at hleave
  | wrote calls g st script => exact g.shape_perform _ script hs
  | idle calls g st script effect =>
    have hperform := g.shape_perform st.stack.height script hs
    rwa [effect] at hperform
  | inner _ ih => exact ih hs
  | linked _ _ ih => exact EngineState.shape_closeBoth (ih (EngineState.shape_pushBoth hs))
  | signalled _ _ _ _ ih =>
    exact EngineState.shape_closeBoth (EngineState.shape_closeBoth
      (ih (EngineState.shape_pushBoth (EngineState.shape_pushBoth hs))))
  | _ => exact hs

end Course
end SocketGraph
