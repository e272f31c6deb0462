import SocketGraph.Proofs.HostCourse

/-! Ceilings. Handlers are nested no deeper than is allowed, and each of them opens at most four frames
before the next one starts; so the stack grows only as far as the nesting lets it. -/
namespace SocketGraph

/-- A moment at which the stack is no higher than is said, and no handler is started that is nested too
deep. -/
def Moment.Fits (depth height : Nat) (m : Moment) : Prop :=
  m.state.stack.height ≤ height ∧
    ∀ i a, m.step = .started i a → 1 ≤ m.state.nesting ∧ m.state.nesting < depth

namespace Moment

variable {depth height : Nat} {calls : CallStack} {st st' : EngineState} {ms : List Moment}

theorem fits_change (h : st.stack.height ≤ height) : (change calls st).Fits depth height := ⟨h, nofun⟩

theorem fits_scope (outer inner : Frame) (hms : ∀ m ∈ ms, m.Fits depth height)
    (hopen : st.stack.height + 2 ≤ height) (hclose : st'.stack.height ≤ height) :
    ∀ m ∈ opening calls st outer inner ++ ms ++ closing calls st', m.Fits depth height := by
  have hpushed : (st.push outer).stack.height = st.stack.height + 1 := by simp [EngineState.push]
  have hpushed' : ((st.push outer).push inner).stack.height = st.stack.height + 2 := by
    simp [EngineState.push]
  have hpopped : st'.closeFrame.stack.height ≤ height := by
    rw [EngineState.closeFrame, FrameStack.height_pop]
    omega
  have hpopped' : st'.closeBoth.stack.height ≤ height := by
    rw [EngineState.closeBoth, EngineState.closeFrame, FrameStack.height_pop]
    omega
  refine List.forall_mem_append.2 ⟨List.forall_mem_append.2 ⟨?_, hms⟩, ?_⟩
  · exact List.forall_mem_cons.2
      ⟨fits_change (by omega), List.forall_mem_singleton.2 (fits_change (by omega))⟩
  · exact List.forall_mem_cons.2
      ⟨fits_change hpopped, List.forall_mem_singleton.2 (fits_change hpopped')⟩

theorem fits_propagating (provider : Option Provider) (hms : ∀ m ∈ ms, m.Fits depth height)
    (hopen : st.stack.height + 2 ≤ height) (hclose : st'.stack.height ≤ height) :
    ∀ m ∈ propagating calls st provider ms st', m.Fits depth height := by
  have hpopped : st'.closeBoth.shallower.stack.height ≤ height := by
    rw [EngineState.stack_shallower, EngineState.closeBoth, EngineState.closeFrame,
      EngineState.closeFrame, FrameStack.height_pop, FrameStack.height_pop]
    omega
  refine List.forall_mem_cons.2 ⟨fits_change (Nat.le_of_add_right_le hopen), List.forall_mem_append.2
    ⟨fits_scope _ _ hms hopen hclose, List.forall_mem_singleton.2 (fits_change hpopped)⟩⟩

theorem fits_handled {i : Nat} {a : Activation} (g : Invocation) (outcome : Outcome Unit)
    (hms : ∀ m ∈ ms, m.Fits depth height) (hstart : st.stack.height ≤ height)
    (hnested : 1 ≤ st.nesting ∧ st.nesting < depth) (hend : st'.stack.height ≤ height) :
    ∀ m ∈ handled calls st i a ms g st' outcome, m.Fits depth height := by
  refine List.forall_mem_append.2 ⟨List.forall_mem_cons.2 ⟨⟨hstart, ?_⟩, hms⟩, ?_⟩
  · exact fun _ _ _ => hnested
  · exact List.forall_mem_singleton.2 ⟨hend, nofun⟩

end Moment

/-- How many frames a part of a run may open when handlers are nested to some depth. -/
def Role.room (depth nesting : Nat) : Role → Nat
  | .asked => 4 * (depth - 1 - nesting)
  | .delivering _ => 4 * (depth - nesting) - 2
  | .working _ => 4 * (depth - 1 - nesting) + 2

theorem Role.Same.room {role role' : Role} (h : role.Same role') (depth nesting : Nat) :
    role'.room depth nesting = role.room depth nesting := by
  cases role <;> cases role' <;> simp_all [Same, Role.room]

/-- Every part of a run stays within its room. -/
theorem Course.fits {scene : Scene} {calls : CallStack} {role role' : Role} {st st' : EngineState}
    {ms : List Moment} {height : Nat} (h : Course scene calls role st ms role' st')
    (hroom : st.stack.height + role.room scene.limits.recursionDepth st.nesting ≤ height) :
    ∀ m ∈ ms, m.Fits scene.limits.recursionDepth height := by
  induction h with
  | rest => exact nofun
  | seq first _ ih ih' =>
    refine List.forall_mem_append.2 ⟨ih hroom, ih' ?_⟩
    rwa [first.height, first.nesting, first.same.room]
  | skipped | paired | delivered | idle =>
    exact List.forall_mem_singleton.2 ⟨Nat.le_of_add_right_le hroom, nofun⟩
  | kept calls st i socket v =>
    refine List.forall_mem_singleton.2 (Moment.fits_change ?_)
    have hkept : (st.stack.putInput i socket v).height = st.stack.height :=
      FrameStack.height_writeThrough _ _ _
    exact hkept ▸ Nat.le_of_add_right_le hroom
  | declined calls st i a =>
    have hst : st.stack.height ≤ height := Nat.le_of_add_right_le hroom
    have hentered : (st.enter i a).stack.height ≤ height := EngineState.height_enter st i a ▸ hst
    exact List.forall_mem_cons.2 ⟨Moment.fits_change hentered, List.forall_mem_cons.2
      ⟨Moment.fits_change hentered, List.forall_mem_cons.2
        ⟨Moment.fits_change hentered, List.forall_mem_singleton.2 (Moment.fits_change hst)⟩⟩⟩
  | @updated _ st st' i a _ _ _ _ nested work ih =>
    have hst : st.stack.height ≤ height := Nat.le_of_add_right_le hroom
    have hentered : (st.enter i a).stack.height ≤ height := EngineState.height_enter st i a ▸ hst
    have hended : st'.stack.height ≤ height := work.height ▸ hentered
    have hleft : (st'.leave i).stack.height ≤ height := EngineState.height_leave st' i ▸ hended
    -- the nesting takes four frames off the room, and the handler needs two of them
    have hwork := ih (by
      simp only [Role.room, EngineState.stack_deeper, EngineState.height_enter,
        EngineState.nesting_deeper, EngineState.nesting_enter] at hroom ⊢
      omega)
    refine List.forall_mem_append.2 ⟨List.forall_mem_append.2 ⟨?_, ?_⟩, ?_⟩
    · exact List.forall_mem_cons.2
        ⟨Moment.fits_change hentered, List.forall_mem_singleton.2 (Moment.fits_change hentered)⟩
    · exact Moment.fits_handled _ _ hwork hentered ⟨Nat.le_add_left _ _, nested⟩ hended
    · exact List.forall_mem_cons.2
        ⟨Moment.fits_change hended, List.forall_mem_singleton.2 (Moment.fits_change hleft)⟩
  | @triggered _ st st' i a _ _ _ _ nested work ih =>
    have hst : st.stack.height ≤ height := Nat.le_of_add_right_le hroom
    have hentered : (st.enter i a).stack.height ≤ height := EngineState.height_enter st i a ▸ hst
    have hended : st'.stack.height ≤ height := work.height ▸ hentered
    have hleft : (st'.leave i).stack.height ≤ height := EngineState.height_leave st' i ▸ hended
    have hwork := ih (by
      simp only [Role.room, EngineState.height_enter, EngineState.nesting_enter] at hroom ⊢
      omega)
    refine List.forall_mem_append.2 ⟨List.forall_mem_cons.2 ⟨Moment.fits_change hentered, ?_⟩, ?_⟩
    · exact Moment.fits_handled _ _ hwork hentered nested hended
    · exact List.forall_mem_singleton.2 (Moment.fits_change hleft)
  | wrote calls g st script =>
    have hst : st.stack.height ≤ height := Nat.le_of_add_right_le hroom
    have hwrote : (script.effect g.frame g.activation st).stack.height = st.stack.height :=
      FrameStack.height_of_outline (script.outline_effect _ _ st)
    exact List.forall_mem_cons.2
      ⟨⟨hst, nofun⟩, List.forall_mem_singleton.2 (Moment.fits_change (hwrote ▸ hst))⟩
  | inner _ ih =>
    refine ih ?_
    simp only [Role.room] at hroom ⊢
    omega
  | linked _ course ih =>
    have hended := course.height
    simp only [Role.room, EngineState.height_openScene, EngineState.nesting_openScene] at hroom ih hended
    exact Moment.fits_scope _ _ (ih (by omega)) (by omega) (by omega)
  | @signalled _ g st st' _ pairings provider nested course ih =>
    -- two frames for the scene and two for the call: all that a nesting takes off the room
    have hended := course.height
    simp only [Role.room, EngineState.height_openCall, EngineState.stack_deeper,
      EngineState.height_openScene, EngineState.nesting_openCall, EngineState.nesting_deeper,
      EngineState.nesting_openScene] at hroom ih hended
    have hclosed : st'.closeBoth.shallower.stack.height ≤ height := by
      rw [EngineState.stack_shallower, EngineState.closeBoth, EngineState.closeFrame,
        EngineState.closeFrame, FrameStack.height_pop, FrameStack.height_pop]
      omega
    refine Moment.fits_scope _ _ (Moment.fits_propagating provider (ih (by omega)) ?_ ?_) ?_ hclosed
    · rw [EngineState.height_openScene]
      omega
    · omega
    · omega

/-- A call of the host opens at most four frames for each nesting that is allowed, and two of its own. -/
theorem HostCourse.fits {scene : Scene} {calls : CallStack} {st st' : EngineState} {ms : List Moment}
    (h : HostCourse scene calls st ms st') (hresting : st.nesting = 0) :
    ∀ m ∈ ms, m.Fits scene.limits.recursionDepth
      (st.stack.height + 4 * scene.limits.recursionDepth + 2) := by
  cases h with
  | idle => exact nofun
  | opened =>
    refine List.forall_mem_singleton.2 (Moment.fits_change ?_)
    rw [EngineState.openFrame, FrameStack.height_push]
    omega
  | closed =>
    refine List.forall_mem_singleton.2 (Moment.fits_change ?_)
    rw [EngineState.closeFrame, FrameStack.height_pop]
    omega
  | pulled provider course =>
    have hended := course.height
    rw [EngineState.height_openCall] at hended
    refine Moment.fits_scope _ _ (course.fits ?_) (by omega) (by omega)
    simp only [Role.room, EngineState.height_openCall, EngineState.nesting_openCall, hresting]
    omega
  | pushed provider course =>
    have hended := course.height
    simp only [EngineState.height_openCall, EngineState.stack_deeper] at hended
    refine Moment.fits_propagating provider (course.fits ?_) (by omega) (by omega)
    simp only [Role.room, EngineState.height_openCall, EngineState.stack_deeper,
      EngineState.nesting_openCall, EngineState.nesting_deeper, hresting]
    omega

end SocketGraph
