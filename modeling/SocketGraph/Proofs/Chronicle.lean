import SocketGraph.Proofs.HostCourse

/-! Chronicles: what a history tells of the state that it has led to. Whatever every single advance of a
run keeps is kept by all courses, and it holds in every moment on the way. -/
namespace SocketGraph

/-- The changes of a state that no operation of a handler makes. -/
inductive EngineState.Moves (st : EngineState) : EngineState → Prop
  | enter (i : Nat) (a : Activation) : Moves st (st.enter i a)
  | leave (i : Nat) : Moves st (st.leave i)
  | keep (i : Nat) (socket : Link) (v : Value) :
      Moves st { st with stack := st.stack.putInput i socket v }
  | deeper : Moves st st.deeper
  | shallower : Moves st st.shallower
  | push (permeable : Bool) (provider : Option FrameProvider) :
      Moves st (st.push (.fresh permeable provider))
  | pop : Moves st st.closeFrame

/-- A step that tells neither of an operation nor of a change. -/
def Step.Quiet : Step → Prop
  | .performed _ _ _ | .changed => False
  | _ => True

/-- What a history, its latest moment first, tells of the state that it has led to, if every single
advance keeps it. -/
structure Chronicle where
  tells : List Moment → EngineState → Prop
  noted : ∀ {h st} calls {s : Step}, s.Quiet → tells h st → tells (⟨st, calls, s⟩ :: h) st
  moved : ∀ {h st st'} calls, st.Moves st' → tells h st → tells (.change calls st' :: h) st'
  wrote : ∀ {h st} calls calls' i a (script : Script), tells h st →
    tells (.change calls' (script.effect i a st) :: ⟨st, calls, .performed i a script⟩ :: h)
      (script.effect i a st)
  idle : ∀ {h st} calls i a (script : Script), script.effect i a st = st → tells h st →
    tells (⟨st, calls, .performed i a script⟩ :: h) st

namespace Chronicle

variable (C : Chronicle) {h : List Moment} {st st' : EngineState} {ms ms' : List Moment}

/-- It is told in every moment of some that are added to a history. A change is a moment in which the
state is ahead of the history. -/
def Throughout : List Moment → List Moment → Prop
  | _, [] => True
  | h, m :: ms => (m.step ≠ .changed → C.tells h m.state) ∧ Throughout (m :: h) ms

theorem throughout_append :
    C.Throughout h (ms ++ ms') ↔ C.Throughout h ms ∧ C.Throughout (ms.reverse ++ h) ms' := by
  induction ms generalizing h with
  | nil => simp [Throughout]
  | cons m ms ih => simp [Throughout, ih, and_assoc]

/-- It is told throughout some moments and of the state that they lead to. -/
structure Carries (h ms : List Moment) (st' : EngineState) : Prop where
  throughout : C.Throughout h ms
  tells : C.tells (ms.reverse ++ h) st'

variable {C}

/-- A moment of a history that is not a change has come after what is told of its state. -/
theorem Carries.split (hms : C.Carries h ms st') {later earlier : List Moment} {m : Moment}
    (hsplit : ms.reverse = later ++ m :: earlier) (hstep : m.step ≠ .changed) :
    C.tells (earlier ++ h) m.state := by
  obtain rfl : ms = earlier.reverse ++ m :: later.reverse := by
    rw [← List.reverse_reverse ms, hsplit]
    simp
  have hlate := (C.throughout_append.1 hms.throughout).2
  rw [List.reverse_reverse] at hlate
  exact hlate.1 hstep

theorem carries_nil (ht : C.tells h st) : C.Carries h [] st := ⟨trivial, ht⟩

theorem Carries.append (hms : C.Carries h ms st)
    (hms' : C.tells (ms.reverse ++ h) st → C.Carries (ms.reverse ++ h) ms' st') :
    C.Carries h (ms ++ ms') st' := by
  obtain ⟨hthroughout, htells⟩ := hms' hms.tells
  refine ⟨C.throughout_append.2 ⟨hms.throughout, hthroughout⟩, ?_⟩
  rwa [List.reverse_append, List.append_assoc]

theorem Carries.cons {m : Moment} (hm : C.Carries h [m] st)
    (hms : C.tells (m :: h) st → C.Carries (m :: h) ms st') : C.Carries h (m :: ms) st' :=
  show C.Carries h ([m] ++ ms) st' from hm.append hms

theorem carries_noted (calls : CallStack) {s : Step} (hs : s.Quiet) (ht : C.tells h st) :
    C.Carries h [⟨st, calls, s⟩] st := ⟨⟨fun _ => ht, trivial⟩, C.noted calls hs ht⟩

theorem carries_moved (calls : CallStack) (hmove : st.Moves st') (ht : C.tells h st) :
    C.Carries h [.change calls st'] st' :=
  ⟨⟨fun hstep => absurd rfl hstep, trivial⟩, C.moved calls hmove ht⟩

/-- Two frames are opened. -/
theorem carries_opening (calls : CallStack) (permeable permeable' : Bool)
    (provider provider' : Option FrameProvider) (ht : C.tells h st) :
    C.Carries h (Moment.opening calls st (.fresh permeable provider) (.fresh permeable' provider'))
      ((st.push (.fresh permeable provider)).push (.fresh permeable' provider')) :=
  (carries_moved calls (.push permeable provider) ht).cons (carries_moved calls (.push _ _))

/-- Two frames are closed. -/
theorem carries_closing (calls : CallStack) (ht : C.tells h st) :
    C.Carries h (Moment.closing calls st) st.closeBoth :=
  (carries_moved calls .pop ht).cons (carries_moved calls .pop)

/-- A handler is started, works and is finished. -/
theorem carries_handled {calls : CallStack} {i : Nat} {a : Activation} {g : Invocation}
    {outcome : Outcome Unit} (ht : C.tells h st)
    (hms : ∀ {h}, C.tells h st → C.Carries h ms st') :
    C.Carries h (Moment.handled calls st i a ms g st' outcome) st' :=
  ((carries_noted calls (by exact trivial) ht).cons hms).append (carries_noted _ (by exact trivial))

end Chronicle

variable {scene : Scene} {calls : CallStack} {role role' : Role} {st st' : EngineState}
  {ms : List Moment} {C : Chronicle}

open Chronicle in
/-- What every advance keeps is kept by a course. -/
theorem Course.carries (hcourse : Course scene calls role st ms role' st') {h : List Moment}
    (ht : C.tells h st) : C.Carries h ms st' := by
  induction hcourse generalizing h with
  | rest => exact carries_nil ht
  | seq _ _ ih ih' => exact (ih ht).append ih'
  | skipped | paired | delivered => exact carries_noted _ (by exact trivial) ht
  | kept calls st i socket v => exact carries_moved calls (.keep i socket v) ht
  | declined calls st i a =>
    -- the node becomes active, one nesting deeper, and both are taken back
    have hleave : (st.enter i a).leave i = st :=
      congrArg (fun s => { st with stack := s }) (FrameStack.leave_enter st.stack i a)
    refine (carries_moved calls (.enter i a) ht).cons fun ht =>
      (carries_moved calls .deeper ht).cons fun ht =>
        (carries_moved calls (show (st.enter i a).deeper.Moves (st.enter i a) from .shallower) ht).cons
          fun ht => ?_
    have hmove : (st.enter i a).Moves ((st.enter i a).leave i) := .leave i
    rw [hleave] at hmove
    exact carries_moved calls hmove ht
  | updated outcome pull nested work ih =>
    refine Carries.append (Carries.append ?_ fun ht => carries_handled ht ih) fun ht => ?_
    · exact (carries_moved _ (.enter _ _) ht).cons (carries_moved _ .deeper)
    · exact (carries_moved _ .shallower ht).cons (carries_moved _ (.leave _))
  | triggered outcome signal nested work ih =>
    exact ((carries_moved _ (.enter _ _) ht).cons fun ht => carries_handled ht ih).append
      (carries_moved _ (.leave _))
  | idle calls g st script effect =>
    exact ⟨⟨fun _ => ht, trivial⟩, C.idle _ _ _ script effect ht⟩
  | wrote calls g st script =>
    exact ⟨⟨fun _ => ht, fun hstep => absurd rfl hstep, trivial⟩, C.wrote _ _ _ _ script ht⟩
  | inner _ ih => exact ih ht
  | linked pairings course ih =>
    exact ((carries_opening _ _ _ _ _ ht).append ih).append (carries_closing _)
  | signalled pairings provider nested course ih =>
    refine Carries.append (Carries.append (carries_opening _ _ _ _ _ ht) fun ht => ?_)
      (carries_closing _)
    refine (carries_moved _ .deeper ht).cons fun ht => Carries.append ?_ (carries_moved _ .shallower)
    exact ((carries_opening _ _ _ _ _ ht).append ih).append (carries_closing _)

open Chronicle in
/-- What every advance keeps is kept by the calls of a host. -/
theorem HostCourse.carries (hcourse : HostCourse scene calls st ms st') {h : List Moment}
    (ht : C.tells h st) : C.Carries h ms st' := by
  cases hcourse with
  | idle => exact carries_nil ht
  | opened => exact carries_moved calls (.push true none) ht
  | closed => exact carries_moved calls .pop ht
  | pulled provider course =>
    exact ((carries_opening _ _ _ _ _ ht).append fun ht => course.carries ht).append
      (carries_closing _)
  | pushed provider course =>
    refine (carries_moved _ .deeper ht).cons fun ht => Carries.append ?_ (carries_moved _ .shallower)
    exact ((carries_opening _ _ _ _ _ ht).append fun ht => course.carries ht).append
      (carries_closing _)

/-- A session that has gone on from another one with the same tables, by moments that a chronicle may
tell of. -/
structure Session.GoesOn (s s' : Session History) (tables : Tables) (st : EngineState)
    (ms : List Moment) (st' : EngineState) : Prop where
  registry : s'.engine.registry = s.engine.registry
  limits : s'.engine.limits = s.engine.limits
  active : s'.engine.active = some (tables, st')
  seen : s'.seen = ⟨s.seen.calls, ms.reverse ++ s.seen.moments⟩
  carries : ∀ (C : Chronicle) {h}, C.tells h st → C.Carries h ms st'

theorem Session.GoesOn.trans {s s' s'' : Session History} {tables : Tables}
    {st st' st'' : EngineState} {ms ms' : List Moment} (h : s.GoesOn s' tables st ms st')
    (h' : s'.GoesOn s'' tables st' ms' st'') : s.GoesOn s'' tables st (ms ++ ms') st'' := by
  refine ⟨h'.registry.trans h.registry, h'.limits.trans h.limits, h'.active, ?_,
    fun C _ ht => (h.carries C ht).append fun ht => h'.carries C ht⟩
  rw [h'.seen, h.seen, List.reverse_append, List.append_assoc]

namespace HostCall

variable {s : Session History} {tables : Tables} {st : EngineState}

/-- A call of the host goes on from the state before by a course. -/
theorem goesOn_perform (hactive : s.engine.active = some (tables, st)) (call : HostCall)
    (hcall : call ≠ .terminate) :
    ∃ ms st', s.GoesOn (call.perform .history s).2 tables st ms st' ∧
      HostCourse (s.engine.scene tables) s.seen.calls st ms st' := by
  obtain ⟨hregistry, hlimits, ms, st', hactive', hseen, hcourse⟩ :=
    continues_perform call hactive hcall
  exact ⟨ms, st', ⟨hregistry, hlimits, hactive', hseen, fun C _ ht => hcourse.carries ht⟩, hcourse⟩

/-- Whatever a host calls for, short of terminating the engine, goes on from the state before. -/
theorem goesOn_performAll (hactive : s.engine.active = some (tables, st)) (calls : List HostCall)
    (hcalls : ∀ call ∈ calls, call ≠ .terminate) :
    ∃ ms st', s.GoesOn (performAll .history calls s).2 tables st ms st' := by
  induction calls generalizing s st with
  | nil => exact ⟨[], st, rfl, rfl, hactive, rfl, fun _ _ => Chronicle.carries_nil⟩
  | cons call rest ih =>
    obtain ⟨hcall, hrest⟩ := List.forall_mem_cons.1 hcalls
    obtain ⟨ms, st₁, h₁, -⟩ := goesOn_perform hactive call hcall
    obtain ⟨ms', st', h⟩ := ih h₁.active hrest
    exact ⟨ms ++ ms', st', h₁.trans h⟩

end HostCall
end SocketGraph
