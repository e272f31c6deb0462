import SocketGraph.Proofs.HostCourse

/-! Rosters: what a history tells of the handlers at work. A handler is at work from its start to its end, and
those that were at work when it was started are at work as long as it is. -/
namespace SocketGraph

/-- What a history, its latest moment first, tells of the handlers at work, if every step of a run keeps it.
-/
structure Roster where
  tells : List Moment → CallStack → Prop
  nobody : tells [] []
  changed : ∀ {h calls} (st : EngineState), tells h calls → tells (.change calls st :: h) calls
  step : ∀ {h st calls s} {scene : Scene},
    Admissible scene (fun _ _ => True) st.stack st.nesting calls s → tells h calls →
      tells (⟨st, calls, s⟩ :: h) (calls.after st.stack.height s)

namespace Roster

variable (R : Roster)

/-- It is told in every moment of a history. -/
def Throughout : List Moment → Prop
  | [] => True
  | m :: earlier => R.tells earlier m.calls ∧ Throughout earlier

/-- What has been added to an old history tells of the handlers that are at work now. -/
structure Kept (old : List Moment) (atWork : CallStack) (h : History) : Prop where
  calls : h.calls = atWork
  moments : ∃ new, h.moments = new ++ old ∧ R.Throughout new ∧ R.tells new atWork

variable {R}

theorem Throughout.of_append {later earlier : List Moment} (h : R.Throughout (later ++ earlier)) :
    R.Throughout earlier := by
  induction later with
  | nil => exact h
  | cons _ later ih => exact ih h.2

theorem Throughout.split {later earlier : List Moment} {m : Moment}
    (h : R.Throughout (later ++ m :: earlier)) : R.tells earlier m.calls := h.of_append.1

theorem Kept.cons {old : List Moment} {atWork atWork' : CallStack} {h : History}
    (hh : R.Kept old atWork h) {m : Moment} (hm : m.calls = atWork)
    (htells : ∀ {new}, R.tells new atWork → R.tells (m :: new) atWork') :
    R.Kept old atWork' ⟨atWork', m :: h.moments⟩ := by
  obtain ⟨-, new, hmoments, hthroughout, hnew⟩ := hh
  exact ⟨rfl, m :: new, congrArg (List.cons m) hmoments, ⟨hm ▸ hnew, hthroughout⟩, htells hnew⟩

variable (R) in
/-- What a roster tells is kept by what is added to a history. -/
def keep (registry : Registry) (limits : Limits) (old : List Moment) :
    HostInvariant registry limits .history where
  seen h := R.Kept old [] h
  of _ :=
    { pairs := fun _ _ => True
      kept := fun calls _ h => R.Kept old calls h
      links := fun _ => .unconditional _ _
      transition := fun {calls _ st' h} _ hkept => by
        obtain ⟨_, moments⟩ := h
        obtain rfl := hkept.calls
        exact hkept.cons rfl (R.changed st')
      event := fun _ h => h
      step := fun {calls st s h} hs hkept => by
        obtain ⟨_, moments⟩ := h
        obtain rfl := hkept.calls
        exact hkept.cons rfl (R.step hs) }
  event _ h := h
  fresh h := h
  seen_of_kept h := h

/-- A roster tells of all that is added to the history by what a host calls for on an engine at rest. -/
theorem of_resting {s : Session History} {tables : Tables} {st : EngineState}
    (hactive : s.engine.active = some (tables, st)) (hresting : st.Resting) (hidle : s.seen.calls = [])
    (call : HostCall) {new : List Moment}
    (hnew : (call.perform .history s).2.seen.moments = new ++ s.seen.moments) :
    R.Throughout new ∧ R.tells new [] := by
  have hkept : R.Kept s.seen.moments [] s.seen := ⟨hidle, [], rfl, trivial, R.nobody⟩
  have hholds : (R.keep s.engine.registry s.engine.limits s.seen.moments).Holds s := by
    refine ⟨rfl, rfl, hkept, fun hactive' => ⟨hkept, ?_⟩⟩
    obtain ⟨rfl, rfl⟩ := Prod.mk.inj (Option.some.inj (hactive.symm.trans hactive'))
    exact hresting
  obtain ⟨new', hnew', htold⟩ := (hholds.perform call).seen.moments
  obtain rfl : new = new' := List.append_cancel_right (hnew.symm.trans hnew')
  exact htold

end Roster

/-- On which frame and for which activation each handler at work was started. -/
def CallStack.posts (calls : CallStack) : List (Nat × Activation) :=
  calls.map fun g => (g.frame, g.activation)

/-- Each post was taken in a moment of a history, when those after it were already taken. -/
def TakenIn (h : List Moment) : List (Nat × Activation) → Prop
  | [] => True
  | p :: rest => (∃ m ∈ h, m.step = .started p.1 p.2 ∧ m.calls.posts = rest) ∧ TakenIn h rest

theorem TakenIn.cons {h : List Moment} {posts : List (Nat × Activation)} (m : Moment)
    (hposts : TakenIn h posts) : TakenIn (m :: h) posts := by
  induction posts with
  | nil => trivial
  | cons p rest ih =>
    obtain ⟨⟨m', hm', hstep⟩, hrest⟩ := hposts
    exact ⟨⟨m', List.mem_cons_of_mem _ hm', hstep⟩, ih hrest⟩

/-- A handler starts on a frame that no permeable frame stands on, and the frames show the handlers at work
with it. -/
def Moment.Shown (m : Moment) : Prop :=
  ∀ i a, m.step = .started i a → i < m.state.stack.height ∧
    m.state.stack.isPermeable (i + 1) = false ∧ m.state.stack.Shows (⟨i, a, [], none⟩ :: m.calls)

/-- Who is at work as told by a history: everyone has taken a post, and a post is held until the handler is
finished. -/
structure Posted (h : List Moment) (calls : CallStack) : Prop where
  taken : TakenIn h calls.posts
  held : ∀ m ∈ h, ∀ i a, m.step = .started i a →
    (i, a) ∈ calls.posts ∨ ∃ m' ∈ h, ∃ outcome, m'.step = .finished i a outcome
  shown : ∀ m ∈ h, m.Shown

namespace Posted

variable {h : List Moment} {calls calls' : CallStack}

/-- A moment in which no handler is started or finished. -/
theorem keep (hh : Posted h calls) {m : Moment} (hstart : ∀ i a, m.step ≠ .started i a)
    (hposts : calls'.posts = calls.posts) : Posted (m :: h) calls' := by
  refine ⟨hposts ▸ hh.taken.cons m, fun m' hm' i a hstep => ?_, ?_⟩
  · rcases List.mem_cons.1 hm' with rfl | hm'
    · exact absurd hstep (hstart i a)
    · rw [hposts]
      exact (hh.held m' hm' i a hstep).imp id fun ⟨m₁, hm₁, hfinished⟩ =>
        ⟨m₁, List.mem_cons_of_mem _ hm₁, hfinished⟩
  · exact List.forall_mem_cons.2 ⟨fun i a hstep => absurd hstep (hstart i a), hh.shown⟩

theorem started (hh : Posted h calls) {st : EngineState} {i : Nat} {a : Activation}
    (hshown : (⟨st, calls, .started i a⟩ : Moment).Shown) :
    Posted (⟨st, calls, .started i a⟩ :: h) (⟨i, a, [], none⟩ :: calls) := by
  refine ⟨⟨⟨_, List.mem_cons_self, rfl, rfl⟩, hh.taken.cons _⟩, fun m' hm' j b hstep => ?_, ?_⟩
  · rcases List.mem_cons.1 hm' with rfl | hm'
    · obtain ⟨rfl, rfl⟩ := Step.started.inj hstep
      exact .inl List.mem_cons_self
    · exact (hh.held m' hm' j b hstep).imp (List.mem_cons_of_mem _) fun ⟨m₁, hm₁, hfinished⟩ =>
        ⟨m₁, List.mem_cons_of_mem _ hm₁, hfinished⟩
  · exact List.forall_mem_cons.2 ⟨hshown, hh.shown⟩

theorem finished {g : Invocation} (hh : Posted h (g :: calls)) (st : EngineState)
    (outcome : Outcome Unit) :
    Posted (⟨st, g :: calls, .finished g.frame g.activation outcome⟩ :: h) calls := by
  refine ⟨hh.taken.2.cons _, fun m' hm' i a hstep => ?_, ?_⟩
  · rcases List.mem_cons.1 hm' with rfl | hm'
    · exact nomatch hstep
    · rcases hh.held m' hm' i a hstep with hpost | ⟨m₁, hm₁, hfinished⟩
      · rcases List.mem_cons.1 hpost with hpost | hpost
        · obtain ⟨rfl, rfl⟩ := Prod.mk.inj hpost
          exact .inr ⟨_, List.mem_cons_self, outcome, rfl⟩
        · exact .inl hpost
      · exact .inr ⟨m₁, List.mem_cons_of_mem _ hm₁, hfinished⟩
  · exact List.forall_mem_cons.2 ⟨nofun, hh.shown⟩

end Posted

/-- Every history tells who is at work. -/
def Roster.posts : Roster where
  tells := Posted
  nobody := ⟨trivial, nofun, nofun⟩
  changed st hh := hh.keep nofun rfl
  step hs hh := by
    cases hs with
    | skipped | delivered | paired => exact hh.keep nofun rfl
    | started nested ready shows made =>
      refine hh.started ?_
      rintro _ _ ⟨⟩
      exact ⟨ready.present, ready.apart, shows⟩
    | performed script ready shows made => exact hh.keep nofun rfl
    | finished outcome ready shows => exact hh.finished _ outcome

end SocketGraph
