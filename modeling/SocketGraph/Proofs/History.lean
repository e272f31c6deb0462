import SocketGraph.Proofs.HostInvariant

/-! Histories: every moment of a run, with the state and the handlers at work. What a law says of the
changes of the state and of the circumstances of the steps holds at every moment of every session. -/
namespace SocketGraph

/-- A step as it is taken: in which state, and with which handlers at work. -/
structure Moment where
  state : EngineState
  calls : CallStack
  step : Step

/-- What has happened so far: the handlers at work now, and all moments, the latest first. -/
structure History where
  calls : CallStack
  moments : List Moment

/-- The watcher that keeps every moment. -/
def Watcher.history : Watcher History :=
  ⟨fun _ h => h, fun st s h => ⟨h.calls.after st.stack.height s, ⟨st, h.calls, s⟩ :: h.moments⟩⟩

/-- A new engine after some calls of its host, with its history. -/
def Session.recorded (registry : Registry) (limits : Limits) (calls : List HostCall) :
    Session History :=
  (HostCall.performAll .history calls (.start registry limits ⟨[], []⟩)).2

/-- A moment of some session with a new engine. -/
def Moment.Occurs (registry : Registry) (limits : Limits) (m : Moment) : Prop :=
  ∃ calls, m ∈ (Session.recorded registry limits calls).seen.moments

/-- A state that an engine can be in: in the middle of a call, where every change of the state is a
moment of its own, or between two calls. -/
inductive EngineState.Reachable (registry : Registry) (limits : Limits) (st : EngineState) : Prop
  | during {calls : CallStack} {step : Step}
      (occurs : Moment.Occurs registry limits ⟨st, calls, step⟩) : Reachable registry limits st
  | between (calls : List HostCall) {tables : Tables}
      (active : (Session.recorded registry limits calls).engine.active = some (tables, st)) :
      Reachable registry limits st

/-- A law of all sessions over a registry: about states, also right after each change, and about the
moments of all other steps. -/
structure Law (registry : Registry) where
  pairs : Activation → Pairings → Prop
  state : EngineState → Prop
  moment : Moment → Prop
  links : ∀ {tables limits c a}, Scene.Instance ⟨tables, registry, limits⟩ c a → c.Links pairs a
  fresh : state .fresh
  transition : ∀ {scene calls st st'}, Transition scene pairs calls st st' → state st → state st'
  changed : ∀ {calls st}, state st → moment ⟨st, calls, .changed⟩
  step : ∀ {scene calls st s}, state st → Admissible scene pairs st.stack st.nesting calls s →
    moment ⟨st, calls, s⟩

namespace Law

variable {registry : Registry} (L : Law registry)

/-- A history that is on the way to some handlers at work has obeyed a law so far. -/
structure Obeyed (calls : CallStack) (h : History) : Prop where
  calls : h.calls = calls
  moments : ∀ m ∈ h.moments, L.moment m

/-- A law is kept by the history of a session. -/
def keep (limits : Limits) : HostInvariant registry limits .history where
  seen h := L.Obeyed [] h
  of _ :=
    { pairs := L.pairs
      kept := fun calls st h => L.state st ∧ L.Obeyed calls h
      links := L.links
      transition := fun ht h =>
        ⟨L.transition ht h.1, h.2.calls,
          List.forall_mem_cons.2 ⟨L.changed (L.transition ht h.1), h.2.moments⟩⟩
      event := fun _ h => h
      step := fun hs h => by
        obtain ⟨hstate, rfl, hmoments⟩ := h
        exact ⟨hstate, rfl, List.forall_mem_cons.2 ⟨L.step hstate hs, hmoments⟩⟩ }
  event _ h := h
  fresh h := ⟨L.fresh, h⟩
  seen_of_kept h := h.2

theorem holds_recorded (limits : Limits) (calls : List HostCall) :
    (L.keep limits).Holds (.recorded registry limits calls) :=
  have hstart : (L.keep limits).seen ⟨[], []⟩ := ⟨rfl, nofun⟩
  (HostInvariant.Holds.start hstart).performAll calls

variable {limits : Limits}

/-- Every moment of every session obeys the law. -/
theorem of_occurs {m : Moment} (h : m.Occurs registry limits) : L.moment m := by
  obtain ⟨calls, hm⟩ := h
  exact (L.holds_recorded limits calls).seen.moments m hm

/-- Every reachable state obeys the law, if its moments tell of it. -/
theorem of_reachable (hmoment : ∀ {m}, L.moment m → L.state m.state) {st : EngineState}
    (h : st.Reachable registry limits) : L.state st := by
  cases h with
  | during occurs => exact hmoment (L.of_occurs occurs)
  | between calls active => exact ((L.holds_recorded limits calls).active active).1.1

end Law
end SocketGraph
