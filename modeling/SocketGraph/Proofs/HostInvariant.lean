import SocketGraph.Proofs.Balance
import SocketGraph.Proofs.HostRun

/-! Invariants of a whole session. Between the calls of a host only frames of open brackets are left,
on which no handler is at work and for which nobody answers. -/
namespace SocketGraph

/-- The shape of a frame that a bracket has opened. -/
def Frame.Shape.bracket : Frame.Shape := ⟨true, none, []⟩

namespace FrameStack

variable {s t : FrameStack}

/-- All frames were opened by brackets. -/
def Bracketed (s : FrameStack) : Prop := ∀ f ∈ s.shape, f = .bracket

namespace Bracketed

theorem empty : Bracketed .empty := nofun

theorem congr (hst : s.shape = t.shape) (h : s.Bracketed) : t.Bracketed := by
  rwa [Bracketed, ← hst]

theorem push (h : s.Bracketed) : (s.push (.fresh true none)).Bracketed := by
  intro f hf
  rw [shape_push, List.mem_append] at hf
  rcases hf with hf | hf
  · exact h f hf
  · exact List.eq_of_mem_singleton hf

theorem pop (h : s.Bracketed) : s.pop.Bracketed := by
  intro f hf
  rw [shape, FrameStack.pop, List.map_dropLast] at hf
  exact h f (List.dropLast_subset _ hf)

theorem frame? (h : s.Bracketed) {i : Nat} {f : Frame} (hf : s.frame? i = some f) :
    f.shape = .bracket :=
  h _ (List.mem_map_of_mem (List.mem_of_getElem? hf))

theorem provider? (h : s.Bracketed) (i : Nat) : s.provider? i = none := by
  refine readThrough_eq_none_iff.2 fun j _ => ?_
  cases hf : s.frame? j with
  | none => rfl
  | some f => exact congrArg Frame.Shape.provider (h.frame? hf)

theorem activeOn (h : s.Bracketed) (i : Nat) : s.activeOn i = [] := by
  unfold FrameStack.activeOn
  cases hf : s.frame? i with
  | none => rfl
  | some f => exact congrArg Frame.Shape.active (h.frame? hf)

theorem shows (h : s.Bracketed) : s.Shows [] := h.activeOn

theorem served (h : s.Bracketed) (pairs : Activation → Pairings → Prop) (calls : CallStack)
    (i : Nat) : s.Served pairs calls i := .of_provider?_eq_none (h.provider? i)

end Bracketed
end FrameStack

namespace Invariant

variable {ω : Type} {scene : Scene} {watch : Watcher ω} {I : Invariant scene watch} {s : FrameStack}
  {n : Nat}

/-! The calls of a host on an active engine leave the shape of the stack as they found it. -/

theorem leads_reportFailure {α : Type} (g : Stage) (node : NodeId) (socket : String)
    (outcome : Outcome α) : I.Leads g (reportFailure watch node socket outcome) g := by
  cases outcome with
  | error failure => exact (leads_log _ _).bind fun _ => leads_pure _ _
  | ok a => exact leads_pure _ _

theorem leads_requestValue (hs : s.Bracketed) (node : NodeId) (socket : String)
    (provider : Option Provider) :
    I.Leads ⟨[], s, n⟩ (scene.requestValue watch node socket provider) ⟨[], s, n⟩ := by
  unfold Scene.requestValue
  split
  · exact (leads_log _ _).bind fun _ => leads_pure _ _
  · refine (leads_log _ _).bind fun _ => ?_
    refine (leads_callScope provider (hs.served _ _ _) hs.shows fun t ht hshows => ?_).bind fun _ =>
      leads_reportFailure _ _ _ _
    refine (I.safe_hostCalls.evaluate node (some socket) ht hshows).bind fun outcome => ?_
    cases outcome with
    | error failure => exact leads_pure _ _
    | ok exposed => exact (leads_readStack _ _).bind fun _ => leads_pure _ _

theorem leads_updateNode (hs : s.Bracketed) (node : NodeId) (provider : Option Provider) :
    I.Leads ⟨[], s, n⟩ (scene.updateNode watch node provider) ⟨[], s, n⟩ := by
  unfold Scene.updateNode
  refine (leads_callScope provider (hs.served _ _ _) hs.shows fun t ht hshows => ?_).bind fun _ =>
    leads_reportFailure _ _ _ _
  exact I.safe_hostCalls.evaluate node none ht hshows

theorem leads_triggerSignal (hs : s.Bracketed) (socket : String) (source : Option SignalSource)
    (provider : Option Provider) :
    I.Leads ⟨[], s, n⟩ (scene.triggerSignal watch socket source provider) ⟨[], s, n⟩ := by
  unfold Scene.triggerSignal
  cases source with
  | none => exact (leads_log _ _).bind fun _ => leads_pure _ _
  | some source =>
    exact (leads_log _ _).bind fun _ =>
      I.safe_hostCalls.propagate socket _ provider (hs.served _ _ _) hs.shows

theorem leads_openFrame (s : FrameStack) :
    I.Leads ⟨[], s, n⟩ (Action.changeState watch EngineState.openFrame)
      ⟨[], s.push (.fresh true none), n⟩ :=
  leads_push true none nofun

theorem leads_closeFrame (s : FrameStack) :
    I.Leads ⟨[], s, n⟩ (Action.changeState watch EngineState.closeFrame) ⟨[], s.pop, n⟩ :=
  leads_changeState (fun _ hst => ⟨.pop, FrameStack.shape_pop_congr hst⟩) fun _ h => h

end Invariant

/-- A state between the calls of a host: no handler is at work. -/
structure EngineState.Resting (st : EngineState) : Prop where
  bracketed : st.stack.Bracketed
  nesting : st.nesting = 0

/-- What a session keeps under a watcher: something about what has been seen between the calls, and an
invariant for each tables, which an activation starts with and from which the host may go back to that.
-/
structure HostInvariant {ω : Type} (registry : Registry) (limits : Limits) (watch : Watcher ω) where
  seen : ω → Prop
  of : (tables : Tables) → Invariant ⟨tables, registry, limits⟩ watch
  event : ∀ {w} e, seen w → seen (watch.event e w)
  fresh : ∀ {tables w}, seen w → (of tables).kept [] .fresh w
  seen_of_kept : ∀ {tables st w}, (of tables).kept [] st w → seen w

namespace HostInvariant

variable {ω α : Type} {registry : Registry} {limits : Limits} {watch : Watcher ω}
  (J : HostInvariant registry limits watch)

/-- A session has kept the invariant so far. -/
structure Holds (s : Session ω) : Prop where
  registry : s.engine.registry = registry
  limits : s.engine.limits = limits
  seen : J.seen s.seen
  active : ∀ {tables st}, s.engine.active = some (tables, st) →
    (J.of tables).kept [] st s.seen ∧ st.Resting

variable {J} {s : Session ω}

theorem Holds.start {w : ω} (hw : J.seen w) : J.Holds (.start registry limits w) :=
  ⟨rfl, rfl, hw, nofun⟩

/-- Events alone change nothing. -/
theorem Holds.events (h : J.Holds s) {w : ω}
    (hw : ∀ P : ω → Prop, (∀ e w, P w → P (watch.event e w)) → P s.seen → P w) :
    J.Holds { s with seen := w } := by
  refine ⟨h.registry, h.limits, hw J.seen (fun e _ => J.event e) h.seen, fun {tables st} hactive => ?_⟩
  obtain ⟨hkept, hresting⟩ := h.active hactive
  exact ⟨hw _ (fun e _ => (J.of tables).event e) hkept, hresting⟩

theorem Holds.event (h : J.Holds s) (e : Event) :
    J.Holds { s with seen := watch.event e s.seen } :=
  h.events fun _ hP => hP e s.seen

theorem Holds.bind (h : J.Holds s) (source : DataSource) : J.Holds (Host.bind source s).2 := by
  rw [Host.bind_apply]
  split_ifs
  · exact h
  · exact ⟨h.registry, h.limits, h.seen, h.active⟩

/-- An activation starts with a fresh state or leaves everything as it is. -/
theorem Holds.activate (h : J.Holds s) (files : Files) :
    J.Holds (Host.activate watch files s).2 := by
  obtain ⟨w, hw, hrun⟩ := Host.activate_apply watch files s
  have hevents := h.events hw
  rw [hrun]
  cases hactivated : Host.activated files s.engine with
  | error failure => exact hevents
  | ok e =>
    obtain ⟨tables, rfl⟩ := Host.eq_of_activated hactivated
    refine ⟨h.registry, h.limits, hevents.seen, ?_⟩
    rintro _ _ ⟨⟩
    exact ⟨J.fresh hevents.seen, .empty, rfl⟩

theorem Holds.terminate (h : J.Holds s) : J.Holds (Host.terminate watch s).2 := by
  rw [Host.terminate_apply]
  by_cases hactive : s.engine.isActive = true
  · rw [if_pos hactive]
    exact ⟨h.registry, h.limits, J.event _ h.seen, nofun⟩
  · rw [if_neg hactive]
    exact h

/-- An action on the state of an active engine keeps the invariant if it leads to a stack of brackets
again. -/
theorem Holds.onState {tables : Tables} {st : EngineState} {body : Action ω α} {t : FrameStack}
    (h : J.Holds s) (hactive : s.engine.active = some (tables, st)) (ht : t.Bracketed)
    (hbody : (J.of tables).Leads ⟨[], st.stack, 0⟩ body ⟨[], t, 0⟩) :
    J.Holds (Host.onState tables st body s).2 ∧
      (Host.onState tables st body s).2.engine.openFrames = t.height := by
  obtain ⟨hkept, hresting⟩ := h.active hactive
  have hrun := hbody ⟨st, s.counters, s.seen⟩ ⟨rfl, hresting.nesting, hkept⟩
  refine ⟨⟨h.registry, h.limits, J.seen_of_kept hrun.kept, ?_⟩, FrameStack.height_congr hrun.shape⟩
  rintro _ _ ⟨⟩
  exact ⟨hrun.kept, ht.congr hrun.shape.symm, hrun.nesting⟩

theorem Holds.changeState (h : J.Holds s) (operation : String) {change : EngineState → EngineState}
    {step : FrameStack → FrameStack} (hstep : ∀ t : FrameStack, t.Bracketed → (step t).Bracketed)
    (hchange : ∀ tables (t : FrameStack),
      (J.of tables).Leads ⟨[], t, 0⟩ (Action.changeState watch change) ⟨[], step t, 0⟩) :
    J.Holds (Host.changeState watch operation change s).2 ∧
      (Host.changeState watch operation change s).2.engine.openFrames =
        s.engine.active.elim 0 fun a => (step a.2.stack).height := by
  rw [Host.changeState_apply]
  match hactive : s.engine.active with
  | none => exact ⟨h.event _, by simp [Engine.openFrames, hactive]⟩
  | some (tables, st) =>
    exact h.onState hactive (hstep _ (h.active hactive).2.bracketed) (hchange tables _)

/-- A request, an update or a trigger leaves the frames of an active engine as they are. -/
theorem Holds.whileActive (h : J.Holds s) (operation : String)
    {body : Scene → Action ω (Outcome α)}
    (hbody : ∀ tables (t : FrameStack), t.Bracketed →
      (J.of tables).Leads ⟨[], t, 0⟩ (body ⟨tables, registry, limits⟩) ⟨[], t, 0⟩) :
    J.Holds (Host.whileActive watch operation body s).2 ∧
      (Host.whileActive watch operation body s).2.engine.openFrames = s.engine.openFrames := by
  rw [Host.whileActive_apply]
  match hactive : s.engine.active with
  | none => exact ⟨h.event _, rfl⟩
  | some (tables, st) =>
    have hbracketed := (h.active hactive).2.bracketed
    have hscene : s.engine.scene tables = ⟨tables, registry, limits⟩ := by
      rw [Engine.scene, h.registry, h.limits]
    obtain ⟨hholds, hheight⟩ := h.onState hactive hbracketed (hbody tables _ hbracketed)
    dsimp only
    rw [hscene, hheight, Engine.openFrames, hactive]
    exact ⟨hholds, rfl⟩

theorem Holds.beginCycle (h : J.Holds s) :
    J.Holds (Host.beginCycle watch s).2 ∧ (Host.beginCycle watch s).2.engine.openFrames =
      s.engine.active.elim 0 fun a => (a.2.stack.push (.fresh true none)).height :=
  h.changeState _ (fun _ ht => ht.push) fun _ t => Invariant.leads_openFrame t

theorem Holds.endCycle (h : J.Holds s) :
    J.Holds (Host.endCycle watch s).2 ∧ (Host.endCycle watch s).2.engine.openFrames =
      s.engine.active.elim 0 fun a => a.2.stack.pop.height :=
  h.changeState _ (fun _ ht => ht.pop) fun _ t => Invariant.leads_closeFrame t

theorem Holds.requestValue (h : J.Holds s) (node : NodeId) (socket : String)
    (provider : Option Provider) :
    J.Holds (Host.requestValue watch node socket provider s).2 ∧
      (Host.requestValue watch node socket provider s).2.engine.openFrames =
        s.engine.openFrames :=
  h.whileActive _ fun _ _ ht => Invariant.leads_requestValue ht node socket provider

theorem Holds.updateNode (h : J.Holds s) (node : NodeId) (provider : Option Provider) :
    J.Holds (Host.updateNode watch node provider s).2 ∧
      (Host.updateNode watch node provider s).2.engine.openFrames = s.engine.openFrames :=
  h.whileActive _ fun _ _ ht => Invariant.leads_updateNode ht node provider

theorem Holds.triggerSignal (h : J.Holds s) (socket : String) (source : Option SignalSource)
    (provider : Option Provider) :
    J.Holds (Host.triggerSignal watch socket source provider s).2 ∧
      (Host.triggerSignal watch socket source provider s).2.engine.openFrames =
        s.engine.openFrames :=
  h.whileActive _ fun _ _ ht =>
    (Invariant.leads_triggerSignal ht socket source provider).bind fun _ => Invariant.leads_pure _ _

/-- Every call of the host keeps the invariant, whatever it answers. -/
theorem Holds.perform (h : J.Holds s) (call : HostCall) : J.Holds (call.perform watch s).2 := by
  cases call with
  | bind source => exact h.bind source
  | activate files => exact h.activate files
  | terminate => exact h.terminate
  | beginCycle => exact h.beginCycle.1
  | endCycle => exact h.endCycle.1
  | requestValue node socket provider => exact (h.requestValue node socket provider).1
  | updateNode node provider => exact (h.updateNode node provider).1
  | triggerSignal socket source provider => exact (h.triggerSignal socket source provider).1

theorem Holds.performAll (h : J.Holds s) (calls : List HostCall) :
    J.Holds (HostCall.performAll watch calls s).2 := by
  induction calls generalizing s with
  | nil => exact h
  | cons call rest ih => exact ih (h.perform call)

end HostInvariant
end SocketGraph
