import SocketGraph.Proofs.Agreement
import SocketGraph.Proofs.Lifecycle
import SocketGraph.Proofs.Remembered

/-! Fresh engines. When no frame is open, nothing is left of the calls that the host has made, apart from
the marks that last forever; so the next call is answered as the first one after an activation. -/
namespace SocketGraph

namespace Likeness

variable {ω ω' α : Type} {scene : Scene} {watch : Watcher ω} {watch' : Watcher ω'}

/-- Runs with the same state are alike, whatever has been counted and whoever watches them. -/
def sameState (watch : Watcher ω) (watch' : Watcher ω') : Likeness watch watch' where
  like r r' := r.state = r'.state
  state h := h
  emit _ h := h
  note _ h := h
  keep i socket v h :=
    congrArg (fun st : EngineState => { st with stack := st.stack.putInput i socket v }) h

theorem lasting_sameState (watch : Watcher ω) (watch' : Watcher ω') :
    (sameState watch watch').Lasting := fun change _ _ h => congrArg change h

variable {L : Likeness watch watch'} {n : Nat}

theorem agree_reportFailure (node : NodeId) (socket : String) (outcome : Outcome α) :
    L.Agree n (reportFailure watch node socket outcome) (reportFailure watch' node socket outcome) := by
  cases outcome with
  | error failure => exact (agree_log _).bind fun _ => agree_pure _
  | ok a => exact agree_pure _

section
variable (hlasting : L.Lasting) {allowed : Prop} (hcount : allowed → L.Counting)
  (hscripts : scene.registry.Counts allowed)
include hlasting hcount hscripts

theorem agree_requestValue (node : NodeId) (socket : String) (provider : Option Provider) :
    L.Agree n (scene.requestValue watch node socket provider)
      (scene.requestValue watch' node socket provider) := by
  have hcalls := agree_calls hlasting hcount hscripts (scene.limits.allowance + 1) n
  unfold Scene.requestValue
  split
  · exact (agree_log _).bind fun _ => agree_pure _
  · refine (agree_log _).bind fun _ => (Agree.between hlasting fun i => ?_).bind fun outcome =>
      agree_reportFailure node socket outcome
    refine (hcalls.evaluate i node (some socket)).bind fun outcome => ?_
    cases outcome with
    | error failure => exact agree_pure _
    | ok exposed => exact (agree_readStack _).bind fun _ => agree_pure _

theorem agree_updateNode (node : NodeId) (provider : Option Provider) :
    L.Agree n (scene.updateNode watch node provider) (scene.updateNode watch' node provider) := by
  have hcalls := agree_calls hlasting hcount hscripts (scene.limits.allowance + 1) n
  exact (Agree.between hlasting fun i => hcalls.evaluate i node none).bind fun outcome =>
    agree_reportFailure node "*" outcome

theorem agree_triggerSignal (socket : String) (source : Option SignalSource)
    (provider : Option Provider) : L.Agree n (scene.triggerSignal watch socket source provider)
      (scene.triggerSignal watch' socket source provider) := by
  have hcalls := agree_calls hlasting hcount hscripts (scene.limits.allowance + 1) n
  unfold Scene.triggerSignal
  cases source with
  | none => exact (agree_log _).bind fun _ => agree_pure _
  | some source => exact (agree_log _).bind fun _ => hcalls.propagate socket _ provider

end
end Likeness

namespace HostCall

variable {ω ω' α : Type} {watch : Watcher ω} {watch' : Watcher ω'}

/-- Two sessions with engines that are active in the same state. -/
structure InStep (s : Session ω) (t : Session ω') (tables : Tables) (st : EngineState) : Prop where
  registry : t.engine.registry = s.engine.registry
  limits : t.engine.limits = s.engine.limits
  active : s.engine.active = some (tables, st)
  active' : t.engine.active = some (tables, st)

variable {s : Session ω} {t : Session ω'} {tables : Tables} {st : EngineState}

theorem InStep.fst_whileActive (h : InStep s t tables st) (operation : String)
    (body : Scene → Action ω (Outcome α)) (body' : Scene → Action ω' (Outcome α))
    (hbody : (Likeness.sameState watch watch').Agree st.nesting (body (s.engine.scene tables))
      (body' (s.engine.scene tables))) :
    (Host.whileActive watch operation body s).1 = (Host.whileActive watch' operation body' t).1 := by
  have hscene : t.engine.scene tables = s.engine.scene tables := by
    rw [Engine.scene, Engine.scene, h.registry, h.limits]
  rw [Host.whileActive_apply, Host.whileActive_apply, h.active, h.active']
  dsimp only
  rw [hscene]
  exact (hbody ⟨st, s.counters, s.seen⟩ ⟨st, t.counters, t.seen⟩ rfl rfl).1

/-- Handlers that do not count make the answer to a call of the host a matter of the state alone. -/
theorem InStep.fst_perform (h : InStep s t tables st) (hcounts : s.engine.registry.Counts False)
    (call : HostCall) : (call.perform watch s).1 = (call.perform watch' t).1 := by
  have hactive : s.engine.isActive = true := by rw [Engine.isActive, h.active]; rfl
  have hactive' : t.engine.isActive = true := by rw [Engine.isActive, h.active']; rfl
  have hlasting := Likeness.lasting_sameState watch watch'
  cases call with
  | bind source =>
    change Answer.done (Host.bind source s).1 = .done (Host.bind source t).1
    rw [Host.bind_apply, Host.bind_apply, if_pos hactive, if_pos hactive']
  | activate files =>
    change Answer.done (Host.activate watch files s).1 = .done (Host.activate watch' files t).1
    obtain ⟨w, -, hrun⟩ := Host.activate_apply watch files s
    obtain ⟨w', -, hrun'⟩ := Host.activate_apply watch' files t
    rw [hrun, hrun', Host.activated, Host.activated, if_pos hactive, if_pos hactive']
  | terminate =>
    change Answer.done (Host.terminate watch s).1 = .done (Host.terminate watch' t).1
    rw [Host.terminate_apply, Host.terminate_apply, if_pos hactive, if_pos hactive', Engine.openFrames,
      Engine.openFrames, h.active, h.active']
  | beginCycle | endCycle => rfl
  | requestValue node socket provider =>
    exact congrArg Answer.value (h.fst_whileActive "request a value"
      (·.requestValue watch node socket provider) (·.requestValue watch' node socket provider)
      (Likeness.agree_requestValue hlasting False.elim hcounts node socket provider))
  | updateNode node provider =>
    exact congrArg Answer.exposed (h.fst_whileActive "update a node"
      (·.updateNode watch node provider) (·.updateNode watch' node provider)
      (Likeness.agree_updateNode hlasting False.elim hcounts node provider))
  | triggerSignal socket source provider =>
    exact congrArg Answer.result (h.fst_whileActive "trigger a signal"
      (fun scene => scene.triggerSignal watch socket source provider >>= fun result =>
        pure (.ok result))
      (fun scene => scene.triggerSignal watch' socket source provider >>= fun result =>
        pure (.ok result))
      ((Likeness.agree_triggerSignal hlasting False.elim hcounts socket source provider).bind
        fun _ => Likeness.agree_pure _))

end HostCall

theorem FrameStack.eq_empty {s : FrameStack} (h : s.height = 0) : s = .empty :=
  congrArg FrameStack.mk (List.eq_nil_of_length_eq_zero h)

/-- A state between the calls of the host in which no frame is open is a fresh one, apart from what is
remembered forever. -/
theorem EngineState.Resting.eq_fresh {st : EngineState} (h : st.Resting)
    (hheight : st.stack.height = 0) : st = { EngineState.fresh with forever := st.forever } := by
  obtain ⟨stack, forever, nesting⟩ := st
  obtain rfl : nesting = 0 := h.nesting
  obtain rfl : stack = .empty := FrameStack.eq_empty hheight
  rfl

/-- A session with an engine of the same making that has just been activated with some tables. -/
def Session.Activated {ω ω' : Type} (t : Session ω') (s : Session ω) (tables : Tables) : Prop :=
  t.engine.registry = s.engine.registry ∧ t.engine.limits = s.engine.limits ∧
    t.engine.active = some (tables, .fresh)

/-- An active engine starts with a fresh state. -/
theorem Host.active_of_activate {ω : Type} {watch : Watcher ω} {files : Files} {s : Session ω}
    (h : (Host.activate watch files s).1 = .ok ()) :
    ∃ tables, (Host.activate watch files s).2.engine.active = some (tables, .fresh) := by
  obtain ⟨w, -, hrun⟩ := Host.activate_apply watch files s
  rw [hrun] at h ⊢
  cases hactivated : Host.activated files s.engine with
  | error failure =>
    rw [hactivated] at h
    exact nomatch h
  | ok e =>
    obtain ⟨tables, rfl⟩ := Host.eq_of_activated hactivated
    exact ⟨tables, rfl⟩

/-- After an activation, whatever the host calls for: what is remembered are the marks forever that have
been made, which only become more until the engine is terminated and are gone after the next activation.
Whenever no frame is open the state is a fresh one apart from them; so without such marks, and with
handlers that do not count, every call is answered as if it were the first one. -/
theorem contexts_fresh (s : Session History) (tables : Tables)
    (hfresh : s.engine.active = some (tables, .fresh)) (calls : List HostCall)
    (hcalls : ∀ call ∈ calls, call ≠ .terminate) :
    let s' := (HostCall.performAll .history calls s).2
    ∃ new st, s'.seen.moments = new ++ s.seen.moments ∧ s'.engine.active = some (tables, st) ∧
      st.forever = Marks.empty.addAll (new.reverse.filterMap Moment.eternal?) ∧
      (s'.engine.openFrames = 0 → st = { EngineState.fresh with forever := st.forever }) ∧
      ((∀ m ∈ new, m.eternal? = none) → s'.engine.openFrames = 0 → st = .fresh ∧
        (s.engine.registry.Counts False → ∀ {ω : Type} (watch : Watcher ω) (t : Session ω),
          t.Activated s tables → ∀ call : HostCall,
            (call.perform .history s').1 = (call.perform watch t).1)) ∧
      (∀ more : List HostCall, (∀ call ∈ more, call ≠ .terminate) → ∃ st',
        (HostCall.performAll .history more s').2.engine.active = some (tables, st') ∧
          st.forever.Within st'.forever) ∧
      ∀ files, let t := (Host.terminate .history s').2
        (Host.activate .history files t).1 = .ok () →
          ∃ tables', (Host.activate .history files t).2.engine.active = some (tables', .fresh) := by
  intro s'
  obtain ⟨ms, st, h⟩ := HostCall.remembers_performAll hfresh calls hcalls
  have hholds : (HostInvariant.always s.engine.registry s.engine.limits .history).Holds s := by
    refine ⟨rfl, rfl, trivial, fun hactive => ?_⟩
    obtain ⟨rfl, rfl⟩ := Prod.mk.inj (Option.some.inj (hfresh.symm.trans hactive))
    exact ⟨trivial, .empty, rfl⟩
  have hresting : st.Resting := ((hholds.performAll calls).active h.active).2
  have hrest (hframes : s'.engine.openFrames = 0) :
      st = { EngineState.fresh with forever := st.forever } := by
    rw [Engine.openFrames, h.active] at hframes
    exact hresting.eq_fresh hframes
  refine ⟨ms.reverse, st, h.moments, h.active, ?_, hrest, fun hnone hframes => ?_, ?_, ?_⟩
  · rw [List.reverse_reverse]
    exact h.forever
  · have hsilent : ms.filterMap Moment.eternal? = [] :=
      List.filterMap_eq_nil_iff.2 fun m hm => hnone m (List.mem_reverse.2 hm)
    have hst : st = .fresh := by
      rw [hrest hframes, h.forever, hsilent]
      rfl
    refine ⟨hst, fun hcounts ω watch t ht call => ?_⟩
    -- both sessions are in the same state now, and only their counters and histories differ
    have hinStep : HostCall.InStep s' t tables .fresh :=
      ⟨ht.1.trans h.registry.symm, ht.2.1.trans h.limits.symm, hst ▸ h.active, ht.2.2⟩
    exact hinStep.fst_perform (h.registry ▸ hcounts) call
  · intro more hmore
    obtain ⟨ms', st', h'⟩ := HostCall.remembers_performAll h.active more hmore
    exact ⟨st', h'.active, h'.forever ▸ Marks.within_addAll _ _⟩
  · exact fun files hactivated => Host.active_of_activate hactivated

/-- A component that marks its nodes for as long as the outermost frame is open. -/
def rootedComponent : Component :=
  ⟨"once", [], some fun _ => .push "v" (.int 1) (.mark .both .root .succeed), none⟩

def rootedTables : Tables :=
  ⟨⟨Table.empty.insert (socketKey "n" "v") ⟨"n", "v", "Any", "once"⟩, .empty⟩,
    ⟨Table.empty.insert "n" ⟨"once", .empty⟩, .empty, .empty⟩⟩

def rootedSession : Session History :=
  ⟨⟨.ofComponents [rootedComponent], ⟨20, 20⟩, none, some (rootedTables, .fresh)⟩, .empty, [], []⟩

/-- A bracket in which a node is marked, and a request that fails after it. -/
def rootedCalls : List HostCall :=
  [.beginCycle, .requestValue "n" "v" none, .endCycle, .requestValue "n" "w" none]

theorem counts_rootedComponent : (Registry.ofComponents [rootedComponent]).Counts False := by
  intro name c hc
  obtain rfl := List.eq_of_mem_singleton (Registry.mem_of_get?_ofComponents hc)
  refine ⟨?_, nofun⟩
  rintro handler ⟨⟩ a
  trivial

/-- The mark is gone with the bracket, and all calls are answered as right after the activation. -/
theorem contexts_fresh_rooted :
    let s' := (HostCall.performAll .history rootedCalls rootedSession).2
    s'.engine.active = some (rootedTables, .fresh) ∧
      ∀ call : HostCall, (call.perform .history s').1 = (call.perform .history rootedSession).1 := by
  have hnone : (HostCall.performAll .history rootedCalls rootedSession).2.seen.moments.all
      (fun m => m.eternal?.isNone) = true := by decide +kernel
  have hframes : (HostCall.performAll .history rootedCalls rootedSession).2.engine.openFrames = 0 := by
    decide +kernel
  have h := contexts_fresh rootedSession rootedTables rfl rootedCalls (by simp [rootedCalls])
  generalize (HostCall.performAll .history rootedCalls rootedSession).2 = s' at hnone hframes h ⊢
  obtain ⟨new, st, hmoments, hactive, -, -, hfresh, -⟩ := h
  have hnew : ∀ m ∈ new, m.eternal? = none := fun m hm =>
    Option.isNone_iff_eq_none.1
      (List.all_eq_true.1 hnone m (hmoments ▸ List.mem_append_left _ hm))
  obtain ⟨rfl, hanswers⟩ := hfresh hnew hframes
  exact ⟨hactive, hanswers counts_rootedComponent .history rootedSession ⟨rfl, rfl, rfl⟩⟩

end SocketGraph
