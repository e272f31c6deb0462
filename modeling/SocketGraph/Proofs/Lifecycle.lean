import SocketGraph.Proofs.HostInvariant

/-! The lifecycle of an engine: what the calls of a host do to the source, to the activation and to the
open frames, and what they answer. -/
namespace SocketGraph

/-- What a host knows about an engine: the bound source, whether the engine is active, and how many
brackets are open. -/
structure Lifecycle where
  source : Option DataSource
  active : Bool
  depth : Nat

/-- What an engine shows of its lifecycle. -/
def Engine.lifecycle (e : Engine) : Lifecycle := ⟨e.source, e.isActive, e.openFrames⟩

namespace Lifecycle

def start : Lifecycle := ⟨none, false, 0⟩

/-- What an activation answers. -/
def activation (l : Lifecycle) (files : Files) : Outcome Unit :=
  if l.active then .error .alreadyActive
  else
    match l.source with
    | none => .error .nothingBound
    | some source => (source.tables files).map fun _ => ()

/-- The lifecycle after a call. -/
def next (l : Lifecycle) : HostCall → Lifecycle
  | .bind source => if l.active then l else { l with source := some source }
  | .activate files =>
    match l.activation files with
    | .error _ => l
    | .ok () => { l with active := true, depth := 0 }
  | .terminate => { l with active := false, depth := 0 }
  | .beginCycle => if l.active then { l with depth := l.depth + 1 } else l
  | .endCycle => if l.active then { l with depth := l.depth - 1 } else l
  | .requestValue _ _ _ | .updateNode _ _ | .triggerSignal _ _ _ => l

/-- What a call may answer. A request, an update or a trigger of an active engine may have any result,
and a trigger always has one. -/
def Admits (l : Lifecycle) : HostCall → Answer → Prop
  | .bind _, answer => answer = .done (if l.active then .error .alreadyActive else .ok ())
  | .activate files, answer => answer = .done (l.activation files)
  | .terminate, answer =>
    answer = .done (if 0 < l.depth then .error (.openFrames l.depth) else .ok ())
  | .beginCycle, answer | .endCycle, answer => answer = .none
  | .requestValue _ _ _, answer =>
    if l.active then ∃ outcome, answer = .value outcome
    else answer = .value (.error (.notActive "request a value"))
  | .updateNode _ _, answer =>
    if l.active then ∃ outcome, answer = .exposed outcome
    else answer = .exposed (.error (.notActive "update a node"))
  | .triggerSignal _ _ _, answer =>
    if l.active then ∃ result, answer = .result (.ok result)
    else answer = .result (.error (.notActive "trigger a signal"))

/-- The answers to some calls, one after another. -/
def AdmitsAll (l : Lifecycle) : List HostCall → List Answer → Prop
  | [], answers => answers = []
  | call :: calls, answers =>
    ∃ first rest, answers = first :: rest ∧ l.Admits call first ∧ (l.next call).AdmitsAll calls rest

end Lifecycle

/-- The invariant of all sessions. -/
def HostInvariant.always {ω : Type} (registry : Registry) (limits : Limits) (watch : Watcher ω) :
    HostInvariant registry limits watch where
  seen _ := True
  of _ :=
    { pairs := fun _ _ => True
      kept := fun _ _ _ => True
      links := fun _ => .unconditional _ _
      transition := fun _ _ => trivial
      event := fun _ _ => trivial
      step := fun _ _ => trivial }
  event _ _ := trivial
  fresh _ := trivial
  seen_of_kept _ := trivial

namespace Engine

variable {e e' : Engine}

theorem lifecycle_eq (hsource : e'.source = e.source) (hactive : e'.isActive = e.isActive)
    (hframes : e'.openFrames = e.openFrames) : e'.lifecycle = e.lifecycle := by
  rw [lifecycle, lifecycle, hsource, hactive, hframes]

theorem lifecycle_of_active {tables : Tables} {st : EngineState}
    (h : e.active = some (tables, st)) : e.lifecycle = ⟨e.source, true, st.stack.height⟩ := by
  rw [lifecycle, isActive, openFrames, h]
  rfl

theorem lifecycle_of_inactive (h : e.active = none) : e.lifecycle = ⟨e.source, false, 0⟩ := by
  rw [lifecycle, isActive, openFrames, h]
  rfl

end Engine

namespace Host

variable {ω α : Type} {watch : Watcher ω} {s : Session ω}

/-- An activation answers as the lifecycle tells, and nothing is open after it. -/
theorem activation_lifecycle (files : Files) (e : Engine) :
    e.lifecycle.activation files = (activated files e).map fun _ => () := by
  obtain ⟨registry, limits, source, active⟩ := e
  cases active with
  | some running => rfl
  | none =>
    cases source with
    | none => rfl
    | some source =>
      simp only [activated, Engine.isActive, Lifecycle.activation, Engine.lifecycle]
      cases source.tables files <;> rfl

theorem lifecycle_of_activated {files : Files} {e e' : Engine} (h : activated files e = .ok e') :
    e'.lifecycle = { e.lifecycle with active := true, depth := 0 } := by
  obtain ⟨tables, rfl⟩ := eq_of_activated h
  rfl

theorem lifecycle_whileActive (operation : String) (body : Scene → Action ω (Outcome α))
    (hframes : (whileActive watch operation body s).2.engine.openFrames = s.engine.openFrames) :
    (whileActive watch operation body s).2.engine.lifecycle = s.engine.lifecycle := by
  refine Engine.lifecycle_eq ?_ ?_ hframes
  · rw [whileActive_apply]
    split <;> rfl
  · rw [whileActive_apply]
    split
    · rfl
    · rename_i hactive
      exact (congrArg Option.isSome hactive).symm

/-- An engine that is not active refuses to work. -/
theorem fst_whileActive (watch : Watcher ω) (s : Session ω) (answer : Outcome α → Answer)
    (operation : String) (body : Scene → Action ω (Outcome α)) :
    if s.engine.lifecycle.active then
      ∃ outcome, answer (whileActive watch operation body s).1 = answer outcome
    else answer (whileActive watch operation body s).1 = answer (.error (.notActive operation)) := by
  cases hactive : s.engine.active with
  | none =>
    rw [Engine.lifecycle_of_inactive hactive, whileActive_apply, hactive]
    rfl
  | some running =>
    rw [Engine.lifecycle_of_active hactive]
    exact ⟨_, rfl⟩

theorem lifecycle_changeState (operation : String) (change : EngineState → EngineState)
    (step : Nat → Nat)
    (hframes : (changeState watch operation change s).2.engine.openFrames =
      s.engine.active.elim 0 fun a => step a.2.stack.height) :
    (changeState watch operation change s).2.engine.lifecycle = if s.engine.lifecycle.active then
      { s.engine.lifecycle with depth := step s.engine.lifecycle.depth } else s.engine.lifecycle := by
  rw [changeState_apply] at hframes ⊢
  match hactive : s.engine.active with
  | none =>
    rw [Engine.lifecycle_of_inactive hactive]
    rfl
  | some (tables, st) =>
    simp only [hactive, Option.elim_some] at hframes
    rw [Engine.lifecycle_of_active hactive]
    exact congrArg (Lifecycle.mk s.engine.source true) hframes

end Host

namespace HostCall

variable {ω : Type} {registry : Registry} {limits : Limits} {watch : Watcher ω}
  {J : HostInvariant registry limits watch} {s : Session ω}

/-- One call is one step of the lifecycle. -/
theorem perform_follows (h : J.Holds s) (call : HostCall) :
    s.engine.lifecycle.Admits call (call.perform watch s).1 ∧
      (call.perform watch s).2.engine.lifecycle = s.engine.lifecycle.next call := by
  cases call with
  | bind source =>
    change s.engine.lifecycle.Admits _ (.done (Host.bind source s).1) ∧
      (Host.bind source s).2.engine.lifecycle = _
    rw [Host.bind_apply]
    have hopen : s.engine.lifecycle.active = s.engine.isActive := rfl
    rw [Lifecycle.Admits, Lifecycle.next, hopen]
    split_ifs <;> exact ⟨rfl, rfl⟩
  | activate files =>
    obtain ⟨w, -, hrun⟩ := Host.activate_apply watch files s
    change s.engine.lifecycle.Admits _ (.done (Host.activate watch files s).1) ∧
      (Host.activate watch files s).2.engine.lifecycle = _
    rw [hrun, Lifecycle.Admits, Lifecycle.next, Host.activation_lifecycle]
    cases hactivated : Host.activated files s.engine with
    | error failure => exact ⟨rfl, rfl⟩
    | ok e => exact ⟨rfl, Host.lifecycle_of_activated hactivated⟩
  | terminate =>
    change s.engine.lifecycle.Admits _ (.done (Host.terminate watch s).1) ∧
      (Host.terminate watch s).2.engine.lifecycle = _
    rw [Host.terminate_apply]
    cases hactive : s.engine.active with
    | none =>
      rw [Engine.lifecycle_of_inactive hactive, if_neg (by simp [Engine.isActive, hactive])]
      exact ⟨rfl, Engine.lifecycle_of_inactive hactive⟩
    | some running =>
      rw [if_pos (by simp [Engine.isActive, hactive])]
      exact ⟨rfl, rfl⟩
  | beginCycle =>
    have hframes := h.beginCycle.2
    simp only [FrameStack.height_push] at hframes
    exact ⟨rfl, Host.lifecycle_changeState _ _ (· + 1) hframes⟩
  | endCycle =>
    have hframes := h.endCycle.2
    simp only [FrameStack.height_pop] at hframes
    exact ⟨rfl, Host.lifecycle_changeState _ _ (· - 1) hframes⟩
  | requestValue node socket provider =>
    have hadmits := Host.fst_whileActive watch s .value "request a value"
      (·.requestValue watch node socket provider)
    exact ⟨hadmits, Host.lifecycle_whileActive _ _ (h.requestValue node socket provider).2⟩
  | updateNode node provider =>
    have hadmits := Host.fst_whileActive watch s .exposed "update a node"
      (·.updateNode watch node provider)
    exact ⟨hadmits, Host.lifecycle_whileActive _ _ (h.updateNode node provider).2⟩
  | triggerSignal socket source provider =>
    refine ⟨?_, Host.lifecycle_whileActive _ _ (h.triggerSignal socket source provider).2⟩
    cases hactive : s.engine.active with
    | none =>
      rw [Engine.lifecycle_of_inactive hactive]
      change Answer.result (Host.triggerSignal watch socket source provider s).1 = _
      rw [Host.triggerSignal, Host.whileActive_apply, hactive]
    | some running =>
      rw [Engine.lifecycle_of_active hactive]
      have hresult : ∃ result,
          (Host.triggerSignal watch socket source provider s).1 = .ok result := by
        rw [Host.triggerSignal, Host.whileActive_apply, hactive]
        exact ⟨_, rfl⟩
      exact hresult.imp fun _ => congrArg Answer.result

theorem performAll_follows (h : J.Holds s) (calls : List HostCall) :
    s.engine.lifecycle.AdmitsAll calls (performAll watch calls s).1 ∧
      (performAll watch calls s).2.engine.lifecycle = calls.foldl .next s.engine.lifecycle := by
  induction calls generalizing s with
  | nil => exact ⟨rfl, rfl⟩
  | cons call rest ih =>
    obtain ⟨hanswer, hnext⟩ := perform_follows h call
    obtain ⟨hanswers, hlast⟩ := ih (h.perform call)
    rw [hnext] at hanswers hlast
    exact ⟨⟨_, _, rfl, hanswer, hanswers⟩, hlast⟩

end HostCall

/-- Whatever the tables, the components, the limits and the providers, the answers of an engine and
what it shows are those of its lifecycle, and between the calls of its host no handler is at work: the
frames that are left were opened by brackets, and no nesting is left. -/
theorem engine_refines_lifecycle {ω : Type} (watch : Watcher ω) (registry : Registry)
    (limits : Limits) (seen : ω) (calls : List HostCall) :
    let run := HostCall.performAll watch calls (Session.start registry limits seen)
    Lifecycle.start.AdmitsAll calls run.1 ∧
      run.2.engine.lifecycle = calls.foldl .next .start ∧
      run.2.engine.registry = registry ∧ run.2.engine.limits = limits ∧
      ∀ tables st, run.2.engine.active = some (tables, st) → st.Resting := by
  have h : (HostInvariant.always registry limits watch).Holds (.start registry limits seen) :=
    .start trivial
  obtain ⟨hanswers, hlast⟩ := HostCall.performAll_follows h calls
  have hrun := h.performAll calls
  exact ⟨hanswers, hlast, hrun.registry, hrun.limits, fun _ _ hactive => (hrun.active hactive).2⟩

end SocketGraph
