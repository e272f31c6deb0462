import SocketGraph.Proofs.Agreement
import SocketGraph.Proofs.Ownership
import SocketGraph.Proofs.Propagations

/-! Lookups through gateways. Each gateway that is asked leads to a frame further below, so a lookup
never uses up its steps, however the gateways are paired with each other. -/
namespace SocketGraph

section
variable {ω : Type} (scene : Scene) (watch : Watcher ω) (below : Calls ω)

/-- A lookup in which another one is made once the steps are used up. -/
def lookupOver (bottom : Lookup ω) : Nat → Lookup ω
  | 0 => bottom
  | steps + 1 => fun frame socket => do
    match ← Action.readStack (·.provider? frame) with
    | none => pure (.ok none)
    | some (.host provider) =>
      let answer ← askHost watch provider socket
      pure (.ok answer)
    | some (.gateway binding) =>
      match binding.pairings.socketFor? socket with
      | some own =>
        Action.note watch (.paired frame binding socket own)
        fetchWith scene watch below (lookupOver bottom steps) binding.caller own
      | none => lookupOver bottom steps binding.caller socket

theorem lookupWithin_eq_lookupOver (steps : Nat) : lookupWithin scene watch below steps =
    lookupOver scene watch below (fun _ _ => pure (.ok none)) steps := by
  induction steps with
  | zero => rfl
  | succ steps ih =>
    funext i socket
    rw [lookupWithin, ih]
    rfl

end

/-- Whoever answers for a frame leads to a frame below. -/
theorem FrameStack.Bound.caller_lt {s : FrameStack} (h : s.Bound) {i : Nat} {b : Binding}
    (hb : s.provider? i = some (.gateway b)) : b.caller < i := by
  obtain ⟨j, hj, f, hf, hprovider⟩ := FrameStack.exists_of_readThrough hb
  exact Nat.lt_of_lt_of_le (h j f b hf hprovider).1 (FrameStack.le_of_mem_lineage hj)

theorem FrameStack.Bound.congr {s t : FrameStack} (hst : s.shape = t.shape) (h : s.Bound) : t.Bound := by
  refine h.of_frames fun i f hf => ?_
  have hi := FrameStack.shape_eq_iff.1 hst i
  rw [hf] at hi
  obtain ⟨g, hg, hshape⟩ := Option.map_eq_some_iff.1 hi
  exact ⟨g, hg, congrArg Frame.Shape.provider hshape, congrArg Frame.Shape.permeable hshape⟩

/-- An evaluation leaves the frames as it has found them, apart from their contents, whoever watches. -/
theorem Scene.shape_evaluate {ω : Type} (scene : Scene) (watch : Watcher ω) (levels i : Nat)
    (node : NodeId) (requested : Option String) (r : Run ω) :
    let run := (scene.calls watch levels).evaluate i node requested r
    run.2.state.stack.shape = r.state.stack.shape ∧ run.2.state.nesting = r.state.nesting := by
  -- a run with the same state under the watcher that keeps every moment
  let r' : Run History := ⟨r.state, r.counters, [], []⟩
  obtain ⟨-, ⟨hstate, -⟩, -⟩ := (Likeness.agree_calls (Likeness.lasting_unwatched watch .history)
    (fun _ => Likeness.counting_unwatched watch .history) (scene.registry.counts_of_allowed trivial)
    levels r.state.nesting).evaluate i node requested r r' ⟨rfl, rfl⟩ rfl
  obtain ⟨ms, -, hcourse⟩ := ((scene.tracked_calls levels).evaluate [] i node requested).asked r' rfl
  exact ⟨(congrArg (·.stack.shape) hstate).trans (hcourse.shape rfl),
    (congrArg EngineState.nesting hstate).trans hcourse.nesting⟩

namespace Likeness

variable {ω : Type} {scene : Scene} {watch : Watcher ω}

/-- A run with a stack on which every binding leads to a frame below is like itself. -/
def bound (watch : Watcher ω) : Likeness watch watch where
  like r r' := r = r' ∧ r.state.stack.Bound
  state h := congrArg Run.state h.1
  emit e h := ⟨congrArg (fun r => (Action.emit watch e r).2) h.1, h.2⟩
  note s h := ⟨congrArg (fun r => (Action.note watch s r).2) h.1, h.2⟩
  keep i socket v h :=
    ⟨congrArg (fun r => (Action.changeStack watch (·.putInput i socket v) r).2) h.1,
      h.2.writeThrough i (fun _ => rfl) fun _ => rfl⟩

variable (scene watch) in
theorem agree_evaluate (levels n i : Nat) (node : NodeId) (requested : Option String) :
    (bound watch).Agree n ((scene.calls watch levels).evaluate i node requested)
      ((scene.calls watch levels).evaluate i node requested) := by
  rintro r _ ⟨rfl, hbound⟩ hn
  obtain ⟨hshape, hnesting⟩ := scene.shape_evaluate watch levels i node requested r
  exact ⟨rfl, ⟨rfl, hbound.congr hshape.symm⟩, hnesting.trans hn⟩

variable (scene) in
/-- Lookups agree as soon as they have a step for every frame below, whatever is done when the steps are
used up. -/
theorem agree_lookupOver {below : Calls ω} {n : Nat} (hbelow : ∀ i node requested,
      (bound watch).Agree n (below.evaluate i node requested) (below.evaluate i node requested))
    (bottom bottom' : Lookup ω) (steps steps' i : Nat) (h : i < steps) (h' : i < steps')
    (socket : Link) : (bound watch).Agree n (lookupOver scene watch below bottom steps i socket)
      (lookupOver scene watch below bottom' steps' i socket) := by
  induction steps generalizing steps' i socket with
  | zero => exact absurd h (Nat.not_lt_zero _)
  | succ steps ih =>
    cases steps' with
    | zero => exact absurd h' (Nat.not_lt_zero _)
    | succ steps' =>
      refine Agree.readStack_bind (P := fun p => ∀ b, p = some (.gateway b) → b.caller < i)
        (fun r _ hlike b hb => hlike.2.caller_lt hb) fun p hp => ?_
      match p with
      | none => exact agree_pure _
      | some (.host provider) => exact (agree_askHost provider socket).bind fun _ => agree_pure _
      | some (.gateway b) =>
        -- the gateway leads to a frame below, so the steps that are left are enough for it
        have hlower : b.caller < i := hp b rfl
        have hnext (socket : Link) := ih steps' b.caller (by omega) (by omega) socket
        dsimp only
        split
        · exact (agree_note _).bind fun _ => agree_fetchWith (hbelow _) hnext _
        · exact hnext socket

end Likeness

/-- A lookup has steps enough: with more of them, and whatever is done in the end, it is the same. -/
theorem Scene.lookups_descend {ω : Type} (scene : Scene) (watch : Watcher ω) (levels : Nat)
    (bottom : Lookup ω) {r : Run ω} (hbound : r.state.stack.Bound) {steps i : Nat} (h : i < steps)
    (socket : Link) : lookupOver scene watch (scene.calls watch levels) bottom steps i socket r =
      provide scene watch (scene.calls watch levels) i socket r := by
  rw [provide, lookupWithin_eq_lookupOver]
  have hagree := Likeness.agree_lookupOver scene
    (Likeness.agree_evaluate scene watch levels r.state.nesting) bottom (fun _ _ => pure (.ok none))
    steps (i + 1) i h (Nat.lt_succ_self i) socket
  obtain ⟨hanswer, ⟨hrun, -⟩, -⟩ := hagree r r ⟨rfl, hbound⟩ rfl
  exact Prod.ext hanswer hrun

/-- In every session all bindings lead to frames below. -/
def Law.bound (registry : Registry) : Law registry where
  pairs _ _ := True
  state st := st.stack.Bound
  moment m := m.state.stack.Bound
  links _ := .unconditional _ _
  fresh := FrameStack.bound_empty
  transition ht hst := ht.bound hst
  changed hst := hst
  step hst _ := hst

end SocketGraph
