import SocketGraph.Action
import SocketGraph.Proofs.Transition

/-! From stage to stage: rules by which an action is known to keep an invariant while it leads from
some handlers at work and some shape of the stack to others. -/
namespace SocketGraph

/-- What is known of a run between two of its actions: the handlers at work, a stack of the shape that
the frames have, and how deep the handlers are nested. -/
structure Stage where
  calls : CallStack
  stack : FrameStack
  nesting : Nat

namespace Invariant

variable {ω α β : Type} {scene : Scene} {watch : Watcher ω} (I : Invariant scene watch)

/-- A run is at a stage and has kept the invariant so far. -/
structure Holds (g : Stage) (r : Run ω) : Prop where
  shape : r.state.stack.shape = g.stack.shape
  nesting : r.state.nesting = g.nesting
  kept : I.kept g.calls r.state r.seen

/-- An action leads from one stage to another and keeps the invariant. -/
def Leads (g : Stage) (x : Action ω α) (g' : Stage) : Prop :=
  ∀ r, I.Holds g r → I.Holds g' (x r).2

variable {I} {g g' g'' : Stage}

theorem leads_pure (g : Stage) (a : α) : I.Leads g (pure a) g := fun _ h => h

theorem Leads.bind {x : Action ω α} {f : α → Action ω β} (hx : I.Leads g x g')
    (hf : ∀ a, I.Leads g' (f a) g'') : I.Leads g (x >>= f) g'' :=
  fun r h => hf _ _ (hx r h)

theorem leads_readStack (g : Stage) (read : FrameStack → α) :
    I.Leads g (Action.readStack read) g := fun _ h => h

/-- What a read finds may be used if it is known for every stack of the shape. -/
theorem Leads.readStack_bind {read : FrameStack → α} {f : α → Action ω β} (a : α)
    (hread : ∀ s, s.shape = g.stack.shape → read s = a) (hf : I.Leads g (f a) g') :
    I.Leads g (Action.readStack read >>= f) g' := by
  intro r h
  change I.Holds g' (f (read r.state.stack) r).2
  rw [hread _ h.shape]
  exact hf r h

/-- A state that is read has the shape and the nesting that are known. -/
theorem Leads.state_bind {f : EngineState → Action ω β}
    (hf : ∀ st, st.stack.shape = g.stack.shape → st.nesting = g.nesting → I.Leads g (f st) g') :
    I.Leads g (Action.state >>= f) g' :=
  fun r h => hf r.state h.shape h.nesting r h

theorem leads_emit (g : Stage) (e : Event) : I.Leads g (Action.emit watch e) g :=
  fun _ h => ⟨h.shape, h.nesting, I.event e h.kept⟩

theorem leads_log (g : Stage) (m : Message) : I.Leads g (Action.log watch m) g :=
  leads_emit g _

theorem leads_count (g : Stage) (name : String) : I.Leads g (Action.count name) g :=
  fun _ h => ⟨h.shape, h.nesting, h.kept⟩

theorem leads_note {s : Step} (hs : Admissible scene I.pairs g.stack g.nesting g.calls s) :
    I.Leads g (Action.note watch s) ⟨g.calls.after g.stack.height s, g.stack, g.nesting⟩ := by
  intro r h
  have hs' := hs.congr h.shape.symm
  rw [← h.nesting] at hs'
  rw [← FrameStack.height_congr h.shape]
  exact ⟨h.shape, h.nesting, I.step hs' h.kept⟩

theorem leads_changeState {change : EngineState → EngineState} {s : FrameStack} {n : Nat}
    (hchange : ∀ st, st.stack.shape = g.stack.shape →
      Transition scene I.pairs g.calls st (change st) ∧ (change st).stack.shape = s.shape)
    (hnesting : ∀ st, st.nesting = g.nesting → (change st).nesting = n) :
    I.Leads g (Action.changeState watch change) ⟨g.calls, s, n⟩ := by
  intro r h
  obtain ⟨hstep, hshape⟩ := hchange r.state h.shape
  exact ⟨hshape, hnesting _ h.nesting, I.transition hstep h.kept⟩

theorem leads_changeStack {change : FrameStack → FrameStack} {s : FrameStack}
    (hchange : ∀ st, st.stack.shape = g.stack.shape →
      Transition scene I.pairs g.calls st { st with stack := change st.stack } ∧
        (change st.stack).shape = s.shape) :
    I.Leads g (Action.changeStack watch change) ⟨g.calls, s, g.nesting⟩ :=
  leads_changeState hchange fun _ h => h

theorem leads_deeper (g : Stage) :
    I.Leads g (Action.changeState watch .deeper) ⟨g.calls, g.stack, g.nesting + 1⟩ :=
  leads_changeState (fun _ hst => ⟨.deeper, hst⟩) fun _ h => congrArg (· + 1) h

theorem leads_shallower (g : Stage) :
    I.Leads ⟨g.calls, g.stack, g.nesting + 1⟩ (Action.changeState watch .shallower) g :=
  leads_changeState (fun _ hst => ⟨.shallower, hst⟩) fun _ h => congrArg (· - 1) h

/-- Something that is done one nesting deeper comes back to the nesting that it was started in. -/
theorem leads_nested {x : Action ω α}
    (hx : I.Leads ⟨g.calls, g.stack, g.nesting + 1⟩ x ⟨g.calls, g.stack, g.nesting + 1⟩) :
    I.Leads g (Action.nested watch x) g :=
  (leads_deeper g).bind fun _ => hx.bind fun result =>
    (leads_shallower g).bind fun _ => leads_pure _ result

theorem leads_push {calls : CallStack} {s : FrameStack} {n : Nat} (permeable : Bool)
    (provider : Option FrameProvider)
    (bound : ∀ b, provider = some (.gateway b) → permeable = false ∧ b.caller < s.height) :
    I.Leads ⟨calls, s, n⟩ (Action.changeStack watch (·.push (.fresh permeable provider)))
      ⟨calls, s.push (.fresh permeable provider), n⟩ := by
  refine leads_changeStack fun st hst => ⟨.push permeable provider ?_, ?_⟩
  · rwa [FrameStack.height_congr hst]
  · exact FrameStack.shape_push_congr hst rfl

theorem leads_pop {calls : CallStack} {s : FrameStack} {n : Nat} (f : Frame) :
    I.Leads ⟨calls, s.push f, n⟩ (Action.changeStack watch FrameStack.pop) ⟨calls, s, n⟩ := by
  refine leads_changeStack fun st hst => ⟨.pop, ?_⟩
  have hpop := FrameStack.shape_pop_congr hst
  rwa [FrameStack.pop_push] at hpop

/-- A scope is left as it was found if its body leaves the inner frame as it was found. -/
theorem leads_between {calls : CallStack} {s : FrameStack} {n : Nat} {outer inner : Frame}
    {body : Nat → Action ω α} (permeable permeable' : Bool) (provider provider' : Option FrameProvider)
    (houter : outer = .fresh permeable provider) (hinner : inner = .fresh permeable' provider')
    (bound : ∀ b, provider = some (.gateway b) → permeable = false ∧ b.caller < s.height)
    (bound' : ∀ b, provider' ≠ some (.gateway b))
    (hbody : I.Leads ⟨calls, (s.push outer).push inner, n⟩ (body (s.height + 1))
      ⟨calls, (s.push outer).push inner, n⟩) :
    I.Leads ⟨calls, s, n⟩ (Action.between watch outer inner body) ⟨calls, s, n⟩ := by
  subst houter hinner
  refine (leads_push permeable provider bound).bind fun _ => ?_
  refine (leads_push permeable' provider' fun b hb => absurd hb (bound' b)).bind fun _ => ?_
  refine Leads.readStack_bind (s.height + 1) ?_ ?_
  · intro t ht
    rw [FrameStack.top, FrameStack.height_congr ht]
    simp
  · refine hbody.bind fun result => ?_
    exact (leads_pop _).bind fun _ => (leads_pop _).bind fun _ => leads_pure _ result

end Invariant
end SocketGraph
