import SocketGraph.Proofs.Ready

/-! What a run does to the state of an active engine, change by change, and in which circumstances
each of its steps is taken. -/
namespace SocketGraph

/-- The changes of a state while some handlers are at work. Only frames that handlers may run on are
changed, contents only on behalf of the node that is active innermost; frames are pushed without
contents, and one that is bound to a gateway is pushed above the frame of the gateway and lets nothing
through. -/
inductive Transition (scene : Scene) (pairs : Activation → Pairings → Prop) (calls : CallStack)
    (st : EngineState) : EngineState → Prop
  | enter {i : Nat} {a : Activation} {c : Component} (ready : st.stack.Ready pairs calls i)
      (made : scene.Instance c a) :
      Transition scene pairs calls st { st with stack := st.stack.enter i a }
  | leave {i : Nat} (ready : st.stack.Ready pairs calls i) :
      Transition scene pairs calls st { st with stack := st.stack.leave i }
  | forward {i : Nat} (socket : String) (ready : st.stack.Ready pairs calls i) :
      Transition scene pairs calls st { st with stack := st.stack.forward i socket }
  | putInput {i : Nat} {a : Activation} (socket : String) (v : Value)
      (ready : st.stack.Ready pairs calls i) (active : st.stack.active? i = some a) :
      Transition scene pairs calls st
        { st with stack := st.stack.putInput i ⟨a.node, socket⟩ v }
  | putOutput {i : Nat} {a : Activation} (socket : String) (v : Value)
      (ready : st.stack.Ready pairs calls i) (active : st.stack.active? i = some a) :
      Transition scene pairs calls st
        { st with stack := st.stack.putOutput i ⟨a.node, socket⟩ v }
  | putExposed {i : Nat} {a : Activation} (socket : String) (v : Value)
      (ready : st.stack.Ready pairs calls i) (active : st.stack.active? i = some a) :
      Transition scene pairs calls st
        { st with stack := st.stack.putExposed i ⟨a.node, socket⟩ v }
  | addSignal {i : Nat} {a : Activation} (socket : String)
      (ready : st.stack.Ready pairs calls i) (active : st.stack.active? i = some a) :
      Transition scene pairs calls st { st with stack := st.stack.addSignal i ⟨a.node, socket⟩ }
  | mark {i : Nat} {a : Activation} {c : Component} (target : MarkTarget) (scope : MarkScope)
      (ready : st.stack.Ready pairs calls i) (active : st.stack.active? i = some a)
      (made : scene.Instance c a) :
      Transition scene pairs calls st (st.mark i a.node a.component target scope)
  | push (permeable : Bool) (provider : Option FrameProvider)
      (bound : ∀ b, provider = some (.gateway b) → permeable = false ∧ b.caller < st.stack.height) :
      Transition scene pairs calls st
        { st with stack := st.stack.push (.fresh permeable provider) }
  | pop : Transition scene pairs calls st { st with stack := st.stack.pop }
  | deeper : Transition scene pairs calls st st.deeper
  | shallower : Transition scene pairs calls st st.shallower

/-- The circumstances of a step: which handlers are at work, how deep they are nested and what the
frames look like. -/
inductive Admissible (scene : Scene) (pairs : Activation → Pairings → Prop) (s : FrameStack)
    (n : Nat) : CallStack → Step → Prop
  | skipped {calls : CallStack} {i : Nat} (node : NodeId) (ready : s.Ready pairs calls i)
      (shows : s.Shows calls) : Admissible scene pairs s n calls (.skipped i node)
  | started {calls : CallStack} {i : Nat} {a : Activation} {c : Component}
      (nested : 0 < n ∧ n < scene.limits.recursionDepth) (ready : s.Ready pairs calls i)
      (shows : s.Shows (⟨i, a, [], none⟩ :: calls)) (made : scene.Instance c a) :
      Admissible scene pairs s n calls (.started i a)
  | performed {calls : CallStack} {g : Invocation} {c : Component} (script : Script)
      (ready : s.Ready pairs calls g.frame) (shows : s.Shows (g :: calls))
      (made : scene.Instance c g.activation) :
      Admissible scene pairs s n (g :: calls) (.performed g.frame g.activation script)
  | finished {calls : CallStack} {g : Invocation} (outcome : Outcome Unit)
      (ready : s.Ready pairs calls g.frame) (shows : s.Shows (g :: calls)) :
      Admissible scene pairs s n (g :: calls) (.finished g.frame g.activation outcome)
  | delivered {calls : CallStack} {i : Nat} (link : Link) (ready : s.Ready pairs calls i)
      (shows : s.Shows calls) : Admissible scene pairs s n calls (.delivered i link)
  | paired {calls : CallStack} {i : Nat} {b : Binding} {socket : Link} {own : String}
      (served : s.Served pairs calls i) (provider : s.provider? i = some (.gateway b))
      (answers : b.pairings.socketFor? socket = some own) (shows : s.Shows calls) :
      Admissible scene pairs s n calls (.paired i b socket own)

theorem Admissible.congr {scene : Scene} {pairs : Activation → Pairings → Prop} {s t : FrameStack}
    {n : Nat} {calls : CallStack} {step : Step} (hst : s.shape = t.shape)
    (h : Admissible scene pairs s n calls step) : Admissible scene pairs t n calls step := by
  cases h with
  | skipped node ready shows => exact .skipped node (ready.congr hst) (shows.congr hst)
  | started nested ready shows made =>
    exact .started nested (ready.congr hst) (shows.congr hst) made
  | performed script ready shows made =>
    exact .performed script (ready.congr hst) (shows.congr hst) made
  | finished outcome ready shows => exact .finished outcome (ready.congr hst) (shows.congr hst)
  | delivered link ready shows => exact .delivered link (ready.congr hst) (shows.congr hst)
  | paired served provider answers shows =>
    refine .paired (served.congr hst) ?_ answers (shows.congr hst)
    rwa [← FrameStack.provider?_congr hst]

/-- What the runs of a scene keep under a watcher, while some handlers are at work: something about
the state and what has been seen. -/
structure Invariant {ω : Type} (scene : Scene) (watch : Watcher ω) where
  pairs : Activation → Pairings → Prop
  kept : CallStack → EngineState → ω → Prop
  links : ∀ {c a}, scene.Instance c a → c.Links pairs a
  transition : ∀ {calls st st' w}, Transition scene pairs calls st st' → kept calls st w →
    kept calls st' (watch.step st' .changed w)
  event : ∀ {calls st w} e, kept calls st w → kept calls st (watch.event e w)
  step : ∀ {calls st s w}, Admissible scene pairs st.stack st.nesting calls s → kept calls st w →
    kept (calls.after st.stack.height s) st (watch.step st s w)

end SocketGraph
