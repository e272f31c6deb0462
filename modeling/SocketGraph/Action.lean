import SocketGraph.Watcher

/-! Actions on the state of an active engine, under the eyes of a watcher. -/
namespace SocketGraph

/-- A run: the state of the engine, the counters of the programs and what was seen. -/
structure Run (ω : Type) where
  state : EngineState
  counters : Table Nat
  seen : ω

/-- An action on a run. -/
abbrev Action (ω α : Type) := StateM (Run ω) α

namespace Action
variable {ω α : Type}

def state : Action ω EngineState := fun r => (r.state, r)

/-- Read something off the stack of frames. -/
def readStack (read : FrameStack → α) : Action ω α := fun r => (read r.state.stack, r)

theorem bind_apply {β : Type} (x : Action ω α) (f : α → Action ω β) (r : Run ω) :
    (x >>= f) r = f (x r).1 (x r).2 := rfl

theorem state_bind_apply {β : Type} (f : EngineState → Action ω β) (r : Run ω) :
    (state >>= f) r = f r.state r := rfl

theorem readStack_bind_apply {β : Type} (read : FrameStack → α) (f : α → Action ω β) (r : Run ω) :
    (readStack read >>= f) r = f (read r.state.stack) r := rfl

/-- Tell the watcher of an event. -/
def emit (watch : Watcher ω) (e : Event) : Action ω Unit :=
  fun r => ((), { r with seen := watch.event e r.seen })

def log (watch : Watcher ω) (m : Message) : Action ω Unit := emit watch (.logged m)

theorem log_bind_apply {β : Type} (watch : Watcher ω) (m : Message) (f : Unit → Action ω β)
    (r : Run ω) : (log watch m >>= f) r = f () { r with seen := watch.event (.logged m) r.seen } := rfl

/-- Tell the watcher of a step. -/
def note (watch : Watcher ω) (s : Step) : Action ω Unit :=
  fun r => ((), { r with seen := watch.step r.state s r.seen })

/-- Change the state and tell the watcher. -/
def changeState (watch : Watcher ω) (change : EngineState → EngineState) : Action ω Unit := fun r =>
  let st := change r.state
  ((), { r with state := st, seen := watch.step st .changed r.seen })

def changeStack (watch : Watcher ω) (change : FrameStack → FrameStack) : Action ω Unit :=
  changeState watch fun st => { st with stack := change st.stack }

/-- Add one to a counter. -/
def count (name : String) : Action ω Nat := fun r =>
  let n := (r.counters.get? name).getD 0 + 1
  (n, { r with counters := r.counters.insert name n })

/-- Run an action between opening two frames and closing them again; it is told the inner one. -/
def between (watch : Watcher ω) (outer inner : Frame) (body : Nat → Action ω α) : Action ω α := do
  changeStack watch (·.push outer)
  changeStack watch (·.push inner)
  let frame ← readStack FrameStack.top
  let result ← body frame
  changeStack watch FrameStack.pop
  changeStack watch FrameStack.pop
  pure result

/-- Run an action one nesting deeper. -/
def nested (watch : Watcher ω) (body : Action ω α) : Action ω α := do
  changeState watch EngineState.deeper
  let result ← body
  changeState watch EngineState.shallower
  pure result

/-- The scope of a call: a frame of its own under a frame that carries the provider of the host. -/
def callScope (watch : Watcher ω) (provider : Option Provider) :
    (Nat → Action ω α) → Action ω α :=
  between watch (.fresh true none) (.fresh true (provider.map .host))

/-- The scope of a linked scene: a frame bound to the gateway that lets nothing through, and a frame
for the call. -/
def sceneScope (watch : Watcher ω) (caller : Nat) (pairings : Pairings) :
    (Nat → Action ω α) → Action ω α :=
  between watch (.fresh false (some (.gateway ⟨caller, pairings⟩))) (.fresh true none)

end Action
end SocketGraph
