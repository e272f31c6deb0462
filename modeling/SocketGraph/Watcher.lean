import SocketGraph.EngineState

/-! Watchers: they see what happens while an engine is at work. The log of events is one watcher,
and nothing that a watcher sees depends on it. -/
namespace SocketGraph

/-- What happens in a run. A handler is started, performs the operations of its script and is
finished with its outcome; a paired socket is answered through a binding by a socket of the gateway;
every change of the state is noted right after it. -/
inductive Step
  | skipped (frame : Nat) (node : NodeId)
  | started (frame : Nat) (activation : Activation)
  | performed (frame : Nat) (activation : Activation) (script : Script)
  | finished (frame : Nat) (activation : Activation) (outcome : Outcome Unit)
  | delivered (frame : Nat) (link : Link)
  | paired (frame : Nat) (binding : Binding) (socket : Link) (own : String)
  | changed

/-- Someone who watches a run: events in their order, and steps with the state they are made in. -/
structure Watcher (ω : Type) where
  event : Event → ω → ω
  step : EngineState → Step → ω → ω

/-- The watcher that keeps the events. -/
def Watcher.log : Watcher (Array Event) := ⟨fun e log => log.push e, fun _ _ log => log⟩

/-- The watcher that keeps nothing. -/
def Watcher.silent : Watcher Unit := ⟨fun _ _ => (), fun _ _ _ => ()⟩

end SocketGraph
