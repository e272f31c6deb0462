import SocketGraph.Watcher
import SocketGraph.Scene
import SocketGraph.Proofs.Shape

/-! Handlers at work. The steps of a run tell which handlers are at work, one called by the other;
the stack of frames must tell the same, frame by frame. -/
namespace SocketGraph

/-- The pairings of the scene that the first operation of a script links. -/
def Script.pairings? : Script → Option Pairings
  | .pullScene pairings _ _ | .pushScene pairings _ _ => some pairings
  | _ => none

/-- The socket that the first operation of a script forwards a signal out of. -/
def Script.forwarded? : Script → Option String
  | .forward socket _ => some socket
  | _ => none

/-- A handler at work: the frame and the activation it was started for, the sockets that it has
forwarded signals out of so far, and the frame of the linked scene that its operation runs, if it does
run one. -/
structure Invocation where
  frame : Nat
  activation : Activation
  forwarded : List String
  scene : Option Nat

namespace Invocation

/-- The activation of the handler as it should stand on its frame now. -/
def current (g : Invocation) : Activation := g.activation.sent g.forwarded

/-- The handler when it performs the first operation of a script on a stack of some height. -/
def perform (g : Invocation) (height : Nat) (script : Script) : Invocation :=
  { g with
    forwarded := g.forwarded ++ script.forwarded?.toList
    scene := script.pairings?.map fun _ => height }

end Invocation

/-- The handlers at work, the innermost first. -/
abbrev CallStack := List Invocation

namespace CallStack

/-- The handlers at work after a step that is taken on a stack of some height. -/
def after (calls : CallStack) (height : Nat) : Step → CallStack
  | .started frame a => ⟨frame, a, [], none⟩ :: calls
  | .performed _ _ script => calls.modifyHead (·.perform height script)
  | .finished _ _ _ => calls.tail
  | _ => calls

/-- The activations of the handlers at work on a frame. -/
def on (calls : CallStack) (frame : Nat) : List Activation :=
  (calls.filter fun g => g.frame = frame).map Invocation.current

theorem on_cons (g : Invocation) (calls : CallStack) (frame : Nat) :
    on (g :: calls) frame = if g.frame = frame then g.current :: calls.on frame
      else calls.on frame := by
  unfold on
  split_ifs with h <;> simp [h]

end CallStack

/-- The frames show exactly the handlers at work, each on its own frame and in order. -/
def FrameStack.Shows (s : FrameStack) (calls : CallStack) : Prop :=
  ∀ i, s.activeOn i = calls.on i

namespace FrameStack.Shows

variable {s t : FrameStack} {calls : CallStack}

theorem congr (hst : s.shape = t.shape) (h : s.Shows calls) : t.Shows calls :=
  fun i => activeOn_congr hst i ▸ h i

theorem enter (h : s.Shows calls) (g : Invocation) (hg : g.frame < s.height) :
    (s.enter g.frame g.current).Shows (g :: calls) := by
  intro j
  rw [activeOn_enter s hg, CallStack.on_cons, h j]

theorem push (h : s.Shows calls) (permeable : Bool) (provider : Option FrameProvider) :
    (s.push (.fresh permeable provider)).Shows calls := by
  intro j
  rw [← h j]
  unfold activeOn
  rw [frame?_push]
  split_ifs with hj
  · rw [hj, frame?_eq_none_iff.2 (Nat.le_refl _)]
    rfl
  · rfl

end FrameStack.Shows

/-- An activation of a node of the scene, made from the component that the node names. -/
def Scene.Instance (scene : Scene) (c : Component) (a : Activation) : Prop :=
  ∃ info cause, scene.tables.executable.node? a.node = some info ∧
    scene.registry.get? info.component = some c ∧ a = c.activation a.node info.attributes cause

theorem Scene.Instance.sent {scene : Scene} {c : Component} {a : Activation}
    (h : scene.Instance c a) (sockets : List String) : scene.Instance c (a.sent sockets) := by
  obtain ⟨info, cause, hnode, hget, ha⟩ := h
  refine ⟨info, (a.sent sockets).cause, by simpa using hnode, hget, ?_⟩
  rw [Activation.sent_eq, ha]
  cases cause <;> rfl

/-- Every scene that a script may link is paired in some way. -/
def Script.Links (paired : Pairings → Prop) : Script → Prop
  | .done _ => True
  | .fetch _ next => ∀ answer, (next answer).Links paired
  | .push _ _ next => next.Links paired
  | .expose _ _ next => next.Links paired
  | .hasExposed _ next => ∀ answer, (next answer).Links paired
  | .exposeSignal _ next => next.Links paired
  | .forward _ next => next.Links paired
  | .mark _ _ next => next.Links paired
  | .emit _ next => next.Links paired
  | .count _ next => ∀ n, (next n).Links paired
  | .pullScene pairings _ next => paired pairings ∧ ∀ answer, (next answer).Links paired
  | .pushScene pairings _ next => paired pairings ∧ ∀ result, (next result).Links paired

theorem Script.links_succeed (paired : Pairings → Prop) : succeed.Links paired := trivial

theorem Script.links_fail (paired : Pairings → Prop) (failure : Failure) :
    (fail failure).Links paired := trivial

theorem Script.Links.mono {paired paired' : Pairings → Prop} (h : ∀ p, paired p → paired' p)
    {s : Script} (hs : s.Links paired) : s.Links paired' := by
  induction s with
  | done => trivial
  | fetch _ _ ih | hasExposed _ _ ih | count _ _ ih => exact fun answer => ih _ (hs answer)
  | push _ _ _ ih | expose _ _ _ ih | mark _ _ _ ih => exact ih hs
  | exposeSignal _ _ ih | forward _ _ ih | emit _ _ ih => exact ih hs
  | pullScene _ _ _ ih | pushScene _ _ _ ih => exact ⟨h _ hs.1, fun answer => ih _ (hs.2 answer)⟩

theorem Script.links_true (s : Script) : s.Links fun _ => True := by
  induction s with
  | done => trivial
  | fetch _ _ ih | hasExposed _ _ ih | count _ _ ih => exact fun answer => ih answer
  | push _ _ _ ih | expose _ _ _ ih | mark _ _ _ ih => exact ih
  | exposeSignal _ _ ih | forward _ _ ih | emit _ _ ih => exact ih
  | pullScene _ _ _ ih | pushScene _ _ _ ih => exact ⟨trivial, fun answer => ih answer⟩

/-- The handlers of a component link only scenes that are paired for the activation they work for. -/
structure Component.Links (c : Component) (pairs : Activation → Pairings → Prop)
    (a : Activation) : Prop where
  update : ∀ handler, c.update = some handler → (handler a).Links (pairs a)
  signal : ∀ handler, c.signal = some handler → ∀ socket, (handler a socket).Links (pairs a)

theorem Component.Links.unconditional (c : Component) (a : Activation) :
    c.Links (fun _ _ => True) a :=
  ⟨fun handler _ => (handler a).links_true, fun handler _ socket => (handler a socket).links_true⟩

end SocketGraph
