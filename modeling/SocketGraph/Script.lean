import SocketGraph.Activation
import SocketGraph.Failure
import SocketGraph.Message

/-! Scripts: what a handler does, as a tree of the operations it performs one after another. Every
operation that answers is followed by one script for each answer. -/
namespace SocketGraph

/-- What a mark covers. -/
inductive MarkTarget
  | node
  | component
  | both
  deriving DecidableEq

/-- How long a mark lasts: with the innermost frame, with its root frame, or as long as the engine
is active. -/
inductive MarkScope
  | frame
  | root
  | forever
  deriving DecidableEq

namespace MarkTarget

def coversNode : MarkTarget → Bool
  | .component => false
  | .node | .both => true

def coversComponent : MarkTarget → Bool
  | .node => false
  | .component | .both => true

end MarkTarget

/-- Which socket of a linked scene each socket of a gateway stands for. -/
abbrev Pairings := Table Link

namespace Pairings

/-- The sockets paired with a target, in ascending order. -/
def socketsFor (p : Pairings) (target : Link) : List String :=
  (p.entries.filter fun e => e.2 = target).map Prod.fst

/-- The first socket paired with a target. -/
def socketFor? (p : Pairings) (target : Link) : Option String := (p.socketsFor target).head?

end Pairings

/-- What the outside sees of a run, in order. -/
inductive Event
  | logged (message : Message)
  | asked (socket : String) (node : NodeId)
  | signalled (node : NodeId) (socket : String)
  | traced (value : Option Value)

/-- What a signal left behind: the signals and values exposed, and the failures of its handlers. -/
structure TriggerResult where
  signals : List Link
  values : Table (Table Value)
  failures : List Failure
  deriving Inhabited

namespace TriggerResult

def empty : TriggerResult := ⟨[], .empty, []⟩

def succeeded (r : TriggerResult) : Bool := r.failures.isEmpty

def hasSignal (r : TriggerResult) (node : NodeId) (socket : String) : Bool :=
  r.signals.contains ⟨node, socket⟩

def valuesOf? (r : TriggerResult) (node : NodeId) : Option (Table Value) := r.values.get? node

end TriggerResult

/-- The operations of a handler in the order performed. -/
inductive Script
  | done (outcome : Outcome Unit)
  | fetch (socket : String) (next : Outcome (Option Value) → Script)
  | push (socket : String) (value : Value) (next : Script)
  | expose (socket : String) (value : Value) (next : Script)
  | hasExposed (socket : String) (next : Bool → Script)
  | exposeSignal (socket : String) (next : Script)
  | forward (socket : String) (next : Script)
  | mark (target : MarkTarget) (scope : MarkScope) (next : Script)
  | emit (event : Event) (next : Script)
  | count (name : String) (next : Nat → Script)
  | pullScene (pairings : Pairings) (target : Link) (next : Outcome (Table Value) → Script)
  | pushScene (pairings : Pairings) (target : Link) (next : TriggerResult → Script)

namespace Script

def succeed : Script := .done (.ok ())

def fail (failure : Failure) : Script := .done (.error failure)

/-- Go on with another script unless the first one fails. -/
def andThen : Script → Script → Script
  | .done (.ok ()), rest => rest
  | .done (.error failure), _ => .done (.error failure)
  | .fetch socket next, rest => .fetch socket fun answer => (next answer).andThen rest
  | .push socket value next, rest => .push socket value (next.andThen rest)
  | .expose socket value next, rest => .expose socket value (next.andThen rest)
  | .hasExposed socket next, rest => .hasExposed socket fun answer => (next answer).andThen rest
  | .exposeSignal socket next, rest => .exposeSignal socket (next.andThen rest)
  | .forward socket next, rest => .forward socket (next.andThen rest)
  | .mark target scope next, rest => .mark target scope (next.andThen rest)
  | .emit event next, rest => .emit event (next.andThen rest)
  | .count name next, rest => .count name fun n => (next n).andThen rest
  | .pullScene pairings target next, rest =>
    .pullScene pairings target fun answer => (next answer).andThen rest
  | .pushScene pairings target next, rest =>
    .pushScene pairings target fun answer => (next answer).andThen rest

@[simp] theorem succeed_andThen (rest : Script) : succeed.andThen rest = rest := rfl

@[simp] theorem fail_andThen (failure : Failure) (rest : Script) :
    (fail failure).andThen rest = fail failure := rfl

@[simp] theorem andThen_succeed (s : Script) : s.andThen succeed = s := by
  induction s with
  | done outcome => cases outcome <;> rfl
  | hasExposed socket next ih => exact congrArg (hasExposed socket) (funext ih)
  | _ => simp_all [andThen]

end Script
end SocketGraph
