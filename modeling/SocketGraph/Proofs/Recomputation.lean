import SocketGraph.Engine
import SocketGraph.Proofs.Steady
import Mathlib.Tactic.Common

/-! The cache-free evaluator. It has no frames: every producer is run again and every socket resolved
again, and a run gives just what its own handler pushes and exposes. -/
namespace SocketGraph

/-- Where a node is evaluated: in a call of the host, or in a scene that a gateway links. -/
inductive Site
  | host (provider : Option Provider)
  | scene (gateway : Activation) (pairings : Pairings) (outer : Site)

/-- Whether anyone answers for the exposed sockets of a site. -/
def Site.provided : Site → Bool
  | .host provider => provider.isSome
  | .scene _ _ _ => true

/-- What the run of a handler gives. -/
structure Yield where
  pushed : Table Value
  exposed : Table Value

namespace Yield

def empty : Yield := ⟨.empty, .empty⟩

def push (y : Yield) (socket : String) (v : Value) : Yield :=
  { y with pushed := y.pushed.insert socket v }

def expose (y : Yield) (socket : String) (v : Value) : Yield :=
  { y with exposed := y.exposed.insert socket v }

end Yield

/-- The activation of a node whatever it was evaluated for. -/
def Activation.plain (a : Activation) : Activation := { a with cause := .pull none }

/-- An evaluator without caches. -/
abbrev Recompute := Site → NodeId → (requested : Option String) → Outcome Yield

namespace Recompute

variable (scene : Scene) (below : Recompute)

/-- The value of an output: what its node pushes, or the answer of the provider. -/
def producer (site : Site) (ask : Link → Outcome (Option Value)) (l : Link) :
    Outcome (Option Value) := do
  let y ← below site l.node (some l.socket)
  match y.pushed.get? l.socket with
  | some v => pure (some v)
  | none => ask l

def producers (site : Site) (ask : Link → Outcome (Option Value)) :
    List Link → Outcome (List (Option Value))
  | [] => pure []
  | l :: rest => do
    let v ← producer below site ask l
    let vs ← producers site ask rest
    pure (v :: vs)

/-- The value of a socket of a node, resolved in the order of the engine. -/
def input (site : Site) (ask : Link → Outcome (Option Value)) (a : Activation)
    (socket : String) : Outcome (Option Value) :=
  match scene.tables.executable.producers a.node socket with
  | first :: rest =>
    if collects a.sockets socket (first :: rest) then do
      let vs ← producers below site ask (first :: rest)
      pure (collect vs)
    else producer below site ask first
  | [] =>
    if (declared? a.sockets socket).any Socket.exposed && site.provided then ask ⟨a.node, socket⟩
    else pure (ownValue? a socket)

/-- The answer of the nearest provider of a site; a gateway answers with its own input. -/
def ask : Site → Link → Outcome (Option Value)
  | .host none, _ => pure none
  | .host (some provider), l => pure (provider.answer l.socket l.node)
  | .scene gateway pairings outer, l =>
    match pairings.socketFor? l with
    | some own => input scene below outer (ask outer) gateway own
    | none => ask outer l

/-- Fetch a socket of a node. -/
def fetch (site : Site) (a : Activation) (socket : String) : Outcome (Option Value) :=
  input scene below site (ask scene below site) a socket

/-- Perform a script from what the run has given so far. Only that decides whether a socket has been
exposed; reports, marks, signals and counters play no part. -/
def perform (site : Site) (a : Activation) : Script → Yield → Outcome Yield
  | .done (.ok ()), y => .ok y
  | .done (.error failure), _ => .error failure
  | .fetch socket next, y => perform site a (next (fetch scene below site a socket)) y
  | .push socket v next, y => perform site a next (y.push socket v)
  | .expose socket v next, y => perform site a next (y.expose socket v)
  | .hasExposed socket next, y => perform site a (next (y.exposed.get? socket).isSome) y
  | .exposeSignal _ next, y | .forward _ next, y | .mark _ _ next, y | .emit _ next, y =>
    perform site a next y
  | .count _ next, y => perform site a (next 0) y
  | .pullScene pairings target next, y =>
    perform site a
      (next (Yield.exposed <$>
        below (.scene a.plain pairings site) target.node (some target.socket))) y
  | .pushScene _ _ next, y => perform site a (next .empty) y

end Recompute

/-- The activation with which a node is evaluated. -/
def Scene.activation (scene : Scene) (node : NodeId) (requested : Option String) :
    Outcome (Component × Activation) :=
  match scene.tables.executable.node? node with
  | none => .error (.unknownNode node)
  | some info =>
    match scene.registry.get? info.component with
    | none => .error (.unknownComponent node info.component)
    | some c => .ok (c, c.activation node info.attributes (.pull requested))

/-- Evaluate a node while some levels of nesting are left. -/
def Scene.recompute (scene : Scene) : Nat → Recompute
  | 0, _, node, requested => do
    let _ ← scene.activation node requested
    .error (.tooDeep node scene.limits.recursionDepth)
  | levels + 1, site, node, requested => do
    let (c, a) ← scene.activation node requested
    Recompute.perform scene (Scene.recompute scene levels) site a (c.script a) .empty

theorem Outcome.bind_eq_ok {α β : Type} {x : Outcome α} {f : α → Outcome β} {b : β} :
    (x >>= f) = .ok b ↔ ∃ a, x = .ok a ∧ f a = .ok b := by
  cases x <;> simp [bind, Except.bind]

theorem Outcome.map_eq_ok {α β : Type} {x : Outcome α} {f : α → β} {b : β} :
    (f <$> x) = .ok b ↔ ∃ a, x = .ok a ∧ f a = b := by
  cases x <;> simp [Functor.map, Except.map]

namespace Recompute

theorem producer_of_ok {below : Recompute} {site : Site} {ask : Link → Outcome (Option Value)}
    {l : Link} {y : Yield} (hy : below site l.node (some l.socket) = .ok y) :
    producer below site ask l = (y.pushed.get? l.socket).elim (ask l) (.ok ∘ some) := by
  cases hpushed : y.pushed.get? l.socket <;>
    simp [producer, hy, hpushed, bind, Except.bind, pure, Except.pure]

theorem producer_eq_ok {below : Recompute} {site : Site} {ask : Link → Outcome (Option Value)}
    {l : Link} {v : Option Value} : producer below site ask l = .ok v ↔
      ∃ y, below site l.node (some l.socket) = .ok y ∧
        (y.pushed.get? l.socket).elim (ask l) (.ok ∘ some) = .ok v := by
  constructor
  · intro hv
    obtain ⟨y, hy, -⟩ := Outcome.bind_eq_ok.1 hv
    exact ⟨y, hy, producer_of_ok hy ▸ hv⟩
  · rintro ⟨y, hy, hv⟩
    rwa [producer_of_ok hy]

/-- An evaluator answers at least what another one does, and the same. -/
def Le (below below' : Recompute) : Prop :=
  ∀ ⦃site node requested y⦄, below site node requested = .ok y →
    below' site node requested = .ok y

section
variable {scene : Scene} {below below' : Recompute} (h : below.Le below') {site : Site}
include h

theorem producer_mono {ask ask' : Link → Outcome (Option Value)}
    (hask : ∀ {l v}, ask l = .ok v → ask' l = .ok v) {l : Link} {v : Option Value}
    (hv : producer below site ask l = .ok v) : producer below' site ask' l = .ok v := by
  obtain ⟨y, hy, hv⟩ := producer_eq_ok.1 hv
  refine producer_eq_ok.2 ⟨y, h hy, ?_⟩
  cases hpushed : y.pushed.get? l.socket with
  | some w =>
    rw [hpushed] at hv
    exact hv
  | none =>
    rw [hpushed] at hv
    exact hask hv

theorem producers_mono {ask ask' : Link → Outcome (Option Value)}
    (hask : ∀ {l v}, ask l = .ok v → ask' l = .ok v) {ls : List Link} {vs : List (Option Value)}
    (hvs : producers below site ask ls = .ok vs) : producers below' site ask' ls = .ok vs := by
  induction ls generalizing vs with
  | nil => exact hvs
  | cons l rest ih =>
    obtain ⟨v, hv, hvs⟩ := Outcome.bind_eq_ok.1 hvs
    obtain ⟨vs', hvs', hvs⟩ := Outcome.bind_eq_ok.1 hvs
    exact Outcome.bind_eq_ok.2 ⟨v, producer_mono h hask hv,
      Outcome.bind_eq_ok.2 ⟨vs', ih hvs', hvs⟩⟩

theorem input_mono {ask ask' : Link → Outcome (Option Value)}
    (hask : ∀ {l v}, ask l = .ok v → ask' l = .ok v) {a : Activation} {socket : String}
    {v : Option Value} (hv : input scene below site ask a socket = .ok v) :
    input scene below' site ask' a socket = .ok v := by
  unfold input at hv ⊢
  split at hv
  · split at hv
    · rename_i hcollects
      rw [if_pos hcollects]
      obtain ⟨vs, hvs, hv⟩ := Outcome.bind_eq_ok.1 hv
      exact Outcome.bind_eq_ok.2 ⟨vs, producers_mono h hask hvs, hv⟩
    · rename_i hcollects
      rw [if_neg hcollects]
      exact producer_mono h hask hv
  · split at hv
    · rename_i hask'
      rw [if_pos hask']
      exact hask hv
    · rename_i hask'
      rw [if_neg hask']
      exact hv

theorem ask_mono {l : Link} {v : Option Value} (hv : ask scene below site l = .ok v) :
    ask scene below' site l = .ok v := by
  induction site generalizing l v with
  | host provider => cases provider <;> exact hv
  | scene gateway pairings outer ih =>
    unfold ask at hv ⊢
    split at hv
    · exact input_mono h ih hv
    · exact ih hv

theorem fetch_mono {a : Activation} {socket : String} {v : Option Value}
    (hv : fetch scene below site a socket = .ok v) :
    fetch scene below' site a socket = .ok v :=
  input_mono h (ask_mono h) hv

/-- A strict script gives the same with an evaluator that answers more. -/
theorem perform_mono {a : Activation} {s : Script} (hs : s.Strict) {y z : Yield}
    (hz : perform scene below site a s y = .ok z) : perform scene below' site a s y = .ok z := by
  induction s generalizing y with
  | done outcome => cases outcome <;> exact hz
  | fetch socket next ih =>
    rw [perform] at hz ⊢
    cases hv : fetch scene below site a socket with
    | error failure =>
      obtain ⟨failure', hfails⟩ := hs.1 failure
      rw [hv, hfails] at hz
      exact nomatch hz
    | ok v =>
      rw [fetch_mono h hv]
      rw [hv] at hz
      exact ih _ (hs.2 v) hz
  | push socket v next ih => exact ih hs hz
  | expose socket v next ih => exact ih hs hz
  | hasExposed socket next ih => exact ih _ (hs _) hz
  | exposeSignal socket next ih => exact ih hs hz
  | forward socket next ih => exact ih hs hz
  | mark target scope next ih => exact ih hs hz
  | emit event next ih => exact ih hs hz
  | count name next ih => exact ih _ (hs _) hz
  | pullScene pairings target next ih =>
    rw [perform] at hz ⊢
    cases hy : below (.scene a.plain pairings site) target.node (some target.socket) with
    | error failure =>
      obtain ⟨failure', hfails⟩ := hs.1 failure
      rw [hy] at hz
      change perform scene below site a (next (.error failure)) y = .ok z at hz
      rw [hfails] at hz
      exact nomatch hz
    | ok y =>
      rw [h hy]
      rw [hy] at hz
      exact ih _ (hs.2 _) hz
  | pushScene pairings target next ih => exact ih _ (hs _) hz

end
end Recompute

end SocketGraph
