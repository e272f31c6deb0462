import SocketGraph.Component.Node
import SocketGraph.Component.Gateway
import SocketGraph.Script.Program

/-! Steady handlers: they fetch, push and expose values and decide by what they fetch, so a repeated
run does the same again. They know neither what they are asked for nor what earlier runs have left. -/
namespace SocketGraph

namespace Script

/-- Every failure of an evaluation that a script asks for is its own. -/
def Strict : Script → Prop
  | .done _ => True
  | .fetch _ next => (∀ e, ∃ e', next (.error e) = .fail e') ∧ ∀ v, (next (.ok v)).Strict
  | .push _ _ next => next.Strict
  | .expose _ _ next => next.Strict
  | .hasExposed _ next => ∀ answer, (next answer).Strict
  | .exposeSignal _ next => next.Strict
  | .forward _ next => next.Strict
  | .mark _ _ next => next.Strict
  | .emit _ next => next.Strict
  | .count _ next => ∀ n, (next n).Strict
  | .pullScene _ _ next => (∀ e, ∃ e', next (.error e) = .fail e') ∧ ∀ v, (next (.ok v)).Strict
  | .pushScene _ _ next => ∀ result, (next result).Strict

/-- Expose a socket with the value it resolves to. -/
def exposing (socket : String) (rest : Script) : Outcome (Option Value) → Script
  | .error failure => .fail failure
  | .ok none => rest
  | .ok (some v) => .expose socket v rest

/-- A script that does the same in every run, and fails when a fetch does. It asks for what was exposed
only to pass over a socket that it would expose with the value it resolves to. -/
inductive Steady : Script → Prop
  | done (outcome : Outcome Unit) : Steady (.done outcome)
  | fetch {socket : String} {next : Outcome (Option Value) → Script}
      (fails : ∀ e, next (.error e) = .fail e) (answered : ∀ v, Steady (next (.ok v))) :
      Steady (.fetch socket next)
  | push {socket : String} {v : Value} {next : Script} (rest : Steady next) :
      Steady (.push socket v next)
  | expose {socket : String} {v : Value} {next : Script} (rest : Steady next) :
      Steady (.expose socket v next)
  | emit {event : Event} {next : Script} (rest : Steady next) : Steady (.emit event next)
  | unlessExposed {socket : String} {next : Bool → Script}
      (exposes : next false = .fetch socket (exposing socket (next true)))
      (rest : Steady (next true)) : Steady (.hasExposed socket next)

theorem Steady.strict {s : Script} (h : s.Steady) : s.Strict := by
  induction h with
  | done => trivial
  | fetch fails _ ih => exact ⟨fun e => ⟨e, fails e⟩, ih⟩
  | push _ ih => exact ih
  | expose _ ih => exact ih
  | emit _ ih => exact ih
  | @unlessExposed socket next exposes _ ih =>
    intro answer
    cases answer with
    | true => exact ih
    | false =>
      rw [exposes]
      refine ⟨fun e => ⟨e, rfl⟩, fun v => ?_⟩
      cases v <;> exact ih

theorem Steady.andThen {s t : Script} (hs : s.Steady) (ht : t.Steady) : (s.andThen t).Steady := by
  induction hs with
  | done outcome =>
    cases outcome with
    | ok _ => exact ht
    | error failure => exact .done _
  | fetch fails _ ih =>
    refine .fetch (fun e => ?_) ih
    rw [fails]
    rfl
  | push _ ih => exact .push ih
  | expose _ ih => exact .expose ih
  | emit _ ih => exact .emit ih
  | @unlessExposed socket next exposes _ ih =>
    refine .unlessExposed ?_ ih
    rw [exposes, Script.andThen]
    congr 1
    funext answer
    rcases answer with _ | _ | _ <;> rfl

end Script

/-- The script of an update; without a handler nothing is done. -/
def Component.script (c : Component) (a : Activation) : Script := c.update.elim .succeed (· a)

/-- Updates of a steady component do the same whatever output they are made for. -/
structure Component.Steady (c : Component) : Prop where
  script : ∀ node attributes requested,
    (c.script (c.activation node attributes (.pull requested))).Steady
  unasked : ∀ node attributes requested,
    c.script (c.activation node attributes (.pull requested)) =
      c.script (c.activation node attributes (.pull none))

/-- The nodes of a graph are gateways or have steady handlers. -/
def Registry.Steady (r : Registry) : Prop :=
  ∀ ⦃name c⦄, r.get? name = some c → c = Gateway.component ∨ c.Steady

theorem Registry.steady_ofComponents {cs : List Component}
    (h : ∀ c ∈ cs, c = Gateway.component ∨ c.Steady) : (ofComponents cs).Steady :=
  fun _ c hget => h c (mem_of_get?_ofComponents hget)

namespace NodeComponent

theorem steady_exposeInputs (sockets : List Socket) : (exposeInputs sockets).Steady := by
  induction sockets with
  | nil => exact .done _
  | cons s rest ih =>
    refine .unlessExposed ?_ ih
    congr 1

/-- The usual behaviour keeps a component steady, unless its updates are remembered. -/
theorem steady_component {c : NodeComponent} (hmemory : c.memory = none)
    (hsteady : ∀ handler, c.update = some handler → ∀ (a : Activation) requested,
      (handler { a with cause := .pull requested }).Steady ∧
        handler { a with cause := .pull requested } = handler { a with cause := .pull none }) :
    c.component.Steady := by
  have hscript (a : Activation) : c.component.script a =
      (c.update.elim .succeed (· a)).andThen (exposeInputs c.exposedInputs) := by
    change c.updateScript a = _
    rw [updateScript, remember, hmemory]
    exact Script.andThen_succeed _
  cases hupdate : c.update with
  | none =>
    refine ⟨fun node attributes requested => ?_, fun node attributes requested => ?_⟩
    · rw [hscript, hupdate]
      exact steady_exposeInputs _
    · rw [hscript, hscript, hupdate]
      rfl
  | some handler =>
    have h (node : NodeId) (attributes : Table Value) :=
      hsteady handler hupdate (c.component.activation node attributes (.pull none))
    refine ⟨fun node attributes requested => ?_, fun node attributes requested => ?_⟩
    · rw [hscript, hupdate]
      exact (h node attributes requested).1.andThen (steady_exposeInputs _)
    · rw [hscript, hscript, hupdate]
      exact congrArg (Script.andThen · _) (h node attributes requested).2

end NodeComponent

/-! Programs with steady scripts. -/

mutual
/-- Whether an expression depends on attributes and variables alone. -/
def Expr.isPlain : Expr → Bool
  | .literal _ | .var _ | .attr _ | .attrs | .node | .component | .triggered | .isSignal => true
  | .requested | .hasExposed _ | .count _ => false
  | .list items | .sum items => Expr.arePlain items
  | .equal left right => left.isPlain && right.isPlain

def Expr.arePlain : List Expr → Bool
  | [] => true
  | e :: rest => e.isPlain && Expr.arePlain rest
end

mutual
/-- Whether a statement fetches, pushes, exposes, fails or traces, on a condition perhaps. -/
def Statement.isPlain : Statement → Bool
  | .fetch _ _ => true
  | .push _ e | .expose _ e | .fail e | .trace e => e.isPlain
  | .attempt _ _ | .signal _ | .forward _ | .mark _ _ => false
  | .branch condition yes no =>
    condition.isPlain && Statement.arePlain yes && Statement.arePlain no

def Statement.arePlain : List Statement → Bool
  | [] => true
  | s :: rest => s.isPlain && Statement.arePlain rest
end

section
variable (a : Activation) (vars : Variables)

mutual
/-- A plain expression has a value, whatever output its node is evaluated for. -/
theorem Expr.exists_script : ∀ e : Expr, e.isPlain = true →
    ∃ v, ∀ requested next, e.script { a with cause := .pull requested } vars next = next v
  | .literal v, _ => ⟨some v, fun _ _ => rfl⟩
  | .var name, _ => ⟨vars.get? name, fun _ _ => rfl⟩
  | .attr name, _ => ⟨a.attributes.get? name, fun _ _ => rfl⟩
  | .attrs, _ => ⟨some (.ofTable a.attributes), fun _ _ => rfl⟩
  | .node, _ => ⟨some (.string a.node), fun _ _ => rfl⟩
  | .component, _ => ⟨some (.string a.component), fun _ _ => rfl⟩
  | .triggered, _ => ⟨none, fun _ _ => rfl⟩
  | .isSignal, _ => ⟨some (.bool false), fun _ _ => rfl⟩
  | .list items, h => by
    obtain ⟨vs, hvs⟩ := Expr.exists_scripts items h
    exact ⟨_, fun requested next => hvs requested _⟩
  | .sum items, h => by
    obtain ⟨vs, hvs⟩ := Expr.exists_scripts items h
    exact ⟨_, fun requested next => hvs requested _⟩
  | .equal left right, h => by
    rw [Expr.isPlain, Bool.and_eq_true] at h
    obtain ⟨x, hx⟩ := Expr.exists_script left h.1
    obtain ⟨y, hy⟩ := Expr.exists_script right h.2
    exact ⟨_, fun requested next => (hx requested _).trans (hy requested _)⟩

theorem Expr.exists_scripts : ∀ items : List Expr, Expr.arePlain items = true →
    ∃ vs, ∀ requested next,
      Expr.scripts { a with cause := .pull requested } vars items next = next vs
  | [], _ => ⟨[], fun _ _ => rfl⟩
  | e :: rest, h => by
    rw [Expr.arePlain, Bool.and_eq_true] at h
    obtain ⟨v, hv⟩ := Expr.exists_script e h.1
    obtain ⟨vs, hvs⟩ := Expr.exists_scripts rest h.2
    exact ⟨v :: vs, fun requested next => (hv requested _).trans (hvs requested _)⟩
end
end

section
variable (a : Activation)

mutual
/-- A plain statement is steady if what follows it is, and so is independent of the output. -/
theorem Statement.steady_script : ∀ (s : Statement) (vars : Variables) (next : Variables → Script),
    s.isPlain = true → (∀ vars, (next vars).Steady) → ∀ requested,
      (s.script { a with cause := .pull requested } vars next).Steady ∧
      s.script { a with cause := .pull requested } vars next =
        s.script { a with cause := .pull none } vars next
  | .fetch socket name, vars, next, _, hnext, requested => by
    exact ⟨.fetch (fun _ => rfl) fun _ => hnext _, rfl⟩
  | .push socket e, vars, next, h, hnext, requested => by
    obtain ⟨v, hv⟩ := e.exists_script a vars h
    simp only [Statement.script, hv]
    cases v with
    | none => exact ⟨hnext _, trivial⟩
    | some v => exact ⟨.push (hnext _), trivial⟩
  | .expose socket e, vars, next, h, hnext, requested => by
    obtain ⟨v, hv⟩ := e.exists_script a vars h
    simp only [Statement.script, hv]
    cases v with
    | none => exact ⟨hnext _, trivial⟩
    | some v => exact ⟨.expose (hnext _), trivial⟩
  | .fail e, vars, next, h, hnext, requested => by
    obtain ⟨v, hv⟩ := e.exists_script a vars h
    simp only [Statement.script, hv]
    exact ⟨.done _, trivial⟩
  | .trace e, vars, next, h, hnext, requested => by
    obtain ⟨v, hv⟩ := e.exists_script a vars h
    simp only [Statement.script, hv]
    exact ⟨.emit (hnext _), trivial⟩
  | .branch condition yes no, vars, next, h, hnext, requested => by
    simp only [Statement.isPlain, Bool.and_eq_true] at h
    obtain ⟨v, hv⟩ := condition.exists_script a vars h.1.1
    simp only [Statement.script, hv]
    split
    · exact Statement.steady_scripts yes vars next h.1.2 hnext requested
    · exact Statement.steady_scripts no vars next h.2 hnext requested

theorem Statement.steady_scripts : ∀ (p : List Statement) (vars : Variables)
    (next : Variables → Script), Statement.arePlain p = true → (∀ vars, (next vars).Steady) →
    ∀ requested,
      (Statement.scripts { a with cause := .pull requested } vars p next).Steady ∧
      Statement.scripts { a with cause := .pull requested } vars p next =
        Statement.scripts { a with cause := .pull none } vars p next
  | [], vars, next, _, hnext, requested => ⟨hnext vars, rfl⟩
  | s :: rest, vars, next, h, hnext, requested => by
    rw [Statement.arePlain, Bool.and_eq_true] at h
    have hrest (r : Option String) (vars : Variables) :=
      Statement.steady_scripts rest vars next h.2 hnext r
    have hs := Statement.steady_script s vars
      (fun vars => Statement.scripts { a with cause := .pull requested } vars rest next) h.1
      (fun vars => (hrest requested vars).1) requested
    refine ⟨hs.1, hs.2.trans ?_⟩
    simp only [Statement.scripts]
    congr 1
    funext vars
    exact (hrest requested vars).2
end
end

/-- Components whose updates run a plain program are steady, unless the updates are remembered. -/
theorem NodeComponent.steady_of_isPlain {c : NodeComponent} (hmemory : c.memory = none)
    (hplain : ∀ handler, c.update = some handler →
      ∃ p : Program, Statement.arePlain p = true ∧ handler = Program.script p) :
    c.component.Steady := by
  refine steady_component hmemory fun handler hhandler a requested => ?_
  obtain ⟨p, hp, rfl⟩ := hplain handler hhandler
  exact Statement.steady_scripts a p .empty _ hp (fun _ => .done _) requested

end SocketGraph
