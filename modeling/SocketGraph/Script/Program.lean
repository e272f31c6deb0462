import SocketGraph.Component
import SocketGraph.Json.Printer

/-! A small language for handlers. A program is a list of statements over variables that are fresh
in each run; an expression has a value or is absent. -/
namespace SocketGraph

/-- An expression of a program. -/
inductive Expr
  | literal (v : Value)
  | var (name : String)
  | attr (name : String)
  | attrs
  | node
  | component
  | requested
  | triggered
  | isSignal
  | hasExposed (socket : String)
  | count (name : String)
  | list (items : List Expr)
  | sum (items : List Expr)
  | equal (left right : Expr)
  deriving Inhabited

/-- A statement of a program. -/
inductive Statement
  | fetch (socket name : String)
  | attempt (socket name : String)
  | push (socket : String) (e : Expr)
  | expose (socket : String) (e : Expr)
  | signal (socket : String)
  | forward (socket : String)
  | mark (target : MarkTarget) (scope : MarkScope)
  | fail (e : Expr)
  | trace (e : Expr)
  | branch (condition : Expr) (yes no : List Statement)
  deriving Inhabited

/-- The statements of a handler. -/
abbrev Program := List Statement

/-- The variables of a run. -/
abbrev Variables := Table Value

/-- The integer of a value, if it is one that fits into a signed word. -/
def wordOf? : Option Value → Option Int
  | some (.number (.integer n)) => if isSigned n then some n else none
  | _ => none

/-- Equality of possibly absent values. -/
def agree? : Option Value → Option Value → Bool
  | none, none => true
  | some a, some b => a.agrees b
  | _, _ => false

/-- A branch is not taken for an absent value, null and false. -/
def isTruth : Option Value → Bool
  | none | some .null | some (.bool false) => false
  | some _ => true

mutual
/-- Evaluate an expression and go on with its value. -/
def Expr.script (a : Activation) (vars : Variables) : Expr → (Option Value → Script) → Script
  | .literal v, next => next (some v)
  | .var name, next => next (vars.get? name)
  | .attr name, next => next (a.attributes.get? name)
  | .attrs, next => next (some (.ofTable a.attributes))
  | .node, next => next (some (.string a.node))
  | .component, next => next (some (.string a.component))
  | .requested, next => next (a.requested?.map .string)
  | .triggered, next => next (a.triggered?.map .string)
  | .isSignal, next => next (some (.bool a.isSignal))
  | .hasExposed socket, next => .hasExposed socket fun b => next (some (.bool b))
  | .count name, next => .count name fun n => next (some (.nat n))
  | .list items, next =>
    Expr.scripts a vars items fun vs => next (some (.array (vs.map (·.getD .null))))
  | .sum items, next =>
    Expr.scripts a vars items fun vs => next (some (.int (wrap (vs.filterMap wordOf?).sum)))
  | .equal left right, next =>
    Expr.script a vars left fun x =>
      Expr.script a vars right fun y => next (some (.bool (agree? x y)))

/-- Evaluate expressions from left to right. -/
def Expr.scripts (a : Activation) (vars : Variables) :
    List Expr → (List (Option Value) → Script) → Script
  | [], next => next []
  | e :: rest, next =>
    Expr.script a vars e fun v => Expr.scripts a vars rest fun vs => next (v :: vs)
end

/-- The message of a failure: a text itself, any other value as its compact text. -/
def failureText : Option Value → String
  | none => ""
  | some (.string s) => s
  | some v => Json.compact v

def setVariable (vars : Variables) (name : String) (v : Option Value) : Variables :=
  match v with
  | some v => vars.insert name v
  | none => ⟨vars.entries.filter fun e => e.1 ≠ name, vars.ascending.filter _⟩

mutual
/-- Perform a statement and go on with the variables it leaves. -/
def Statement.script (a : Activation) (vars : Variables) : Statement → (Variables → Script) → Script
  | .fetch socket name, next =>
    .fetch socket fun
      | .error failure => .fail failure
      | .ok v => next (setVariable vars name v)
  | .attempt socket name, next =>
    .fetch socket fun
      | .error failure => next (vars.insert name (.object [("failed", .string failure.kind)]))
      | .ok v => next (setVariable vars name v)
  | .push socket e, next =>
    e.script a vars fun
      | none => next vars
      | some v => .push socket v (next vars)
  | .expose socket e, next =>
    e.script a vars fun
      | none => next vars
      | some v => .expose socket v (next vars)
  | .signal socket, next => .exposeSignal socket (next vars)
  | .forward socket, next => .forward socket (next vars)
  | .mark target scope, next => .mark target scope (next vars)
  | .fail e, _ => e.script a vars fun v => .fail (.handler a.node a.component (failureText v))
  | .trace e, next => e.script a vars fun v => .emit (.traced v) (next vars)
  | .branch condition yes no, next =>
    condition.script a vars fun v =>
      if isTruth v then Statement.scripts a vars yes next else Statement.scripts a vars no next

/-- Perform statements in order. -/
def Statement.scripts (a : Activation) (vars : Variables) :
    List Statement → (Variables → Script) → Script
  | [], next => next vars
  | s :: rest, next => s.script a vars fun vars => Statement.scripts a vars rest next
end

/-- The script of a program for one activation. -/
def Program.script (p : Program) (a : Activation) : Script :=
  Statement.scripts a .empty p fun _ => .succeed

/-- The script of a program that receives a signal, which it first reports. -/
def Program.signalScript (p : Program) (a : Activation) (socket : String) : Script :=
  .emit (.signalled a.node socket) (Program.script p a)

end SocketGraph
