import SocketGraph.ValueMap
import SocketGraph.Json.Reader
import SocketGraph.Json.Printer

/-! Values that the command line assigns to sockets, as `node.socket=value`. -/
namespace SocketGraph.CommandLine

/-- The parts of a text before and after the first of some character. -/
def splitFirst (mark : Char) : List Char → Option (List Char × List Char)
  | [] => none
  | c :: rest =>
    if c = mark then some ([], rest)
    else (splitFirst mark rest).map fun (before, after) => (c :: before, after)

/-- The parts of a text before and after the last of some character. -/
def splitLast (mark : Char) : List Char → Option (List Char × List Char)
  | [] => none
  | c :: rest =>
    match splitLast mark rest with
    | some (before, after) => some (c :: before, after)
    | none => if c = mark then some ([], rest) else none

theorem splitFirst_eq_none {mark : Char} {cs : List Char} :
    splitFirst mark cs = none ↔ mark ∉ cs := by
  induction cs with
  | nil => simp [splitFirst]
  | cons c rest ih =>
    by_cases h : c = mark
    · simp [splitFirst, h]
    · simp [splitFirst, h, ih, Ne.symm h]

theorem splitFirst_append {mark : Char} {before : List Char} (h : mark ∉ before)
    (after : List Char) : splitFirst mark (before ++ mark :: after) = some (before, after) := by
  induction before with
  | nil => simp [splitFirst]
  | cons c rest ih =>
    simp only [List.mem_cons, not_or] at h
    simp [splitFirst, Ne.symm h.1, ih h.2]

theorem splitLast_eq_none {mark : Char} {cs : List Char} :
    splitLast mark cs = none ↔ mark ∉ cs := by
  induction cs with
  | nil => simp [splitLast]
  | cons c rest ih =>
    rw [splitLast]
    cases hrest : splitLast mark rest with
    | none =>
      by_cases h : c = mark
      · simp [h]
      · simp [h, ih.1 hrest, Ne.symm h]
    | some parts =>
      have : mark ∈ rest := by
        by_cases h : mark ∈ rest
        · exact h
        · simp [ih.2 h] at hrest
      simp [this]

theorem splitLast_append {mark : Char} (before : List Char) {after : List Char} (h : mark ∉ after) :
    splitLast mark (before ++ mark :: after) = some (before, after) := by
  induction before with
  | nil => simp [splitLast, splitLast_eq_none.2 h]
  | cons c rest ih => simp [splitLast, ih]

/-- A value for a socket. -/
structure Assignment where
  target : Link
  value : Value

/-- How an assignment is written. -/
def Assignment.text (a : Assignment) : String :=
  a.target.node ++ "." ++ a.target.socket ++ "=" ++ Json.compact a.value

/-- Why a text assigns nothing. -/
inductive AssignmentFailure
  | noValue (text : String)
  | noSocket (target : String)
  deriving DecidableEq

def AssignmentFailure.text : AssignmentFailure → String
  | .noValue text => "expected node.socket=value, got '" ++ text ++ "'"
  | .noSocket target => "expected node.socket before '=', got '" ++ target ++ "'"

namespace Assignment

/-- A value as it is written on the command line: JSON, or else any text for itself. -/
def parseValue (cs : List Char) : Value :=
  (Json.read (String.ofList cs)).getD (.string (String.ofList cs))

/-- Read an assignment. The value starts after the first equals sign, and the socket after the last
dot before it. -/
def parse (text : String) : Except AssignmentFailure Assignment :=
  match splitFirst '=' text.toList with
  | none => .error (.noValue text)
  | some (target, value) =>
    match splitLast '.' target with
    | none => .error (.noSocket (String.ofList target))
    | some (node, socket) =>
      .ok ⟨⟨String.ofList node, String.ofList socket⟩, parseValue value⟩

/-- Set the value of an assignment. -/
def apply (m : ValueMap) (a : Assignment) : ValueMap := m.add a.target.node a.target.socket a.value

end Assignment

/-- The values of some assignments; the last one for a socket counts. -/
def parseAssignments (texts : List String) : Except AssignmentFailure ValueMap :=
  (texts.mapM Assignment.parse).map fun as => as.foldl Assignment.apply .empty

end SocketGraph.CommandLine
