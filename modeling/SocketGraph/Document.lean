import SocketGraph.Value

/-! Documents as files hold them: trees of scalars, sequences and mappings in the order written.
What a repeated key means is left to the one who reads the document. -/
namespace SocketGraph

/-- Whether a scalar was written, and whether as null. One that was left out may also stand for a
collection without entries. -/
inductive Presence
  | given
  | null
  | omitted
  deriving DecidableEq

/-- A scalar with what it stands for as a value and, where a text is wanted, as a text. A scalar
without a value is well formed but stands for nothing, such as a number out of range; it matters
only to one who reads it. -/
structure Scalar where
  value : Option Value
  text : Option String
  presence : Presence
  deriving DecidableEq

/-- A document. -/
inductive Document
  | scalar (s : Scalar)
  | sequence (items : List Document)
  | mapping (entries : List (String × Document))
  deriving Inhabited

namespace Document

/-- What is found where nothing is written. -/
def blank : Document := .scalar ⟨some .null, some "", .omitted⟩

/-- What stands for nothing. -/
def unusable : Document := .scalar ⟨none, none, .given⟩

/-- A text that stands for nothing but itself. -/
def text (s : String) : Document := .scalar ⟨some (.string s), some s, .given⟩

/-- A value that does not read as a text. -/
def bare (v : Value) : Document := .scalar ⟨some v, none, .given⟩

/-- Null as it is written out. -/
def null : Document := .scalar ⟨some .null, none, .null⟩

mutual
/-- The value of a document, if all of it stands for something. The last of several entries with
one key counts. -/
def value? : Document → Option Value
  | .scalar s => s.value
  | .sequence items => (itemValues? items).map .array
  | .mapping entries => (entryValues? entries).map .record

def itemValues? : List Document → Option (List Value)
  | [] => some []
  | d :: rest => do
    let v ← value? d
    let vs ← itemValues? rest
    pure (v :: vs)

def entryValues? : List (String × Document) → Option (List (String × Value))
  | [] => some []
  | (key, d) :: rest => do
    let v ← value? d
    let vs ← entryValues? rest
    pure ((key, v) :: vs)
end

mutual
/-- A document in which the collections nested deeper than some levels stand for nothing. -/
def withinDepth : Nat → Document → Document
  | _, .scalar s => .scalar s
  | 0, .sequence _ => unusable
  | 0, .mapping _ => unusable
  | levels + 1, .sequence items => .sequence (itemsWithin levels items)
  | levels + 1, .mapping entries => .mapping (entriesWithin levels entries)

def itemsWithin (levels : Nat) : List Document → List Document
  | [] => []
  | d :: rest => withinDepth levels d :: itemsWithin levels rest

def entriesWithin (levels : Nat) : List (String × Document) → List (String × Document)
  | [] => []
  | (key, d) :: rest => (key, withinDepth levels d) :: entriesWithin levels rest
end

end Document
end SocketGraph
