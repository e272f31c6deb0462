import SocketGraph.Document
import SocketGraph.Number.Text
import SocketGraph.Text.Digits

/-! What a plain scalar of YAML stands for: null, a truth value, a number or its own text. -/
namespace SocketGraph.Yaml

def nullWords : List String := ["null", "Null", "NULL", "~"]

def trueWords : List String := ["true", "True", "TRUE"]

def falseWords : List String := ["false", "False", "FALSE"]

/-- Several digits that start with a zero are a text. -/
def isPadded : List Char → Bool
  | '0' :: c :: rest => (c :: rest).all Char.isDigit
  | _ => false

/-- A magnitude in base sixteen, eight, two or ten. -/
def magnitude? (cs : List Char) : Option Nat :=
  let based :=
    match cs with
    | '0' :: 'x' :: ds => Text.digitsValue? 16 ds
    | '0' :: 'o' :: ds => Text.digitsValue? 8 ds
    | '0' :: 'b' :: ds => Text.digitsValue? 2 ds
    | _ => none
  match based with
  | some n => some n
  | none => if isPadded cs then none else Text.digitsValue? 10 cs

/-- An integer with an optional sign. -/
def integer? : List Char → Option Int
  | '+' :: cs => (magnitude? cs).map fun n => (n : Int)
  | '-' :: cs => (magnitude? cs).map fun n => -(n : Int)
  | cs => (magnitude? cs).map fun n => (n : Int)

def withoutSign : List Char → List Char
  | '+' :: cs | '-' :: cs => cs
  | cs => cs

def infinityWords : List String := [".inf", ".Inf", ".INF"]

def notNumberWords : List String := [".nan", ".NaN", ".NAN"]

/-- A floating-point number; what is infinite or no number stands for null. -/
def float? (s : String) : Option Value :=
  let cs := s.toList
  if String.ofList (withoutSign cs) ∈ infinityWords ∨ s ∈ notNumberWords then some .null
  else if isPadded (withoutSign cs) then none
  else
    let found :=
      match cs with
      | '+' :: '-' :: _ => none
      | '+' :: rest => Binary64.ofText? rest
      | cs => Binary64.ofText? cs
    match found with
    | some (some x) => some (.number (.float x))
    | _ => none

/-- Whether an integer fits into two words, with or without a sign. -/
def isDouble (n : Int) : Bool :=
  -(signedSize * wordSize : Int) ≤ n && n < wordSize * wordSize

/-- Integers of up to two words are integers, but stand for themselves only if they fit into one. -/
def integerValue? (n : Int) : Option (Option Value) :=
  if isSigned n || isUnsigned n then some (some (.int n))
  else if isDouble n then some none
  else none

/-- What a plain scalar stands for, if it stands for anything. -/
def plainValue (s : String) : Option Value :=
  if s ∈ nullWords then some .null
  else if s ∈ trueWords then some (.bool true)
  else if s ∈ falseWords then some (.bool false)
  else
    match (integer? s.toList).bind integerValue? with
    | some v => v
    | none =>
      match float? s with
      | some v => some v
      | none => some (.string s)

/-- The document of a plain scalar; it reads as its text too. -/
def plain (s : String) : Document :=
  .scalar ⟨plainValue s, some s, if s ∈ nullWords then .null else .given⟩

example : plainValue "0x10" = some (.int 16) := by decide +kernel
example : plainValue "012" = some (.string "012") := by decide +kernel
example : plainValue "18446744073709551616" = none := by decide +kernel

end SocketGraph.Yaml
