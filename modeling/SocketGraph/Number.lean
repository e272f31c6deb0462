import SocketGraph.Number.Binary64
import SocketGraph.Number.Shortest
import SocketGraph.Number.Word

/-! The numbers of values: integers and binary floating-point numbers, with their written form.
An integer and a floating-point number are never equal. -/
namespace SocketGraph

/-- Where a floating-point number is written without an exponent: by the place of its decimal point
counted from its first digit. -/
structure FloatStyle where
  positional : Int → Bool

/-- Numbers are written positionally from 1e-5 up to, not including, 1e16. -/
def FloatStyle.compact : FloatStyle := ⟨fun point => decide (-5 < point ∧ point ≤ 16)⟩

namespace Binary64

def zeros (n : Nat) : String := String.ofList (List.replicate n '0')

/-- Digits with the decimal point after the given place, at least one digit on both sides. -/
def positionalText (digits : List Char) (point : Int) : String :=
  if point ≤ 0 then "0." ++ zeros (-point).toNat ++ String.ofList digits
  else
    let place := point.toNat
    if digits.length ≤ place then String.ofList digits ++ zeros (place - digits.length) ++ ".0"
    else String.ofList (digits.take place) ++ "." ++ String.ofList (digits.drop place)

/-- One digit before the decimal point, and the exponent with its sign. -/
def exponentText (digits : List Char) (point : Int) : String :=
  let exponent := point - 1
  let mark := if exponent < 0 then "e-" else "e+"
  let mantissa :=
    match digits with
    | [] => "0"
    | [d] => String.ofList [d]
    | d :: rest => String.ofList (d :: '.' :: rest)
  mantissa ++ mark ++ toString exponent.natAbs

/-- The shortest text that reads back, in a given style. -/
def text (style : FloatStyle) (x : Binary64) : String :=
  let d := x.shortest
  let digits := Nat.toDigits 10 d.digits
  let point := d.exponent + digits.length
  let body :=
    if style.positional point then positionalText digits point else exponentText digits point
  if x.negative then "-" ++ body else body

end Binary64

/-- A number of a value. -/
inductive Number
  | integer (n : Int)
  | float (x : Binary64)
  deriving DecidableEq, Inhabited

namespace Number

/-- Numeric equality within one kind. -/
def agrees : Number → Number → Bool
  | .integer a, .integer b => a == b
  | .float a, .float b => a.agrees b
  | _, _ => false

/-- The written form of a number in a value. -/
def text : Number → String
  | .integer n => toString n
  | .float x => x.text .compact

end Number
end SocketGraph
