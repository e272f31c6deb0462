/-! Finite binary floating-point numbers of double width, with exact arithmetic on natural numbers.
A number is the nearest one to the exact rational result of each operation; results that are too
large have no number. -/
namespace SocketGraph

/-- Round the quotient of two natural numbers to the nearest one, a tie to the even neighbour. -/
def roundQuotient (num den : Nat) : Nat :=
  let q := num / den
  let r := num % den
  if 2 * r < den then q
  else if den < 2 * r then q + 1
  else q + q % 2

/-- A finite number `±significand · 2^exponent`. Normal numbers have a significand between `2^52`
and `2^53`; smaller ones have the exponent `-1074`. -/
structure Binary64 where
  negative : Bool
  significand : Nat
  exponent : Int
  deriving DecidableEq, Inhabited

namespace Binary64

def leastExponent : Int := -1074

def greatestExponent : Int := 971

/-- Zero of either sign. -/
def zero (negative : Bool) : Binary64 := ⟨negative, 0, leastExponent⟩

def isZero (x : Binary64) : Bool := x.significand == 0

/-- The numerator and denominator of `num / den · 2^(-e)`. -/
def scale (num den : Nat) (e : Int) : Nat × Nat :=
  if e < 0 then (num * Nat.pow 2 (-e).toNat, den) else (num, den * Nat.pow 2 e.toNat)

/-- The exponent at which a positive quotient has a significand of 53 bits, or the least one. -/
def exponentFor (num den : Nat) : Int :=
  let guess : Int := num.log2 - den.log2 - 52
  let (n, d) := scale num den guess
  max leastExponent (if Nat.pow 2 52 * d ≤ n then guess else guess - 1)

/-- The number nearest to the quotient of two natural numbers, a tie to the even significand.
There is none when it would be too large. -/
def ofQuotient (negative : Bool) (num den : Nat) : Option Binary64 :=
  if num = 0 then some (zero negative)
  else
    let e := exponentFor num den
    let (n, d) := scale num den e
    let m := roundQuotient n d
    let (m, e) := if m = Nat.pow 2 53 then (Nat.pow 2 52, e + 1) else (m, e)
    if greatestExponent < e then none else some ⟨negative, m, e⟩

/-- The numerator and denominator of the absolute value. -/
def quotient (x : Binary64) : Nat × Nat :=
  if x.exponent < 0 then (x.significand, Nat.pow 2 (-x.exponent).toNat)
  else (x.significand * Nat.pow 2 x.exponent.toNat, 1)

/-- The product, rounded to nearest. -/
def mul (x y : Binary64) : Option Binary64 :=
  let (a, b) := x.quotient
  let (c, d) := y.quotient
  ofQuotient (x.negative != y.negative) (a * c) (b * d)

/-- The quotient by a number other than zero, rounded to nearest. -/
def div (x y : Binary64) : Option Binary64 :=
  let (a, b) := x.quotient
  let (c, d) := y.quotient
  ofQuotient (x.negative != y.negative) (a * d) (b * c)

def neg (x : Binary64) : Binary64 := { x with negative := !x.negative }

/-- The number nearest to a natural number. -/
def ofNat (n : Nat) : Option Binary64 := ofQuotient false n 1

/-- The number nearest to `±digits · 10^exponent`. Exponents far outside the range are settled by
the number of digits. -/
def ofDecimal (negative : Bool) (digits : Nat) (exponent : Int) : Option Binary64 :=
  if digits = 0 then some (zero negative)
  else
    let places : Int := exponent + (Nat.toDigits 10 digits).length
    if 310 < places then none
    else if places < -330 then some (zero negative)
    else if exponent < 0 then ofQuotient negative digits (Nat.pow 10 (-exponent).toNat)
    else ofQuotient negative (digits * Nat.pow 10 exponent.toNat) 1

/-- Numeric equality: the two zeros are equal. -/
def agrees (x y : Binary64) : Bool := x == y || (x.isZero && y.isZero)

example : ofNat 1 = some ⟨false, Nat.pow 2 52, -52⟩ := by decide
example : ofQuotient true 0 1 = some (zero true) := by decide
example : ofDecimal false 1 400 = none := by decide
example : agrees (zero true) (zero false) = true := by decide

end Binary64
end SocketGraph
