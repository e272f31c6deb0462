import SocketGraph.Number.Binary64

/-! The shortest decimal that reads back as a given binary number. Decimals of one digit are tried
first, then of two, up to seventeen; on each grid only the two neighbours of the exact value can be
the nearest decimal, so these two are tested against the interval that rounds to the number. -/
namespace SocketGraph.Binary64

/-- A decimal `digits · 10^exponent` without a sign. -/
structure Decimal where
  digits : Nat
  exponent : Int
  deriving DecidableEq

namespace Decimal

/-- The numerator and denominator. -/
def quotient (x : Decimal) : Nat × Nat :=
  if x.exponent < 0 then (x.digits, Nat.pow 10 (-x.exponent).toNat)
  else (x.digits * Nat.pow 10 x.exponent.toNat, 1)

/-- Remove zeros from the end of the digits, `fuel` at most. -/
def trim : Nat → Decimal → Decimal
  | 0, x => x
  | fuel + 1, x =>
    if x.digits ≠ 0 ∧ x.digits % 10 = 0 then trim fuel ⟨x.digits / 10, x.exponent + 1⟩ else x

end Decimal

/-- Four times the lower end, the value and the upper end of the reals that round to a positive
number, over a common denominator. Below a power of two the numbers lie twice as close. -/
def interval (x : Binary64) : Nat × Nat × Nat × Nat :=
  let below := if x.significand = Nat.pow 2 52 ∧ leastExponent < x.exponent then 1 else 2
  let m := 4 * x.significand
  if x.exponent < 0 then (m - below, m, m + 2, 4 * Nat.pow 2 (-x.exponent).toNat)
  else
    let s := Nat.pow 2 x.exponent.toNat
    ((m - below) * s, m * s, (m + 2) * s, 4)

/-- Whether a decimal rounds to the number. The ends of the interval round to the even one of two
neighbouring numbers. -/
def accepts (x : Binary64) (d : Decimal) : Bool :=
  let (low, _, high, den) := x.interval
  let (a, b) := d.quotient
  if x.significand % 2 = 0 then low * b ≤ a * den && a * den ≤ high * b
  else low * b < a * den && a * den < high * b

/-- Twice the exact value against the sum of two neighbours on a grid: the nearer one, a tie to the
even digits. -/
def nearer (x : Binary64) (lower upper : Decimal) : Decimal :=
  let (_, value, _, den) := x.interval
  let (a, b) := lower.quotient
  let (c, d) := upper.quotient
  let sum := (a * d + c * b) * den
  let twice := 2 * value * (b * d)
  if twice < sum then lower
  else if sum < twice then upper
  else if lower.digits % 2 = 0 then lower else upper

/-- The nearest acceptable decimal whose last digit counts `10^exponent`. -/
def onGrid? (x : Binary64) (exponent : Int) : Option Decimal :=
  let (_, value, _, den) := x.interval
  let floor :=
    if exponent < 0 then value * Nat.pow 10 (-exponent).toNat / den
    else value / (den * Nat.pow 10 exponent.toNat)
  let lower : Decimal := ⟨floor, exponent⟩
  let upper : Decimal := ⟨floor + 1, exponent⟩
  match x.accepts lower, x.accepts upper with
  | true, true => some (x.nearer lower upper)
  | true, false => some lower
  | false, true => some upper
  | false, false => none

/-- The first acceptable decimal on finer and finer grids. -/
def search (x : Binary64) : Nat → Int → Decimal
  | 0, exponent => ⟨(x.onGrid? exponent).elim 0 Decimal.digits, exponent⟩
  | fuel + 1, exponent =>
    match x.onGrid? exponent with
    | some d => d
    | none => search x fuel (exponent - 1)

/-- An exponent that is at least the one of the leading digit. -/
def leadingExponent (x : Binary64) : Int :=
  let (a, b) := x.quotient
  (((a.log2 : Int) - b.log2 + 1) * 30103).fdiv 100000 + 1

/-- The shortest decimal that reads back as the number, and of those the nearest one. -/
def shortest (x : Binary64) : Decimal :=
  if x.significand = 0 then ⟨0, 0⟩ else (x.search 20 x.leadingExponent).trim 25

example : (⟨false, 1, -1074⟩ : Binary64).shortest = ⟨5, -324⟩ := by decide +kernel
example : (⟨false, Nat.pow 2 52, -52⟩ : Binary64).shortest = ⟨1, 0⟩ := by decide +kernel

end SocketGraph.Binary64
