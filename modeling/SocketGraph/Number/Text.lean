import SocketGraph.Number.Binary64

/-! Decimal texts of floating-point numbers: digits with an optional decimal point and an optional
exponent, rounded once to the nearest number. -/
namespace SocketGraph.Binary64

/-- The digits at the start of a text, and what follows them. -/
def leadingDigits (cs : List Char) : List Char × List Char :=
  (cs.takeWhile Char.isDigit, cs.dropWhile Char.isDigit)

/-- The number that digits stand for. -/
def digitsValue (ds : List Char) : Nat := ds.foldl (fun n c => n * 10 + (c.toNat - '0'.toNat)) 0

/-- The exponent that is the whole of a text. -/
def exponentOf? (cs : List Char) : Option Int :=
  match cs with
  | '-' :: ds => if ds ≠ [] ∧ ds.all Char.isDigit then some (-digitsValue ds) else none
  | '+' :: ds => if ds ≠ [] ∧ ds.all Char.isDigit then some (digitsValue ds) else none
  | ds => if ds ≠ [] ∧ ds.all Char.isDigit then some (digitsValue ds) else none

/-- The decimal that is the whole of a text without a sign: its digits as one number, and the
exponent of the last of them. -/
def decimalOf? (cs : List Char) : Option (Nat × Int) :=
  let (whole, rest) := leadingDigits cs
  let (fraction, rest) :=
    match rest with
    | '.' :: rest => leadingDigits rest
    | rest => ([], rest)
  if whole = [] ∧ fraction = [] then none
  else
    let digits := digitsValue (whole ++ fraction)
    match rest with
    | [] => some (digits, -fraction.length)
    | c :: rest =>
      if c = 'e' ∨ c = 'E' then (exponentOf? rest).map fun e => (digits, e - fraction.length)
      else none

/-- The number nearest to the decimal that is the whole of a text; a minus may stand first. The
inner option is empty if the decimal is too large. -/
def ofText? (cs : List Char) : Option (Option Binary64) :=
  match cs with
  | '-' :: rest => (decimalOf? rest).map fun (digits, e) => ofDecimal true digits e
  | rest => (decimalOf? rest).map fun (digits, e) => ofDecimal false digits e

end SocketGraph.Binary64
