/-! Digits in bases up to sixteen, and characters written as hexadecimal codes. -/
namespace SocketGraph.Text

/-- The value of a digit in a base up to sixteen. -/
def digitValue? (base : Nat) (c : Char) : Option Nat :=
  let n :=
    if c.isDigit then c.toNat - '0'.toNat
    else if 'a' ≤ c ∧ c ≤ 'f' then c.toNat - 'a'.toNat + 10
    else if 'A' ≤ c ∧ c ≤ 'F' then c.toNat - 'A'.toNat + 10
    else base
  if n < base then some n else none

/-- The number of some digits, at least one. -/
def digitsValue? (base : Nat) : List Char → Option Nat
  | [] => none
  | cs => cs.foldlM (fun n c => (digitValue? base c).map (n * base + ·)) 0

/-- The character of a hexadecimal code; the codes of surrogates have none. -/
def codeCharacter? (digits : List Char) : Option Char := do
  let n ← digitsValue? 16 digits
  if 0xd800 ≤ n ∧ n < 0xe000 ∨ 0x10ffff < n then none else some (Char.ofNat n)

example : digitsValue? 16 ['f', '0'] = some 240 := by decide
example : digitsValue? 8 ['8'] = none := by decide
example : codeCharacter? ['d', '8', '0', '0'] = none := by decide

end SocketGraph.Text
