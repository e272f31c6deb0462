import SocketGraph.Document
import SocketGraph.Number.Text
import SocketGraph.Text.Digits

/-! Keys and scalars of TOML: strings on one line, integers, floating-point numbers and truth
values. -/
namespace SocketGraph.Toml

def skipBlank (cs : List Char) : List Char := cs.dropWhile fun c => c == ' ' || c == '\t'

/-- The characters that strings and comments may hold: no control characters but the tab. -/
def isTextCharacter (c : Char) : Bool := c == '\t' || (0x20 ≤ c.toNat && c.toNat != 0x7f)

/-! Strings. -/

/-- What one letter after a backslash stands for. -/
def escape? : Char → Option Char
  | 'b' => some '\x08'
  | 't' => some '\t'
  | 'n' => some '\n'
  | 'f' => some '\x0c'
  | 'r' => some '\r'
  | '"' => some '"'
  | '\\' => some '\\'
  | _ => none

/-- A string with escapes after its opening quote. -/
def basicString : List Char → Option (List Char × List Char)
  | [] => none
  | '"' :: rest => some ([], rest)
  | '\\' :: 'u' :: a :: b :: c :: d :: rest => do
    let c ← Text.codeCharacter? [a, b, c, d]
    (basicString rest).map fun (cs, rest) => (c :: cs, rest)
  | '\\' :: 'U' :: a :: b :: c :: d :: e :: f :: g :: h :: rest => do
    let c ← Text.codeCharacter? [a, b, c, d, e, f, g, h]
    (basicString rest).map fun (cs, rest) => (c :: cs, rest)
  | '\\' :: e :: rest => do
    let c ← escape? e
    (basicString rest).map fun (cs, rest) => (c :: cs, rest)
  | c :: rest =>
    if c == '\\' || !isTextCharacter c then none
    else (basicString rest).map fun (cs, rest) => (c :: cs, rest)

/-- A string without escapes after its opening quote. -/
def literalString : List Char → Option (List Char × List Char)
  | [] => none
  | c :: rest =>
    if c == '\'' then some ([], rest)
    else if isTextCharacter c then (literalString rest).map fun (cs, rest) => (c :: cs, rest)
    else none

/-! Keys. -/

def isBareKeyCharacter (c : Char) : Bool := c.isAlphanum || c == '-' || c == '_'

/-- A key without dots outside of quotes. -/
def simpleKey : List Char → Option (String × List Char)
  | '"' :: rest => (basicString rest).map fun (cs, rest) => (String.ofList cs, rest)
  | '\'' :: rest => (literalString rest).map fun (cs, rest) => (String.ofList cs, rest)
  | cs =>
    match cs.takeWhile isBareKeyCharacter with
    | [] => none
    | key => some (String.ofList key, cs.dropWhile isBareKeyCharacter)

/-- Keys with dots between them, at most so many, and the blanks around them. -/
def keyPath : Nat → List Char → Option (List String × List Char)
  | 0, _ => none
  | limit + 1, cs => do
    let (key, rest) ← simpleKey (skipBlank cs)
    match skipBlank rest with
    | '.' :: rest =>
      let (path, rest) ← keyPath limit rest
      pure (key :: path, rest)
    | rest => pure ([key], rest)

/-! Numbers. -/

/-- Digits that go on; one underscore may stand before each of them. -/
def moreDigits (base : Nat) : List Char → List Char × List Char
  | [] => ([], [])
  | '_' :: c :: rest =>
    if (Text.digitValue? base c).isSome then
      let (ds, rest) := moreDigits base rest
      (c :: ds, rest)
    else ([], '_' :: c :: rest)
  | c :: rest =>
    if (Text.digitValue? base c).isSome then
      let (ds, rest) := moreDigits base rest
      (c :: ds, rest)
    else ([], c :: rest)

/-- Digits, at least one. -/
def someDigits (base : Nat) : List Char → Option (List Char × List Char)
  | [] => none
  | c :: rest =>
    if (Text.digitValue? base c).isSome then
      let (ds, rest) := moreDigits base rest
      some (c :: ds, rest)
    else none

/-- The digits before a decimal point: a zero alone, or digits that start with no zero. -/
def wholeDigits : List Char → Option (List Char × List Char)
  | '0' :: rest => some (['0'], rest)
  | cs => someDigits 10 cs

def fractionDigits : List Char → Option (Option (List Char) × List Char)
  | '.' :: rest => (someDigits 10 rest).map fun (ds, rest) => (some ds, rest)
  | cs => some (none, cs)

/-- An exponent after its sign. -/
def exponentValue (negative : Bool) (cs : List Char) : Option (Option Int × List Char) := do
  let (ds, rest) ← someDigits 10 cs
  let n : Int := Binary64.digitsValue ds
  pure (some (if negative then -n else n), rest)

def exponent : List Char → Option (Option Int × List Char)
  | [] => some (none, [])
  | c :: rest =>
    if c == 'e' || c == 'E' then
      match rest with
      | '+' :: rest => exponentValue false rest
      | '-' :: rest => exponentValue true rest
      | rest => exponentValue false rest
    else some (none, c :: rest)

/-- An integer, which must fit into a word with its sign. -/
def integer? (n : Int) : Option Document :=
  if isSigned n then some (.bare (.int n)) else none

/-- What is infinite or no number is written like one and stands for the value null. -/
def notFinite : Document := .scalar ⟨some .null, none, .given⟩

/-- A number in base ten after its sign. Only below zero may it be too large to be finite. -/
def decimal (negative : Bool) (cs : List Char) : Option (Document × List Char) := do
  let (whole, rest) ← wholeDigits cs
  let (fraction, rest) ← fractionDigits rest
  let (exponent, rest) ← exponent rest
  if fraction.isNone && exponent.isNone then
    let n : Int := Binary64.digitsValue whole
    let d ← integer? (if negative then -n else n)
    pure (d, rest)
  else
    let ds := fraction.getD []
    match Binary64.ofDecimal negative (Binary64.digitsValue (whole ++ ds))
        (exponent.getD 0 - ds.length) with
    | some x => pure (.bare (.number (.float x)), rest)
    | none => if negative then pure (notFinite, rest) else none

def basedInteger (base : Nat) (cs : List Char) : Option (Document × List Char) := do
  let (ds, rest) ← someDigits base cs
  let n ← Text.digitsValue? base ds
  let d ← integer? n
  pure (d, rest)

/-- A number after its sign. -/
def unsignedNumber (negative : Bool) : List Char → Option (Document × List Char)
  | 'i' :: 'n' :: 'f' :: rest => some (notFinite, rest)
  | 'n' :: 'a' :: 'n' :: rest => some (notFinite, rest)
  | cs => decimal negative cs

def number : List Char → Option (Document × List Char)
  | '0' :: 'x' :: rest => basedInteger 16 rest
  | '0' :: 'o' :: rest => basedInteger 8 rest
  | '0' :: 'b' :: rest => basedInteger 2 rest
  | '+' :: rest => unsignedNumber false rest
  | '-' :: rest => unsignedNumber true rest
  | cs => unsignedNumber false cs

/-- A scalar at the start of a text. -/
def scalar : List Char → Option (Document × List Char)
  | '"' :: rest => (basicString rest).map fun (cs, rest) => (.text (String.ofList cs), rest)
  | '\'' :: rest => (literalString rest).map fun (cs, rest) => (.text (String.ofList cs), rest)
  | 't' :: 'r' :: 'u' :: 'e' :: rest => some (.bare (.bool true), rest)
  | 'f' :: 'a' :: 'l' :: 's' :: 'e' :: rest => some (.bare (.bool false), rest)
  | cs => number cs

end SocketGraph.Toml
