import SocketGraph.Document
import SocketGraph.Text.Digits

/-! JSON texts. Every number outside the integers of 64 bits becomes a floating-point number; its
digits are gathered in 64 bits, and digits beyond those count only by their place. -/
namespace SocketGraph.Json

def skipBlank (cs : List Char) : List Char :=
  cs.dropWhile fun c => c == ' ' || c == '\t' || c == '\n' || c == '\r'

/-! Strings. -/

/-- A part of a string: a character, or a code unit written in hexadecimal. -/
inductive Piece
  | char (c : Char)
  | unit (n : Nat)

def escaped : Char → Option Char
  | '"' => some '"'
  | '\\' => some '\\'
  | '/' => some '/'
  | 'b' => some '\x08'
  | 'f' => some '\x0c'
  | 'n' => some '\n'
  | 'r' => some '\r'
  | 't' => some '\t'
  | _ => none

/-- The pieces of a string up to its closing quote. -/
def pieces : List Char → Option (List Piece × List Char)
  | [] => none
  | '"' :: rest => some ([], rest)
  | '\\' :: 'u' :: a :: b :: c :: d :: rest => do
    let n ← Text.digitsValue? 16 [a, b, c, d]
    let (ps, rest) ← pieces rest
    pure (.unit n :: ps, rest)
  | '\\' :: e :: rest => do
    let c ← escaped e
    let (ps, rest) ← pieces rest
    pure (.char c :: ps, rest)
  | c :: rest =>
    if c == '\\' || c.toNat < 0x20 then none
    else do
      let (ps, rest) ← pieces rest
      pure (.char c :: ps, rest)

def isHighUnit (n : Nat) : Bool := 0xd800 ≤ n && n < 0xdc00

def isLowUnit (n : Nat) : Bool := 0xdc00 ≤ n && n < 0xe000

/-- The text of the pieces; a code unit of a pair must be next to its partner. -/
def joinPieces : List Piece → Option (List Char)
  | [] => some []
  | .char c :: rest => (joinPieces rest).map (c :: ·)
  | .unit n :: rest =>
    if isHighUnit n then
      match rest with
      | .unit m :: rest =>
        if isLowUnit m then
          (joinPieces rest).map (Char.ofNat (0x10000 + (n - 0xd800) * 0x400 + (m - 0xdc00)) :: ·)
        else none
      | _ => none
    else if isLowUnit n then none
    else (joinPieces rest).map (Char.ofNat n :: ·)

/-- A string after its opening quote. -/
def string (cs : List Char) : Option (Option String × List Char) := do
  let (ps, rest) ← pieces cs
  pure ((joinPieces ps).map String.ofList, rest)

/-! Numbers. -/

/-- The parts of a number: the digits before and after the decimal point, and the exponent. -/
structure NumberText where
  negative : Bool
  whole : List Nat
  fraction : Option (List Nat)
  exponent : Option (Bool × List Nat)

def digits (cs : List Char) : List Nat × List Char :=
  ((cs.takeWhile Char.isDigit).map fun c => c.toNat - '0'.toNat, cs.dropWhile Char.isDigit)

def someDigits (cs : List Char) : Option (List Nat × List Char) :=
  match digits cs with
  | ([], _) => none
  | found => some found

/-- The digits before the decimal point: a zero alone, or digits that start with no zero. -/
def wholeDigits (cs : List Char) : Option (List Nat × List Char) :=
  match digits cs with
  | ([], _) => none
  | (0 :: _ :: _, _) => none
  | found => some found

def fractionDigits : List Char → Option (Option (List Nat) × List Char)
  | '.' :: cs => (someDigits cs).map fun (ds, rest) => (some ds, rest)
  | cs => some (none, cs)

/-- The digits of an exponent after its sign. -/
def signedDigits : List Char → Option ((Bool × List Nat) × List Char)
  | '+' :: cs => (someDigits cs).map fun (ds, rest) => ((false, ds), rest)
  | '-' :: cs => (someDigits cs).map fun (ds, rest) => ((true, ds), rest)
  | cs => (someDigits cs).map fun (ds, rest) => ((false, ds), rest)

def exponentDigits : List Char → Option ((Option (Bool × List Nat)) × List Char)
  | c :: cs =>
    if c == 'e' || c == 'E' then (signedDigits cs).map fun (e, rest) => (some e, rest)
    else some (none, c :: cs)
  | [] => some (none, [])

def numberText (cs : List Char) : Option (NumberText × List Char) := do
  let (negative, cs) := match cs with
    | '-' :: rest => (true, rest)
    | cs => (false, cs)
  let (whole, cs) ← wholeDigits cs
  let (fraction, cs) ← fractionDigits cs
  let (exponent, cs) ← exponentDigits cs
  pure (⟨negative, whole, fraction, exponent⟩, cs)

/-- Gather digits as long as they fit into 64 bits: the number so far and the digits left over. -/
def gather (n : Nat) : List Nat → Nat × List Nat
  | [] => (n, [])
  | d :: rest => if n * 10 + d < wordSize then gather (n * 10 + d) rest else (n, d :: rest)

/-- The number nearest to a power of ten. -/
def powerOfTen (exponent : Nat) : Binary64 :=
  (Binary64.ofQuotient false (Nat.pow 10 exponent) 1).getD (.zero false)

/-- Divide by powers of ten that are numbers themselves; a few such steps reach zero. -/
def divideDown : Nat → Binary64 → Nat → Option Binary64
  | 0, _, _ => some (.zero false)
  | fuel + 1, x, exponent =>
    if x.isZero then some x
    else if exponent ≤ 308 then x.div (powerOfTen exponent)
    else (x.div (powerOfTen 308)).bind fun y => divideDown fuel y (exponent - 308)

/-- Gathered digits times a power of ten, rounded once for the digits and once for each power. -/
def scaled (n : Nat) (exponent : Int) : Option Binary64 := do
  let x ← Binary64.ofNat n
  if exponent < 0 then divideDown 4 x exponent.natAbs
  else if exponent ≤ 308 then x.mul (powerOfTen exponent.toNat)
  else if x.isZero then some x
  else none

/-- The greatest exponent that is not settled by its number of digits alone. -/
def exponentLimit : Nat := 0x7fffffff

/-- The number of a written exponent, kept within its limit. -/
def exponentValue (negative : Bool) (ds : List Nat) : Int :=
  let n := ds.foldl (fun n d => min (n * 10 + d) (exponentLimit + 1)) 0
  if negative then -(n : Int) else n

def withSign (negative : Bool) (x : Binary64) : Binary64 := { x with negative := negative }

/-- The number of its parts, if it is in range. -/
def NumberText.number? (t : NumberText) : Option Number :=
  let (n, dropped) := gather 0 t.whole
  match t.fraction, t.exponent with
  | none, none =>
    if dropped = [] ∧ (!t.negative ∨ (0 < n ∧ n ≤ signedSize)) then
      some (.integer (if t.negative then -n else n))
    else (scaled n dropped.length).map fun x => .float (withSign t.negative x)
  | fraction, exponent =>
    let ds := fraction.getD []
    let (m, ignored) := gather n ds
    let places : Int := (dropped.length : Int) - (ds.length - ignored.length : Nat)
    match exponent with
    | none => (scaled m places).map fun x => .float (withSign t.negative x)
    | some (negative, es) =>
      let e := exponentValue negative es
      if e.natAbs ≤ exponentLimit then
        (scaled m (places + e)).map fun x => .float (withSign t.negative x)
      else if m ≠ 0 ∧ !negative then none
      else some (.float (.zero t.negative))

/-! Values. -/

def word (letters : List Char) (d : Document) (cs : List Char) : Option (Document × List Char) :=
  if letters.isPrefixOf cs then some (d, cs.drop letters.length) else none

/-- Put a member before others; there are none to be used if a key is no text. -/
def consMember (key : Option String) (d : Document) (members : Option (List (String × Document))) :
    Option (List (String × Document)) := do
  let key ← key
  let members ← members
  pure ((key, d) :: members)

def mapping (members : Option (List (String × Document))) : Document :=
  members.elim .unusable Document.mapping

mutual
/-- A value at the start of a text. -/
def document : Nat → List Char → Option (Document × List Char)
  | 0, _ => none
  | fuel + 1, cs =>
    match skipBlank cs with
    | '\x7b' :: rest =>
      match skipBlank rest with
      | '\x7d' :: rest => some (.mapping [], rest)
      | rest => (members fuel rest).map fun (es, rest) => (mapping es, rest)
    | '[' :: rest =>
      match skipBlank rest with
      | ']' :: rest => some (.sequence [], rest)
      | rest => (elements fuel rest).map fun (items, rest) => (.sequence items, rest)
    | '"' :: rest => (string rest).map fun (s, rest) => (s.elim .unusable Document.text, rest)
    | 't' :: rest => word ['r', 'u', 'e'] (.bare (.bool true)) rest
    | 'f' :: rest => word ['a', 'l', 's', 'e'] (.bare (.bool false)) rest
    | 'n' :: rest => word ['u', 'l', 'l'] .null rest
    | cs => (numberText cs).map fun (t, rest) =>
        (t.number?.elim .unusable fun n => .bare (.number n), rest)

/-- The items of an array up to its closing bracket. -/
def elements : Nat → List Char → Option (List Document × List Char)
  | 0, _ => none
  | fuel + 1, cs => do
    let (d, rest) ← document fuel cs
    match skipBlank rest with
    | ',' :: rest =>
      let (ds, rest) ← elements fuel rest
      pure (d :: ds, rest)
    | ']' :: rest => pure ([d], rest)
    | _ => none

/-- The members of an object up to its closing brace. -/
def members : Nat → List Char → Option (Option (List (String × Document)) × List Char)
  | 0, _ => none
  | fuel + 1, cs =>
    match skipBlank cs with
    | '"' :: rest => do
      let (key, rest) ← string rest
      match skipBlank rest with
      | ':' :: rest =>
        let (d, rest) ← document fuel rest
        match skipBlank rest with
        | ',' :: rest =>
          let (es, rest) ← members fuel rest
          pure (consMember key d es, rest)
        | '\x7d' :: rest => pure (consMember key d (some []), rest)
        | _ => none
      | _ => none
    | _ => none
end

/-- The document that is the whole of a text, nested to any depth. -/
def parse (s : String) : Option Document := do
  let cs := s.toList
  let (d, rest) ← document (cs.length + 1) cs
  if skipBlank rest = [] then some d else none

/-- How deep collections may be nested. -/
def nestingLimit : Nat := 127

/-- The document that is the whole of a text. -/
def readDocument (s : String) : Option Document := (parse s).map (·.withinDepth nestingLimit)

/-- The value that is the whole of a text. -/
def read (s : String) : Option Value := (readDocument s).bind Document.value?

example : read "[1,-0,\"\\u0041\"]" =
    some (.array [.int 1, .number (.float (.zero true)), .string "A"]) := by decide +kernel
example : read "01" = none := by decide +kernel
example : read "1e400" = none := by decide +kernel

end SocketGraph.Json
