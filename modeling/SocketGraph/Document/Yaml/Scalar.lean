import SocketGraph.Document.Yaml.Gap
import SocketGraph.Text.Digits

/-! Scalars as they are written: plain, in single quotes or in double quotes, over any number of
lines. Each reader gives the text, the place behind it and the rest. -/
namespace SocketGraph.Yaml

def isFlowMark (c : Char) : Bool :=
  c == ',' || c == '[' || c == ']' || c == '\x7b' || c == '\x7d'

/-- The characters that start something other than a plain scalar. -/
def isIndicator (c : Char) : Bool :=
  isFlowMark c || c == '#' || c == '&' || c == '*' || c == '!' || c == '|' || c == '>' ||
    c == '\'' || c == '"' || c == '%' || c == '@' || c.toNat == 0x60

/-- Whether a plain scalar may start here. -/
def startsPlain (inFlow : Bool) : List Char → Bool
  | [] => false
  | '-' :: rest => !rest.head?.any isBlank
  | c :: rest =>
    if c == '?' || c == ':' then !inFlow && !atGap rest
    else !isIndicator c && !isBlank c && !isBreak c

/-- The characters of a plain scalar up to what ends it or the next gap. Between brackets a colon
may not stand before a bracket. -/
def plainWord (inFlow : Bool) : List Char → Option (List Char × List Char)
  | [] => some ([], [])
  | c :: rest =>
    if isBlank c || isBreak c then some ([], c :: rest)
    else if inFlow && c == ':' && rest.head?.any (fun d => isFlowMark d || d == '?') then none
    else if c == ':' && atGap rest || inFlow && isFlowMark c then some ([], c :: rest)
    else (plainWord inFlow rest).map fun (cs, rest) => (c :: cs, rest)

/-- The text of some pieces, the latest first. -/
def textOfPieces (pieces : List (List Char)) : String := String.ofList pieces.reverse.flatten

/-- A plain scalar whose further lines have at least `least` columns before them, given its pieces
so far, the latest first, and the gap behind them. It also tells whether a line break follows. -/
def plainText (inFlow : Bool) (least : Nat) :
    Nat → List (List Char) → Gap → Position → List Char →
      Option (String × Bool × Position × List Char)
  | 0, _, _, _, _ => none
  | fuel + 1, pieces, gap, p, cs =>
    if isDocumentMark p cs || cs.head? == some '#' then
      some (textOfPieces pieces, gap.spansLines, p, cs)
    else
      match plainWord inFlow cs with
      | none => none
      | some ([], rest) => some (textOfPieces pieces, gap.spansLines, p, rest)
      | some (word, rest) => do
        let pieces := word :: gap.fold :: pieces
        let (gap, p, rest) ← Gap.empty.read least (p.after word.length) rest
        if !inFlow && decide (p.column < least) then
          pure (textOfPieces pieces, gap.spansLines, p, rest)
        else plainText inFlow least fuel pieces gap p rest

/-- What one letter after a backslash stands for. -/
def escape? : Char → Option Char
  | '0' => some '\x00'
  | 'a' => some '\x07'
  | 'b' => some '\x08'
  | 't' | '\t' => some '\t'
  | 'n' => some '\n'
  | 'v' => some '\x0b'
  | 'f' => some '\x0c'
  | 'r' => some '\r'
  | 'e' => some '\x1b'
  | ' ' => some ' '
  | '"' => some '"'
  | '/' => some '/'
  | '\\' => some '\\'
  | 'N' => some (Char.ofNat 0x85)
  | '_' => some (Char.ofNat 0xa0)
  | 'L' => some (Char.ofNat 0x2028)
  | 'P' => some (Char.ofNat 0x2029)
  | _ => none

/-- A word with the number of characters that it was written with, and the rest. -/
abbrev Word := List Char × Nat × List Char

/-- Put a character that was written with some others in front of a word. -/
def Word.cons (c : Char) (width : Nat) (w : Word) : Word := (c :: w.1, width + w.2.1, w.2.2)

/-- A word in double quotes, up to a gap, the closing quote or an escaped line break. -/
def doubleWord : List Char → Option Word
  | [] => some ([], 0, [])
  | '\\' :: 'x' :: a :: b :: rest => do
    let c ← Text.codeCharacter? [a, b]
    (doubleWord rest).map (Word.cons c 4)
  | '\\' :: 'u' :: a :: b :: c :: d :: rest => do
    let c ← Text.codeCharacter? [a, b, c, d]
    (doubleWord rest).map (Word.cons c 6)
  | '\\' :: 'U' :: a :: b :: c :: d :: e :: f :: g :: h :: rest => do
    let c ← Text.codeCharacter? [a, b, c, d, e, f, g, h]
    (doubleWord rest).map (Word.cons c 10)
  | '\\' :: e :: rest =>
    if isBreak e then some ([], 0, '\\' :: e :: rest)
    else do
      let c ← escape? e
      (doubleWord rest).map (Word.cons c 2)
  | c :: rest =>
    if c == '"' || isBlank c || isBreak c then some ([], 0, c :: rest)
    else (doubleWord rest).map (Word.cons c 1)

/-- A word in single quotes, up to a gap or the closing quote; a quote in it is written twice. -/
def singleWord : List Char → Option Word
  | [] => some ([], 0, [])
  | '\'' :: '\'' :: rest => (singleWord rest).map (Word.cons '\'' 2)
  | c :: rest =>
    if c == '\'' || isBlank c || isBreak c then some ([], 0, c :: rest)
    else (singleWord rest).map (Word.cons c 1)

/-- A quoted scalar behind its opening quote, given its pieces so far, the latest first. -/
def quotedText (quote : Char) (word : List Char → Option Word) :
    Nat → List (List Char) → Position → List Char → Option (String × Position × List Char)
  | 0, _, _, _ => none
  | fuel + 1, pieces, p, cs =>
    if isDocumentMark p cs then none
    else do
      let (text, width, rest) ← word cs
      let p := p.after width
      match rest with
      | [] => none
      | c :: more =>
        if c == quote then
          pure (textOfPieces (text :: pieces), p.after 1, more)
        else if c == '\\' then
          let (width, rest) ← lineBreak? more
          let (gap, p, rest) ← (Gap.lines none []).read 0 ((p.after 1).nextLine width) rest
          quotedText quote word fuel (gap.fold :: text :: pieces) p rest
        else
          let (gap, p, rest) ← Gap.empty.read 0 p (c :: more)
          quotedText quote word fuel (gap.fold :: text :: pieces) p rest

example : (plainWord true ['a', ':', 'b', ',']).map Prod.fst = some ['a', ':', 'b'] := by decide
example : (doubleWord ['\\', 'x', '4', '1', '"']).map Prod.fst = some ['A'] := by decide
example : (singleWord ['a', '\'', '\'', '\'']).map Prod.fst = some ['a', '\''] := by decide

end SocketGraph.Yaml
