import SocketGraph.Document.Yaml.Scalar

/-! The tokens of a YAML text. Indentation becomes tokens of its own: the start of a block
collection, in front of its first item, and the end of it. A colon shows only afterwards that what
stands before it was a key, so the places where a key may have started are kept in mind; a key is on
one line and has at most 1024 characters. Of the scalars there are plain and quoted ones; a text
with anchors, tags or block scalars has no tokens. -/
namespace SocketGraph.Yaml

/-- A token. -/
inductive Token
  | blockSequence
  | blockMapping
  | blockEnd
  | entry
  | key
  | mapped
  | openSequence
  | closeSequence
  | openMapping
  | closeMapping
  | comma
  | documentStart
  | documentEnd
  | version (major minor : Nat)
  | plain (text : String)
  | quoted (text : String)
  deriving DecidableEq

/-- A place where a key may have started, with the number of tokens before it. Where a block mapping
goes on there must be a key. -/
structure KeyStart where
  position : Position
  tokens : Nat
  required : Bool

/-- How long a key may be. -/
def keyLimit : Nat := 1024

/-- Whether no key that ends here can have started there. -/
def KeyStart.isOver (k : KeyStart) (p : Position) : Bool :=
  decide (k.position.line < p.line) || decide (k.position.index + keyLimit < p.index)

/-- What has been read of a text: the place and the rest, the tokens so far, the latest first, with
their number, the columns of the open block collections, the innermost first, and where a key may
have started: since the innermost open bracket and before each of the open brackets. -/
structure Layout where
  position : Position
  rest : List Char
  tokens : List Token
  count : Nat
  columns : List Nat
  key : Option KeyStart
  outer : List (Option KeyStart)
  keyAllowed : Bool

namespace Layout

def ofText (cs : List Char) : Layout := ⟨.start, cs, [], 0, [], none, [], true⟩

/-- Whether a bracket is open. -/
def inFlow (l : Layout) : Bool := !l.outer.isEmpty

/-- The column of the innermost open block collection. -/
def indent (l : Layout) : Int := (l.columns.head?.map fun (c : Nat) => (c : Int)).getD (-1)

/-- Pass over some characters of a line. -/
def skip (width : Nat) (l : Layout) : Layout :=
  { l with position := l.position.after width, rest := l.rest.drop width }

def add (token : Token) (l : Layout) : Layout :=
  { l with tokens := token :: l.tokens, count := l.count + 1 }

/-- Put a token behind the first `place` tokens. -/
def insert (place : Nat) (token : Token) (l : Layout) : Layout :=
  { l with tokens := l.tokens.insertIdx (l.count - place) token, count := l.count + 1 }

/-- Start a block collection in a column that is right of the innermost one. Between brackets there
are none. -/
def openBlock (token : Token) (column place : Nat) (l : Layout) : Layout :=
  if l.inFlow || decide ((column : Int) ≤ l.indent) then l
  else { l.insert place token with columns := column :: l.columns }

/-- End the block collections right of a column. -/
def closeBlocks (column : Int) (l : Layout) : Layout :=
  if l.inFlow then l
  else
    let columns := l.columns.dropWhile fun (c : Nat) => decide (column < c)
    let closed := l.columns.length - columns.length
    { l with
      columns
      tokens := List.replicate closed .blockEnd ++ l.tokens
      count := l.count + closed }

/-- Give up the latest key start if it is over; then it may not be required. The others are looked
at when their bracket is closed. -/
def dropOver (l : Layout) : Option Layout :=
  match l.key with
  | none => some l
  | some k =>
    if !k.isOver l.position then some l
    else if k.required then none
    else some { l with key := none }

/-- Give up the latest key start, which may not be required. -/
def dropKey (l : Layout) : Option Layout :=
  if l.key.any KeyStart.required then none else some { l with key := none }

/-- Remember that a key may start here, if one is allowed. -/
def noteKey (l : Layout) : Option Layout :=
  if l.keyAllowed then do
    let l ← l.dropKey
    pure { l with
      key := some ⟨l.position, l.count, !l.inFlow && l.indent == (l.position.column : Int)⟩ }
  else some l

/-! Each of the following reads one token. -/

/-- Three dashes or dots end all block collections. -/
def readDocumentMark (token : Token) (l : Layout) : Option Layout := do
  let l ← (l.closeBlocks (-1)).dropKey
  pure (({ l with keyAllowed := false }.add token).skip 3)

def readOpening (token : Token) (l : Layout) : Option Layout := do
  let l ← l.noteKey
  pure (({ l with outer := l.key :: l.outer, key := none, keyAllowed := true }.add token).skip 1)

def readClosing (token : Token) (l : Layout) : Option Layout := do
  let l ← l.dropKey
  pure (({ l with
    key := l.outer.head?.join
    outer := l.outer.tail
    keyAllowed := false }.add token).skip 1)

def readComma (l : Layout) : Option Layout := do
  let l ← l.dropKey
  pure (({ l with keyAllowed := true }.add .comma).skip 1)

/-- A dash starts an item where a key could start. -/
def readEntry (l : Layout) : Option Layout := do
  if !l.inFlow && !l.keyAllowed then none
  else
    let l ← (l.openBlock .blockSequence l.position.column l.count).dropKey
    pure (({ l with keyAllowed := true }.add .entry).skip 1)

/-- A question mark starts a key of any kind. -/
def readKey (l : Layout) : Option Layout := do
  if !l.inFlow && !l.keyAllowed then none
  else
    let l ← (l.openBlock .blockMapping l.position.column l.count).dropKey
    pure (({ l with keyAllowed := !l.inFlow }.add .key).skip 1)

/-- A colon makes a key of what started at the latest key start. -/
def readMapped (l : Layout) : Option Layout :=
  match l.key with
  | some k =>
    let l := (l.insert k.tokens .key).openBlock .blockMapping k.position.column k.tokens
    some (({ l with key := none, keyAllowed := false }.add .mapped).skip 1)
  | none =>
    if !l.inFlow && !l.keyAllowed then none
    else
      let l := l.openBlock .blockMapping l.position.column l.count
      some (({ l with keyAllowed := !l.inFlow }.add .mapped).skip 1)

def readQuoted (fuel : Nat) (quote : Char) (word : List Char → Option Word) (l : Layout) :
    Option Layout := do
  let l ← l.noteKey
  let (text, position, rest) ← quotedText quote word fuel [] (l.position.after 1) (l.rest.drop 1)
  pure ({ l with position, rest, keyAllowed := false }.add (.quoted text))

/-- A plain scalar goes on over lines that are indented. Behind its last line a key may start. -/
def readPlain (fuel : Nat) (l : Layout) : Option Layout := do
  let l ← l.noteKey
  let (text, keyAllowed, position, rest) ←
    plainText l.inFlow (l.indent + 1).toNat fuel [] .empty l.position l.rest
  pure ({ l with position, rest, keyAllowed }.add (.plain text))

def isDirectiveCharacter (c : Char) : Bool := c.isAlphanum || c == '-' || c == '_'

/-- A number of a version, at most nine digits long. -/
def versionNumber? (cs : List Char) : Option (Nat × List Char) := do
  let digits := cs.takeWhile Char.isDigit
  if 9 < digits.length then none
  else
    let n ← Text.digitsValue? 10 digits
    pure (n, cs.dropWhile Char.isDigit)

/-- A percent sign starts a directive, which takes up a line. Only the version can be given. -/
def readDirective (l : Layout) : Option Layout := do
  let l ← (l.closeBlocks (-1)).dropKey
  let cs := l.rest.drop 1
  let value := cs.dropWhile isDirectiveCharacter
  if cs.takeWhile isDirectiveCharacter ≠ ['Y', 'A', 'M', 'L'] || !atGap value then none
  else
    let (major, rest) ← versionNumber? (value.dropWhile isBlank)
    match rest with
    | '.' :: rest =>
      let (minor, rest) ← versionNumber? rest
      let rest := rest.dropWhile isBlank
      let rest := if rest.head? == some '#' then rest.dropWhile (!isBreak ·) else rest
      let position := l.position.after (l.rest.length - rest.length)
      let l := { l.add (.version major minor) with keyAllowed := false }
      match rest with
      | [] => pure { l with position, rest }
      | rest =>
        let (width, rest) ← lineBreak? rest
        pure { l with position := position.nextLine width, rest }
    | _ => none

/-- The token at the next character of a text, which is neither blank nor a line break. -/
def readToken (fuel : Nat) (l : Layout) : Option Layout :=
  match l.rest with
  | [] => none
  | c :: rest =>
    if l.position.column == 0 && c == '%' then l.readDirective
    else if isDocumentMark l.position l.rest then
      l.readDocumentMark (if c == '-' then .documentStart else .documentEnd)
    else if c == '-' && atGap rest then l.readEntry
    else if c == '?' && (l.inFlow || atGap rest) then l.readKey
    else if c == ':' && (l.inFlow || atGap rest) then l.readMapped
    else if startsPlain l.inFlow l.rest then l.readPlain fuel
    else
      match c with
      | '[' => l.readOpening .openSequence
      | '\x7b' => l.readOpening .openMapping
      | ']' => l.readClosing .closeSequence
      | '\x7d' => l.readClosing .closeMapping
      | ',' => l.readComma
      | '"' => l.readQuoted fuel '"' doubleWord
      | '\'' => l.readQuoted fuel '\'' singleWord
      | _ => none

end Layout

/-- Pass over blanks, comments and line breaks, given whether this is a comment and whether a key
may start. Outside of brackets a key may start on each new line, and where one may start a tab may
not stand. A byte order mark at the start of a line takes up a column. -/
def skipToToken (inFlow : Bool) :
    Bool → Bool → Position → List Char → Bool × Position × List Char
  | _, keyAllowed, p, '\r' :: '\n' :: rest =>
    skipToToken inFlow false (keyAllowed || !inFlow) (p.nextLine 2) rest
  | comment, keyAllowed, p, c :: rest =>
    if isBreak c then skipToToken inFlow false (keyAllowed || !inFlow) (p.nextLine 1) rest
    else if comment || c == '#' then skipToToken inFlow true keyAllowed (p.after 1) rest
    else if c == ' ' || c == '\t' && (inFlow || !keyAllowed) ||
        isByteOrderMark c && p.column == 0 then
      skipToToken inFlow false keyAllowed (p.after 1) rest
    else (keyAllowed, p, c :: rest)
  | _, keyAllowed, p, [] => (keyAllowed, p, [])

/-- The tokens of what is left of a text. -/
def Layout.readTokens : Nat → Layout → Option (List Token)
  | 0, _ => none
  | fuel + 1, l => do
    let (keyAllowed, position, rest) :=
      skipToToken l.inFlow false l.keyAllowed l.position l.rest
    let l ← dropOver { l with keyAllowed, position, rest }
    let l := l.closeBlocks position.column
    match rest with
    | [] =>
      let l ← (l.closeBlocks (-1)).dropKey
      pure l.tokens.reverse
    | _ => readTokens fuel (← l.readToken fuel)

/-- The tokens of a text. -/
def tokens (s : String) : Option (List Token) :=
  let cs := s.toList
  if cs.all isAllowed then (Layout.ofText cs).readTokens (cs.length + 2) else none

end SocketGraph.Yaml
