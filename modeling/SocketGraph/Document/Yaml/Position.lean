/-! Places in a YAML text, and the characters that part what is written there. -/
namespace SocketGraph.Yaml

/-- A place in a text: its line, its column and the number of characters before it, all from zero.
-/
structure Position where
  line : Nat
  column : Nat
  index : Nat
  deriving DecidableEq

namespace Position

def start : Position := ⟨0, 0, 0⟩

/-- The place some characters further on the same line. -/
def after (p : Position) (width : Nat) : Position := ⟨p.line, p.column + width, p.index + width⟩

/-- The start of the next line, behind a line break of some characters. -/
def nextLine (p : Position) (width : Nat) : Position := ⟨p.line + 1, 0, p.index + width⟩

end Position

/-- Line breaks that stand for a plain one. -/
def isPlainBreak (c : Char) : Bool := c == '\n' || c == '\r' || c.toNat == 0x85

/-- Line breaks that are kept as they are. -/
def isKeptBreak (c : Char) : Bool := c.toNat == 0x2028 || c.toNat == 0x2029

def isBreak (c : Char) : Bool := isPlainBreak c || isKeptBreak c

/-- What a line break stands for. -/
def readBreak (c : Char) : Char := if isKeptBreak c then c else '\n'

def isBlank (c : Char) : Bool := c == ' ' || c == '\t'

/-- Whether a text goes on with a blank, a line break or nothing. -/
def atGap : List Char → Bool
  | [] => true
  | c :: _ => isBlank c || isBreak c

/-- The rest of a text behind a line break, with the width of the break. -/
def lineBreak? : List Char → Option (Nat × List Char)
  | '\r' :: '\n' :: rest => some (2, rest)
  | c :: rest => if isBreak c then some (1, rest) else none
  | [] => none

/-- The characters that a text may hold. -/
def isAllowed (c : Char) : Bool :=
  let n := c.toNat
  n == 0x09 || n == 0x0a || n == 0x0d || (0x20 ≤ n && n ≤ 0x7e) || n == 0x85 ||
    (0xa0 ≤ n && n ≤ 0xd7ff) || (0xe000 ≤ n && n ≤ 0xfffd) || 0x10000 ≤ n

def isByteOrderMark (c : Char) : Bool := c.toNat == 0xfeff

/-- Whether a line starts with three dashes or three dots that stand alone. -/
def isDocumentMark (p : Position) (cs : List Char) : Bool :=
  p.column == 0 && (['-', '-', '-'].isPrefixOf cs || ['.', '.', '.'].isPrefixOf cs) &&
    atGap (cs.drop 3)

end SocketGraph.Yaml
