import SocketGraph.Document.Yaml.Position

/-! The blanks and line breaks between the words of a scalar. Inside a scalar one line break stands
for a space, and several for all but the first. -/
namespace SocketGraph.Yaml

/-- What parts two words: blanks on one line, or line breaks and blanks of which only the breaks
count. The first break is missing if it was escaped. Both lists hold the latest first. -/
inductive Gap
  | blanks (cs : List Char)
  | lines (first : Option Char) (more : List Char)

namespace Gap

def empty : Gap := .blanks []

def spansLines : Gap → Bool
  | .blanks _ => false
  | .lines _ _ => true

def addBlank (c : Char) : Gap → Gap
  | .blanks cs => .blanks (c :: cs)
  | gap => gap

def addBreak (c : Char) : Gap → Gap
  | .blanks _ => .lines (some c) []
  | .lines first more => .lines first (c :: more)

/-- The characters that a gap between two words stands for. -/
def fold : Gap → List Char
  | .blanks cs => cs.reverse
  | .lines (some '\n') [] => [' ']
  | .lines (some '\n') more => more.reverse
  | .lines first more => first.toList ++ more.reverse

/-- Go on with a gap up to the next word. A tab may not indent a line that needs more columns. -/
def read (least : Nat) : Gap → Position → List Char → Option (Gap × Position × List Char)
  | gap, p, '\r' :: '\n' :: rest => read least (gap.addBreak '\n') (p.nextLine 2) rest
  | gap, p, c :: rest =>
    if isBlank c then
      if gap.spansLines && c == '\t' && decide (p.column < least) then none
      else read least (gap.addBlank c) (p.after 1) rest
    else if isBreak c then read least (gap.addBreak (readBreak c)) (p.nextLine 1) rest
    else some (gap, p, c :: rest)
  | gap, p, [] => some (gap, p, [])

example : (empty.addBreak '\n').fold = [' '] := by decide
example : ((empty.addBreak '\n').addBreak '\n').fold = ['\n'] := by decide

end Gap
end SocketGraph.Yaml
