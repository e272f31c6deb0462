/-! Blank characters of text in files. -/
namespace SocketGraph.Text

/-- The white space of Unicode. -/
def isBlank (c : Char) : Bool :=
  let n := c.toNat
  (0x09 ≤ n && n ≤ 0x0d) || n == 0x20 || n == 0x85 || n == 0xa0 || n == 0x1680 ||
    (0x2000 ≤ n && n ≤ 0x200a) || n == 0x2028 || n == 0x2029 || n == 0x202f || n == 0x205f ||
    n == 0x3000

/-- A text without anything but white space. -/
def isBlankText (s : String) : Bool := s.toList.all isBlank

example : "".toList.all isBlank = true := by decide
example : isBlank 'a' = false := by decide

end SocketGraph.Text
