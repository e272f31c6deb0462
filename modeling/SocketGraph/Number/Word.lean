/-! Words of 64 bits: the integers that fit into one, with and without a sign. -/
namespace SocketGraph

/-- The number of words. -/
def wordSize : Nat := 0x10000000000000000

/-- The first natural number that does not fit into a word with a sign. -/
def signedSize : Nat := 0x8000000000000000

def isSigned (n : Int) : Bool := -(signedSize : Int) ≤ n && n < signedSize

def isUnsigned (n : Int) : Bool := 0 ≤ n && n < wordSize

/-- The sum of two integers as it comes out in a word with a sign. -/
def wrap (n : Int) : Int := n.bmod wordSize

example : wordSize = 2 * signedSize := by decide
example : wrap signedSize = -signedSize := by decide
example : isSigned signedSize = false := by decide

end SocketGraph
