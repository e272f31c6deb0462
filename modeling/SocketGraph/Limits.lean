/-! How deep evaluations may be nested and how far a signal may travel. -/
namespace SocketGraph

/-- The nesting at which evaluation is refused, and the number of levels a signal may reach. -/
structure Limits where
  recursionDepth : Nat
  signalLevels : Nat
  deriving DecidableEq

namespace Limits

def standard : Limits := ⟨20, 1024⟩

/-- How many evaluations may be nested in each other. -/
def allowance (l : Limits) : Nat := l.recursionDepth - 1

end Limits
end SocketGraph
