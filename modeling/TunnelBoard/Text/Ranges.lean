/-!
# Sorted ranges

A property of code points is stored as the sorted list of the closed ranges it
holds on.  A look-up stops at the first range that ends at or after the number
it looks for.
-/

namespace TunnelBoard
namespace Text

/-- Closed ranges of numbers, in increasing order and apart from each other. -/
abbrev Ranges := List (Nat × Nat)

namespace Ranges

/-- Whether a number lies in one of the ranges. -/
def contains : Ranges → Nat → Bool
  | [], _ => false
  | (first, last) :: rest, n =>
      if n ≤ last then first ≤ n else contains rest n

end Ranges

end Text
end TunnelBoard
