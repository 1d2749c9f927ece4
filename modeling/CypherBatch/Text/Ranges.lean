/-!
# Ranges of code points

A character class of a standard is given as a table of closed ranges of code
points, in ascending order.  This module defines membership in such a table.
-/

namespace CypherBatch
namespace Text

/-- Closed ranges of code points, in ascending order. -/
abbrev Ranges := List (Nat × Nat)

namespace Ranges

def contains : Ranges → Nat → Bool
  | [], _ => false
  | (low, high) :: rest, n =>
      if n < low then false
      else if n ≤ high then true
      else contains rest n

end Ranges

end Text
end CypherBatch
