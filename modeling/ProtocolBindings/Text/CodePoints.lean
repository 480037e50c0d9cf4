/-!
# Sets of code points

A character class of the Unicode standard is written as the list of its ranges in ascending
order.  Because the order is ascending, a search may stop at the first range that lies above
the code point it looks for.
-/

namespace ProtocolBindings.Text

/-- Closed ranges of code points, in ascending order and apart from each other. -/
abbrev CodePoints := List (Nat × Nat)

def CodePoints.contains : CodePoints → Nat → Bool
  | [], _ => false
  | (first, last) :: rest, n =>
    if n < first then false else n ≤ last || CodePoints.contains rest n

end ProtocolBindings.Text
