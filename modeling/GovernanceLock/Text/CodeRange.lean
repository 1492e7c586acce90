/-!
This module contains sets of characters as ranges of code points.
-/

namespace GovernanceLock.Text

abbrev CodeRanges := List (Nat × Nat)

def CodeRanges.contains (ranges : CodeRanges) (c : Char) : Bool :=
  ranges.any fun range => range.1 ≤ c.toNat && c.toNat ≤ range.2

end GovernanceLock.Text
