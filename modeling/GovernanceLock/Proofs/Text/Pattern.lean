import Mathlib.Data.List.Basic

/-!
This module contains patterns for the front of a text as the ways to match it, in the order in which
a matcher that backtracks tries them: the first way that lets the rest of the pattern match is the one
that counts.
-/

namespace GovernanceLock.Text

/--
The ways to take a part from the front of a text, the preferred one first, each with what is left.
-/
abbrev Pattern := List Char → List (List Char × List Char)

namespace Pattern

def exactly (part : List Char) : Pattern :=
  fun cs => if part <+: cs then [(part, cs.drop part.length)] else []

def either (s t : Pattern) : Pattern :=
  fun cs => s cs ++ t cs

def optional (s : Pattern) : Pattern :=
  s.either (exactly [])

def Takes (s : Pattern) (P : List Char → Prop) : Prop :=
  ∀ cs taken rest, (taken, rest) ∈ s cs ↔ cs = taken ++ rest ∧ P taken

variable {p : Char → Bool} {s t : Pattern} {P Q R : List Char → Prop}
  {cs taken rest : List Char}

theorem Takes.congr (hs : Takes s P) (h : ∀ taken, P taken ↔ Q taken) : Takes s Q := by
  intro cs taken rest
  rw [hs, h]

theorem takes_exactly (part : List Char) : Takes (exactly part) (· = part) := by
  intro cs taken rest
  unfold exactly
  split
  · next h =>
    rcases h with ⟨behind, rfl⟩
    rw [List.mem_singleton, Prod.mk.injEq, List.drop_left]
    constructor
    · rintro ⟨rfl, rfl⟩
      exact ⟨rfl, rfl⟩
    · rintro ⟨heq, rfl⟩
      exact ⟨rfl, (List.append_cancel_left heq).symm⟩
  · next h =>
    constructor
    · rintro ⟨⟩
    · rintro ⟨rfl, rfl⟩
      exact absurd (List.prefix_append taken rest) h

theorem Takes.either (hs : Takes s P) (ht : Takes t Q) :
    Takes (s.either t) fun taken => P taken ∨ Q taken := by
  intro cs taken rest
  unfold Pattern.either
  rw [List.mem_append, hs, ht, and_or_left]

theorem Takes.optional (hs : Takes s P) : Takes (optional s) fun taken => P taken ∨ taken = [] :=
  hs.either (takes_exactly [])

section

variable {before group behind : Pattern}

end

end Pattern

end GovernanceLock.Text
