import GovernanceLock.Proofs.Text.Parts
import GovernanceLock.Screening.Basic

/-!
This module contains the statement of what the extension of a path is, told by the text of the path
alone: what stands behind the last point of what stands behind the last slash.
-/

namespace GovernanceLock

namespace Text

def IsLastPart (separator : Char) (cs part : List Char) : Prop :=
  separator ∉ part ∧ (cs = part ∨ ∃ before, cs = before ++ separator :: part)

theorem exists_isLastPart (separator : Char) (cs : List Char) :
    ∃ part, IsLastPart separator cs part := by
  induction cs with
  | nil => exact ⟨[], List.not_mem_nil, .inl rfl⟩
  | cons c cs ih =>
    rcases ih with ⟨part, hpart, rfl | ⟨before, rfl⟩⟩
    · by_cases hc : separator = c
      · subst hc
        exact ⟨cs, hpart, .inr ⟨[], rfl⟩⟩
      · refine ⟨c :: cs, ?_, .inl rfl⟩
        rw [List.mem_cons, not_or]
        exact ⟨hc, hpart⟩
    · exact ⟨part, hpart, .inr ⟨c :: before, rfl⟩⟩

theorem IsLastPart.getLast?_parts {separator : Char} {cs part : List Char}
    (h : IsLastPart separator cs part) : (parts separator cs).getLast? = some part := by
  rcases h with ⟨hpart, rfl | ⟨before, rfl⟩⟩
  · rw [parts_of_not_mem hpart, List.getLast?_singleton]
  · rw [parts_append, parts_of_not_mem hpart, List.getLast?_append, List.getLast?_singleton,
      Option.some_or]

theorem IsLastPart.unique {separator : Char} {cs part part' : List Char}
    (h : IsLastPart separator cs part) (h' : IsLastPart separator cs part') : part = part' := by
  have heq := h.getLast?_parts
  rw [h'.getLast?_parts, Option.some.injEq] at heq
  exact heq.symm

end Text

namespace Screening

/--
The last component of the path ends in a point and `ext`, and there is something before the point
and behind it.
-/
def IsExtension (path : String) (ext : List Char) : Prop :=
  ∃ stem, Text.IsLastPart '/' path.toList (stem ++ '.' :: ext) ∧ '.' ∉ ext ∧ stem ≠ [] ∧ ext ≠ []

theorem hasStem_iff {name ext : List Char} (h : Text.IsLastPart '.' name ext) :
    ext.length + 1 < name.length ↔ ∃ stem, name = stem ++ '.' :: ext ∧ stem ≠ [] := by
  constructor
  · intro hlength
    rcases h.2 with rfl | ⟨stem, rfl⟩
    · omega
    · refine ⟨stem, rfl, ?_⟩
      rintro rfl
      simp at hlength
  · rintro ⟨stem, rfl, hstem⟩
    rw [← List.length_pos_iff] at hstem
    simp only [List.length_append, List.length_cons]
    omega

theorem extension?_eq_some_iff {path s : String} :
    extension? path = some s ↔
      ∃ ext, IsExtension path ext ∧ s = String.ofList (ext.map Text.asciiLower) := by
  rcases Text.exists_isLastPart '/' path.toList with ⟨name, hname⟩
  rcases Text.exists_isLastPart '.' name with ⟨ext, hext⟩
  have hextension : extension? path = if ext.length + 1 < name.length ∧ ¬ ext.isEmpty then
      some (String.ofList (ext.map Text.asciiLower)) else none := by
    unfold extension? ArtifactPath.components
    dsimp only
    rw [hname.getLast?_parts, Option.getD_some, hext.getLast?_parts, Option.getD_some]
  rw [hextension]
  constructor
  · intro h
    split at h
    · next hparts =>
      rw [hasStem_iff hext, List.isEmpty_iff] at hparts
      rcases hparts with ⟨⟨stem, rfl, hstem⟩, hne⟩
      rw [Option.some.injEq] at h
      exact ⟨ext, ⟨stem, hname, hext.1, hstem, hne⟩, h.symm⟩
    · cases h
  · rintro ⟨ext', ⟨stem, hlast, hdot, hstem, hne⟩, rfl⟩
    cases hname.unique hlast
    cases hext.unique ⟨hdot, .inr ⟨stem, rfl⟩⟩
    rw [if_pos]
    rw [hasStem_iff hext, List.isEmpty_iff]
    exact ⟨⟨stem, rfl, hstem⟩, hne⟩

theorem extension?_eq_none_iff {path : String} :
    extension? path = none ↔ ∀ ext, ¬ IsExtension path ext := by
  rw [Option.eq_none_iff_forall_ne_some]
  constructor
  · intro h ext hext
    exact h _ (extension?_eq_some_iff.2 ⟨ext, hext, rfl⟩)
  · intro h s hs
    rcases extension?_eq_some_iff.1 hs with ⟨ext, hext, _⟩
    exact h ext hext

end Screening

end GovernanceLock
