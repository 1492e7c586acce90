import GovernanceLock.Text.Blank

/-!
This module contains the texts that differ only in the blanks around them. Trimming takes away
exactly these blanks, so such texts are the same once they are trimmed.
-/

namespace GovernanceLock.Text

/--
The part of a text that is left without the blanks at both ends.
-/
structure IsCore (text core : List Char) : Prop where
  surrounded : ∃ before after, text = before ++ (core ++ after) ∧
    (∀ c ∈ before, isBlank c = true) ∧ ∀ c ∈ after, isBlank c = true
  head : ∀ c, core.head? = some c → isBlank c = false
  last : ∀ c, core.getLast? = some c → isBlank c = false

/--
The same text between blanks.
-/
def Repadded (s t : String) : Prop :=
  ∃ core, IsCore s.toList core ∧ IsCore t.toList core

variable {text core : List Char}

theorem trimStart_append {before : List Char} (h : ∀ c ∈ before, isBlank c = true)
    (cs : List Char) : trimStart (before ++ cs) = trimStart cs :=
  List.dropWhile_append_of_pos h

theorem trimEnd_append {after : List Char} (h : ∀ c ∈ after, isBlank c = true)
    (cs : List Char) : trimEnd (cs ++ after) = trimEnd cs := by
  unfold trimEnd
  rw [List.reverse_append, ← trimStart, trimStart_append, trimStart]
  simpa using h

theorem exists_append_trimStart (cs : List Char) :
    ∃ before, cs = before ++ trimStart cs ∧ ∀ c ∈ before, isBlank c = true :=
  ⟨cs.takeWhile isBlank, List.takeWhile_append_dropWhile.symm,
    List.all_eq_true.1 List.all_takeWhile⟩

theorem exists_trimEnd_append (cs : List Char) :
    ∃ after, cs = trimEnd cs ++ after ∧ ∀ c ∈ after, isBlank c = true := by
  rcases exists_append_trimStart cs.reverse with ⟨before, hsplit, hblank⟩
  refine ⟨before.reverse, ?_, by simpa using hblank⟩
  rw [trimEnd, ← trimStart, ← List.reverse_append, ← hsplit, List.reverse_reverse]

theorem IsCore.trim_eq (h : IsCore text core) : trim text = core := by
  rcases h.surrounded with ⟨before, after, rfl, hbefore, hafter⟩
  rw [trim, trimStart_append hbefore]
  cases hcore : core with
  | nil =>
    rw [List.nil_append, trimStart_eq_nil_iff.2 hafter]
    rfl
  | cons c cs =>
    have hc : isBlank c = false := by
      apply h.head
      rw [hcore]
      rfl
    rw [List.cons_append, trimStart_cons hc, ← List.cons_append, trimEnd_append hafter, ← hcore]
    exact trimEnd_eq_self h.last

theorem isCore_trim (text : List Char) : IsCore text (trim text) where
  surrounded := by
    rcases exists_append_trimStart text with ⟨before, hbefore, hblank⟩
    rcases exists_trimEnd_append (trimStart text) with ⟨after, hafter, hblank'⟩
    refine ⟨before, after, ?_, hblank, hblank'⟩
    rw [trim, ← hafter]
    exact hbefore
  head := by
    intro c hc
    exact isBlank_of_head?_trim hc
  last := by
    intro c hc
    exact isBlank_of_getLast?_trimEnd hc

theorem isCore_iff : IsCore text core ↔ trim text = core := by
  constructor
  · exact IsCore.trim_eq
  · rintro rfl
    exact isCore_trim text

theorem repadded_iff {s t : String} : Repadded s t ↔ trimmed s = trimmed t := by
  unfold Repadded trimmed
  simp [isCore_iff, String.ofList_inj, eq_comm]

theorem Repadded.symm {s t : String} (h : Repadded s t) : Repadded t s := by
  rcases h with ⟨core, hs, ht⟩
  exact ⟨core, ht, hs⟩

end GovernanceLock.Text
