import GovernanceLock.Proofs.Screening.Finding
import GovernanceLock.Proofs.Text.Padding

/-!
This module contains the lines with a shell sigil and those with an execution key, told by the ways
to split a line, and the proof that the rules find an item iff there is a split that shows it.
-/

namespace GovernanceLock.Screening

open Text (asciiLower isAsciiDigit isAsciiLetter isBlank trimStart)

def AllBlank (cs : List Char) : Prop :=
  ∀ c ∈ cs, isBlank c = true

variable {c : Char} {line cs : List Char}

theorem after?_eq_some_iff {start rest : List Char} :
    after? start cs = some rest ↔ cs = start ++ rest := by
  induction start generalizing cs with
  | nil => simp [after?]
  | cons s start ih =>
    cases cs with
    | nil => simp [after?]
    | cons c cs =>
      rw [after?]
      split
      · next h => simp [h, ih]
      · next h => simp [Ne.symm h]

def IsListMark (cs : List Char) : Prop :=
  cs = [] ∨ ∃ c blanks, cs = '-' :: c :: blanks ∧ isBlank c = true ∧ AllBlank blanks

/--
A key that asks for execution, before blanks and a colon, and in front of it nothing but blanks and a
list mark.
-/
def IsKeyLine (line : List Char) (key : String) : Prop :=
  ∃ before mark gap rest, line = before ++ (mark ++ (key.toList ++ (gap ++ ':' :: rest))) ∧
    AllBlank before ∧ IsListMark mark ∧ key ∈ executionKeys ∧ AllBlank gap

theorem exists_skipListMark (cs : List Char) :
    ∃ mark, IsListMark mark ∧ cs = mark ++ skipListMark cs := by
  unfold skipListMark
  split
  · next c rest =>
    split
    · next hc =>
      rcases Text.exists_append_trimStart rest with ⟨blanks, hrest, hblanks⟩
      refine ⟨'-' :: c :: blanks, .inr ⟨c, blanks, rfl, hc, hblanks⟩, ?_⟩
      rw [List.cons_append, List.cons_append, ← hrest]
    · exact ⟨[], .inl rfl, rfl⟩
  · exact ⟨[], .inl rfl, rfl⟩

/--
The dash of a list mark is not where a text behind it could start, so skipping the mark leaves
exactly that text.
-/
theorem skipListMark_append {mark : List Char} (h : IsListMark mark) (hc : isBlank c = false)
    (hdash : c ≠ '-') : skipListMark (trimStart (mark ++ c :: cs)) = c :: cs := by
  rcases h with rfl | ⟨d, blanks, rfl, hd, hblanks⟩
  · rw [List.nil_append, Text.trimStart_cons hc]
    unfold skipListMark
    split
    · next heq =>
      cases heq
      exact absurd rfl hdash
    · rfl
  · rw [List.cons_append, List.cons_append, Text.trimStart_cons (by decide), skipListMark, if_pos hd,
      Text.trimStart_append hblanks, Text.trimStart_cons hc]

theorem isKeyOf_iff {key : String} :
    isKeyOf cs key = true ↔
      ∃ gap rest, cs = key.toList ++ (gap ++ ':' :: rest) ∧ AllBlank gap := by
  unfold isKeyOf
  constructor
  · intro h
    split at h
    · next rest hafter =>
      rw [after?_eq_some_iff] at hafter
      rw [beq_iff_eq, List.head?_eq_some_iff] at h
      rcases h with ⟨rest', hrest'⟩
      rcases Text.exists_append_trimStart rest with ⟨gap, hrest, hgap⟩
      rw [hrest'] at hrest
      exact ⟨gap, rest', by rw [hafter, hrest], hgap⟩
    · cases h
  · rintro ⟨gap, rest, rfl, hgap⟩
    rw [after?_eq_some_iff.2 rfl]
    dsimp only
    rw [Text.trimStart_append hgap, Text.trimStart_cons (by decide)]
    rfl

theorem exists_cons_of_mem_executionKeys {key : String} (h : key ∈ executionKeys) :
    ∃ c rest, key.toList = c :: rest ∧ isBlank c = false ∧ c ≠ '-' := by
  simp only [executionKeys, List.mem_cons, List.not_mem_nil, or_false] at h
  rcases h with rfl | rfl | rfl
  · exact ⟨'e', ['x', 'e', 'c'], rfl, by decide, by decide⟩
  · exact ⟨'r', ['u', 'n'], rfl, by decide, by decide⟩
  · exact ⟨'s', ['h', 'e', 'l', 'l'], rfl, by decide, by decide⟩

theorem head?_of_isKeyOf {key : String} (hkey : key ∈ executionKeys) (h : isKeyOf cs key = true) :
    cs.head? = key.toList.head? := by
  rcases isKeyOf_iff.1 h with ⟨gap, rest, rfl, _⟩
  rcases exists_cons_of_mem_executionKeys hkey with ⟨c, letters, hletters, _⟩
  rw [hletters]
  rfl

theorem eq_of_isKeyOf {key key' : String} (hkey : key ∈ executionKeys)
    (hkey' : key' ∈ executionKeys) (h : isKeyOf cs key = true) (h' : isKeyOf cs key' = true) :
    key = key' := by
  have hletters : ∀ k ∈ executionKeys, ∀ k' ∈ executionKeys,
      k.toList.head? = k'.toList.head? → k = k' := by decide
  apply hletters key hkey key' hkey'
  rw [← head?_of_isKeyOf hkey h, head?_of_isKeyOf hkey' h']

theorem executionKey_eq_some_iff {key : String} :
    executionKey line = some key ↔ IsKeyLine line key := by
  unfold executionKey
  constructor
  · intro h
    have hkey := List.mem_of_find?_eq_some h
    rcases isKeyOf_iff.1 (List.find?_some h) with ⟨gap, rest, hcs, hgap⟩
    rcases Text.exists_append_trimStart line with ⟨before, hline, hbefore⟩
    rcases exists_skipListMark (trimStart line) with ⟨mark, hmark, htrim⟩
    refine ⟨before, mark, gap, rest, ?_, hbefore, hmark, hkey, hgap⟩
    rw [← hcs, ← htrim]
    exact hline
  · rintro ⟨before, mark, gap, rest, rfl, hbefore, hmark, hkey, hgap⟩
    rcases exists_cons_of_mem_executionKeys hkey with ⟨c, letters, hletters, hblank, hdash⟩
    have hskip : skipListMark (trimStart (mark ++ (key.toList ++ (gap ++ ':' :: rest))))
        = key.toList ++ (gap ++ ':' :: rest) := by
      rw [hletters]
      exact skipListMark_append hmark hblank hdash
    have hkeyOf : isKeyOf (key.toList ++ (gap ++ ':' :: rest)) key = true :=
      isKeyOf_iff.2 ⟨gap, rest, rfl, hgap⟩
    rw [Text.trimStart_append hbefore, hskip]
    cases hfind : executionKeys.find? (isKeyOf (key.toList ++ (gap ++ ':' :: rest))) with
    | none => exact absurd hkeyOf (List.find?_eq_none.1 hfind key hkey)
    | some key' =>
      rw [eq_of_isKeyOf (List.mem_of_find?_eq_some hfind) hkey (List.find?_some hfind) hkeyOf]

end GovernanceLock.Screening
