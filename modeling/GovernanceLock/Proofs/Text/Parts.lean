import GovernanceLock.Text.Parts

/-!
This module contains the texts that are joined from parts without the separator in them: dividing
such a text gives the parts back, so that different parts make different texts.
-/

namespace GovernanceLock.Text

variable {separator : Char}

theorem parts_append (separator : Char) (cs ds : List Char) :
    parts separator (cs ++ separator :: ds) = parts separator cs ++ parts separator ds := by
  induction cs with
  | nil => simp [parts]
  | cons c cs ih =>
    rw [List.cons_append, parts, parts, ih]
    split
    · rfl
    · cases h : parts separator cs with
      | nil => exact absurd h (parts_ne_nil separator cs)
      | cons part rest => rfl

theorem notMem_of_mem_parts {cs part : List Char} (h : part ∈ parts separator cs) :
    separator ∉ part := by
  induction cs generalizing part with
  | nil =>
    rw [parts, List.mem_singleton] at h
    rw [h]
    exact List.not_mem_nil
  | cons c cs ih =>
    rw [parts] at h
    split at h
    · rcases List.mem_cons.1 h with rfl | h
      · exact List.not_mem_nil
      · exact ih h
    · next hc =>
      cases hparts : parts separator cs with
      | nil => exact absurd hparts (parts_ne_nil separator cs)
      | cons first rest =>
        rw [hparts] at h ih
        rcases List.mem_cons.1 h with rfl | h
        · rw [List.mem_cons, not_or]
          exact ⟨Ne.symm hc, ih List.mem_cons_self⟩
        · exact ih (List.mem_cons_of_mem _ h)

theorem parts_join {l : List (List Char)} (hne : l ≠ []) (h : ∀ part ∈ l, separator ∉ part) :
    parts separator (join [separator] l) = l := by
  induction l with
  | nil => contradiction
  | cons part rest ih =>
    rw [List.forall_mem_cons] at h
    cases rest with
    | nil => exact parts_of_not_mem h.1
    | cons next rest =>
      rw [join_cons_cons, List.append_assoc, List.singleton_append, parts_append_cons h.1,
        ih (List.cons_ne_nil _ _) h.2]

theorem join_inj {l k : List (List Char)} (hl : l ≠ []) (hk : k ≠ [])
    (hlparts : ∀ part ∈ l, separator ∉ part) (hkparts : ∀ part ∈ k, separator ∉ part)
    (h : join [separator] l = join [separator] k) : l = k := by
  rw [← parts_join hl hlparts, h, parts_join hk hkparts]

theorem join_concat {separator : List Char} {l : List (List Char)} (h : l ≠ [])
    (part : List Char) : join separator (l ++ [part]) = join separator l ++ separator ++ part := by
  induction l with
  | nil => contradiction
  | cons first rest ih =>
    cases rest with
    | nil => rfl
    | cons next rest =>
      rw [List.cons_append, List.cons_append, join_cons_cons, ← List.cons_append,
        ih (List.cons_ne_nil _ _), join_cons_cons]
      simp only [List.append_assoc]

theorem joinTexts_cons_cons (separator text next : String) (rest : List String) :
    joinTexts separator (text :: next :: rest)
      = text ++ separator ++ joinTexts separator (next :: rest) := by
  unfold joinTexts
  rw [List.map_cons, List.map_cons, join_cons_cons]
  simp [String.ofList_append, String.append_assoc]

theorem joinTexts_concat {separator : String} {texts : List String} (h : texts ≠ [])
    (text : String) :
    joinTexts separator (texts ++ [text]) = joinTexts separator texts ++ separator ++ text := by
  have hne : texts.map String.toList ≠ [] := by
    rwa [ne_eq, List.map_eq_nil_iff]
  unfold joinTexts
  rw [List.map_append, List.map_singleton, join_concat hne]
  simp [String.ofList_append, String.append_assoc]

end GovernanceLock.Text
