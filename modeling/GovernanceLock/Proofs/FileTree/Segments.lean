import GovernanceLock.FileTree.Path
import GovernanceLock.Proofs.Text.Parts

/-!
This module contains the way between texts and paths: a text is divided at its slashes and joined
again, so that a text names one path and a path of separate pieces has one text.
-/

namespace GovernanceLock.Path

def segments (text : String) : List String :=
  (Text.parts '/' text.toList).map String.ofList

def trail : List String → String
  | [] => ""
  | piece :: rest => "/" ++ piece ++ trail rest

variable {s t piece : String} {pieces : List String}

theorem segments_ne_nil (text : String) : segments text ≠ [] := by
  unfold segments
  rw [ne_eq, List.map_eq_nil_iff]
  exact Text.parts_ne_nil _ _

theorem segments_append (s t : String) : segments (s ++ "/" ++ t) = segments s ++ segments t := by
  unfold segments
  rw [← List.map_append, ← Text.parts_append]
  simp

theorem segments_slash (t : String) : segments ("/" ++ t) = "" :: segments t :=
  segments_append "" t

theorem slash_notMem_of_mem_segments (h : piece ∈ segments s) : '/' ∉ piece.toList := by
  unfold segments at h
  rcases List.mem_map.1 h with ⟨part, hpart, rfl⟩
  rw [String.toList_ofList]
  exact Text.notMem_of_mem_parts hpart

theorem joinTexts_segments (text : String) : Text.joinTexts "/" (segments text) = text := by
  have htexts : (segments text).map String.toList = Text.parts '/' text.toList := by
    unfold segments
    rw [List.map_map]
    exact List.map_id'' (fun _ => String.toList_ofList) _
  unfold Text.joinTexts
  rw [htexts]
  exact (congrArg String.ofList (Text.join_parts '/' text.toList)).trans String.ofList_toList

theorem segments_joinTexts (hne : pieces ≠ []) (h : ∀ piece ∈ pieces, '/' ∉ piece.toList) :
    segments (Text.joinTexts "/" pieces) = pieces := by
  have hparts : Text.parts '/' (Text.join ['/'] (pieces.map String.toList))
      = pieces.map String.toList := by
    apply Text.parts_join
    · rwa [ne_eq, List.map_eq_nil_iff]
    · intro part hpart
      rcases List.mem_map.1 hpart with ⟨piece, hpiece, rfl⟩
      exact h piece hpiece
  have htext : (Text.joinTexts "/" pieces).toList
      = Text.join ['/'] (pieces.map String.toList) := String.toList_ofList
  unfold segments
  rw [htext, hparts, List.map_map]
  exact List.map_id'' (fun _ => String.ofList_toList) _

theorem joinTexts_cons (piece : String) (rest : List String) :
    Text.joinTexts "/" (piece :: rest) = piece ++ trail rest := by
  induction rest generalizing piece with
  | nil => simp [Text.joinTexts, Text.join, trail]
  | cons next rest ih =>
    rw [Text.joinTexts_cons_cons, ih, trail, String.append_assoc, String.append_assoc]

theorem ofString_slash (t : String) : ofString ("/" ++ t) = ⟨true, segments t⟩ := by
  unfold ofString
  rw [String.toList_append]
  rfl

theorem ofString_of_head?_ne (h : s.toList.head? ≠ some '/') :
    ofString s = ⟨false, segments s⟩ := by
  unfold ofString
  split
  · next heq => exact absurd (congrArg List.head? heq) h
  · rfl

theorem ofString_cases (text : String) :
    (∃ rest, text = "/" ++ rest ∧ ofString text = ⟨true, segments rest⟩) ∨
      text.toList.head? ≠ some '/' ∧ ofString text = ⟨false, segments text⟩ := by
  by_cases hhead : text.toList.head? = some '/'
  · rcases List.head?_eq_some_iff.1 hhead with ⟨cs, hcs⟩
    have htext : text = "/" ++ String.ofList cs := by
      apply String.toList_injective
      rw [hcs]
      simp
    rw [htext]
    exact .inl ⟨_, rfl, ofString_slash _⟩
  · exact .inr ⟨hhead, ofString_of_head?_ne hhead⟩

theorem exists_segments_eq_cons (hne : s ≠ "") (hhead : s.toList.head? ≠ some '/') :
    ∃ piece rest, piece ≠ "" ∧ segments s = piece :: rest := by
  rcases hsegments : segments s with _ | ⟨piece, rest⟩
  · exact absurd hsegments (segments_ne_nil s)
  · refine ⟨piece, rest, ?_, rfl⟩
    rintro rfl
    have htext := joinTexts_segments s
    rw [hsegments, joinTexts_cons, String.empty_append] at htext
    cases rest with
    | nil => exact hne htext.symm
    | cons next rest =>
      apply hhead
      rw [← htext, trail]
      simp

theorem toString_ofString (text : String) : (ofString text).toString = text := by
  unfold Path.toString
  rcases ofString_cases text with ⟨rest, rfl, heq⟩ | ⟨_, heq⟩
  · rw [heq, joinTexts_segments]
    rfl
  · rw [heq, joinTexts_segments]
    exact String.empty_append

theorem ofString_toString {p : Path} (hne : p.pieces ≠ [])
    (hslash : ∀ piece ∈ p.pieces, '/' ∉ piece.toList)
    (hstart : p.rooted = true ∨ p.pieces.head? ≠ some "") : ofString p.toString = p := by
  rcases p with ⟨rooted, pieces⟩
  have hsegments := segments_joinTexts hne hslash
  unfold Path.toString
  cases rooted with
  | true => rw [if_pos rfl, ofString_slash, hsegments]
  | false =>
    have hhead : (Text.joinTexts "/" pieces).toList.head? ≠ some '/' := by
      cases pieces with
      | nil => contradiction
      | cons piece rest =>
        have hpiece : piece.toList.head?.isSome = true := by simpa using hstart
        rw [joinTexts_cons, String.toList_append, List.head?_append, Option.or_of_isSome hpiece]
        intro hhead
        exact hslash piece List.mem_cons_self (List.mem_of_head? hhead)
    rw [if_neg Bool.false_ne_true, String.empty_append, ofString_of_head?_ne hhead, hsegments]

theorem pieces_ofString_ne_nil (text : String) : (ofString text).pieces ≠ [] := by
  rcases ofString_cases text with ⟨rest, _, heq⟩ | ⟨_, heq⟩
  · rw [heq]
    exact segments_ne_nil rest
  · rw [heq]
    exact segments_ne_nil text

theorem slash_notMem_of_mem_pieces (h : piece ∈ (ofString s).pieces) : '/' ∉ piece.toList := by
  rcases ofString_cases s with ⟨rest, _, heq⟩ | ⟨_, heq⟩
  · rw [heq] at h
    exact slash_notMem_of_mem_segments h
  · rw [heq] at h
    exact slash_notMem_of_mem_segments h

theorem rooted_or_head?_ne (hne : s ≠ "") :
    (ofString s).rooted = true ∨ (ofString s).pieces.head? ≠ some "" := by
  rcases ofString_cases s with ⟨rest, _, heq⟩ | ⟨hhead, heq⟩
  · rw [heq]
    exact .inl rfl
  · rcases exists_segments_eq_cons hne hhead with ⟨piece, rest, hpiece, hsegments⟩
    rw [heq, hsegments]
    exact .inr (by simpa using hpiece)

theorem ofString_append_slash (h : s ≠ "") (t : String) :
    ofString (s ++ "/" ++ t) = ⟨(ofString s).rooted, (ofString s).pieces ++ segments t⟩ := by
  rcases ofString_cases s with ⟨rest, rfl, heq⟩ | ⟨hhead, heq⟩
  · have htext : "/" ++ rest ++ "/" ++ t = "/" ++ (rest ++ "/" ++ t) := by
      simp only [String.append_assoc]
    rw [heq, htext, ofString_slash, segments_append]
  · have hhead' : (s ++ "/" ++ t).toList.head? ≠ some '/' := by
      have hsome : s.toList.head?.isSome = true := by simpa using h
      rwa [String.append_assoc, String.toList_append, List.head?_append, Option.or_of_isSome hsome]
    rw [heq, ofString_of_head?_ne hhead', segments_append]

end GovernanceLock.Path
