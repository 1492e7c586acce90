import Mathlib.Logic.Relation
import GovernanceLock.Proofs.FileTree.Components
import GovernanceLock.Proofs.FileTree.Segments

/-!
This module contains the spellings of paths: two texts name the same components iff they turn into
each other when slashes are repeated, a `.` is put between slashes, and a slash is put at the end, or
when these are taken away.
-/

namespace GovernanceLock.Path

/--
The first text has a slash, or a `.` between slashes, that the second one does without.
-/
inductive Redundant : String → String → Prop
  | slash (s t : String) : Redundant (s ++ "//" ++ t) (s ++ "/" ++ t)
  | dot (s t : String) : Redundant (s ++ "/./" ++ t) (s ++ "/" ++ t)
  | trailing {s : String} (h : s ≠ "") : Redundant (s ++ "/") s

/--
The texts differ only in what is redundant.
-/
def Respelled : String → String → Prop :=
  Relation.EqvGen Redundant

variable {s t piece : String}

/-!
What is redundant adds no component.
-/

theorem segments_of_isIdle (h : isIdle piece = true) : segments piece = [piece] := by
  rcases isIdle_iff.1 h with rfl | rfl <;> rfl

theorem components_between (h : isIdle piece = true) (s t : String) :
    (ofString (s ++ ("/" ++ piece ++ "/") ++ t)).components
      = (ofString (s ++ "/" ++ t)).components := by
  have htext : s ++ ("/" ++ piece ++ "/") ++ t = s ++ "/" ++ (piece ++ "/" ++ t) := by
    simp only [String.append_assoc]
  have hsegments : segments (piece ++ "/" ++ t) = [piece] ++ segments t := by
    rw [segments_append, segments_of_isIdle h]
  have hidle : ∀ idle ∈ [piece], isIdle idle = true := by simpa using h
  rw [htext]
  by_cases hs : s = ""
  · have hinsert : components ⟨true, [] ++ ([piece] ++ segments t)⟩
        = components ⟨true, [] ++ segments t⟩ := components_insert_idle (.inl rfl) hidle
    rw [hs, String.empty_append, ofString_slash, ofString_slash, hsegments]
    exact hinsert
  · rw [ofString_append_slash hs, ofString_append_slash hs, hsegments]
    exact components_insert_idle (.inr (pieces_ofString_ne_nil s)) hidle

theorem components_trailing (h : s ≠ "") :
    (ofString (s ++ "/")).components = (ofString s).components := by
  have hslash : ofString (s ++ "/" ++ "")
      = ⟨(ofString s).rooted, (ofString s).pieces ++ ([""] ++ [])⟩ := ofString_append_slash h ""
  rw [String.append_empty] at hslash
  rw [hslash, components_insert_idle (.inr (pieces_ofString_ne_nil s)) (by decide),
    List.append_nil]

theorem Redundant.components_eq (h : Redundant s t) :
    (ofString s).components = (ofString t).components := by
  cases h with
  | slash s t => exact components_between (rfl : isIdle "" = true) s t
  | dot s t => exact components_between (rfl : isIdle "." = true) s t
  | trailing h => exact components_trailing h

theorem Respelled.components_eq (h : Respelled s t) :
    (ofString s).components = (ofString t).components := by
  induction h with
  | rel _ _ h => exact h.components_eq
  | refl => rfl
  | symm _ _ _ ih => exact ih.symm
  | trans _ _ _ _ _ ih ih' => exact ih.trans ih'

/-!
Without what is redundant, a text is that of the plain path with its components.
-/

def plain (components : List Component) : Path :=
  ⟨components.head? == some .root, components.filterMap Component.piece?⟩

theorem plain_map_ofPiece (pieces : List String) :
    plain (pieces.map Component.ofPiece) = ⟨false, pieces⟩ := by
  unfold plain
  rw [filterMap_map_ofPiece, beq_eq_false_iff_ne.2 (head?_map_ofPiece_ne pieces)]

theorem plain_components_of_rooted (pieces : List String) :
    plain (components ⟨true, pieces⟩) = ⟨true, pieces.filter (!isIdle ·)⟩ := by
  unfold plain components
  rw [if_pos rfl, List.singleton_append, List.filterMap_cons_none rfl, filterMap_map_ofPiece]
  rfl

theorem plain_components_of_relative (hne : piece ≠ "") (rest : List String) :
    plain (components ⟨false, piece :: rest⟩) = ⟨false, piece :: rest.filter (!isIdle ·)⟩ := by
  by_cases hdot : piece = "."
  · subst hdot
    have hcomponents : components ⟨false, "." :: rest⟩
        = .current :: (rest.filter (!isIdle ·)).map Component.ofPiece := rfl
    have hcurrent : Component.current.piece? = some "." := rfl
    unfold plain
    rw [hcomponents, List.filterMap_cons_some hcurrent, filterMap_map_ofPiece]
    rfl
  · have hidle : isIdle piece = false := by simp [isIdle, hne, hdot]
    unfold components
    rw [if_neg Bool.false_ne_true, if_neg (by simpa using hdot), List.nil_append,
      plain_map_ofPiece, List.filter_cons_of_pos (by simp [hidle])]

namespace Respelled

theorem refl (s : String) : Respelled s s :=
  Relation.EqvGen.refl s

theorem symm (h : Respelled s t) : Respelled t s :=
  Relation.EqvGen.symm _ _ h

theorem trans {u : String} (h : Respelled s t) (h' : Respelled t u) : Respelled s u :=
  Relation.EqvGen.trans _ _ _ h h'

theorem between (h : isIdle piece = true) (s t : String) :
    Respelled (s ++ ("/" ++ piece ++ "/") ++ t) (s ++ "/" ++ t) := by
  rcases isIdle_iff.1 h with rfl | rfl
  · exact .rel _ _ (.slash s t)
  · exact .rel _ _ (.dot s t)

theorem trailing (h : s ≠ "") : Respelled (s ++ "/") s :=
  .rel _ _ (.trailing h)

theorem last (h : isIdle piece = true) (hs : s ≠ "") : Respelled (s ++ ("/" ++ piece)) s := by
  have hne : s ++ ("/" ++ piece) ≠ "" := by simp [hs]
  have hbetween := between h s ""
  rw [String.append_empty, String.append_empty, ← String.append_assoc] at hbetween
  exact (trailing hne).symm.trans (hbetween.trans (trailing hs))

theorem trail_cons (h : isIdle piece = true) (hs : s ≠ "") (rest : List String) :
    Respelled (s ++ trail (piece :: rest)) (s ++ trail rest) := by
  cases rest with
  | nil =>
    have hlast := last h hs
    simpa [trail] using hlast
  | cons next rest =>
    have hbetween := between h s (next ++ trail rest)
    simpa only [trail, String.append_assoc] using hbetween

theorem trail_filter (hs : s ≠ "") (pieces : List String) :
    Respelled (s ++ trail pieces) (s ++ trail (pieces.filter (!isIdle ·))) := by
  induction pieces generalizing s with
  | nil => exact refl _
  | cons piece rest ih =>
    cases hidle : isIdle piece with
    | true =>
      rw [List.filter_cons_of_neg (by simp [hidle])]
      exact (trail_cons hidle hs rest).trans (ih hs)
    | false =>
      have hne : s ++ ("/" ++ piece) ≠ "" := by simp [hs]
      have hrest := ih hne
      rw [List.filter_cons_of_pos (by simp [hidle])]
      simpa only [trail, String.append_assoc] using hrest

theorem dot_trail (pieces : List String) :
    Respelled ("/." ++ trail pieces) (Path.toString ⟨true, pieces⟩) := by
  cases pieces with
  | nil =>
    have hslash : Respelled ("/." ++ "/") "/." := trailing (by decide)
    exact hslash.symm.trans (between (rfl : isIdle "." = true) "" "")
  | cons piece rest =>
    have hbetween := between (rfl : isIdle "." = true) "" (piece ++ trail rest)
    unfold Path.toString
    rw [joinTexts_cons, trail, String.append_assoc, ← String.append_assoc]
    exact hbetween

theorem plain (text : String) :
    Respelled text (Path.plain (ofString text).components).toString := by
  have htext := toString_ofString text
  rcases ofString_cases text with ⟨rest, _, heq⟩ | ⟨hhead, heq⟩
  · rw [heq] at htext ⊢
    rw [plain_components_of_rooted, ← htext]
    exact (dot_trail _).symm.trans ((trail_filter (by decide) _).trans (dot_trail _))
  · by_cases hempty : text = ""
    · rw [hempty]
      exact refl ""
    · rcases exists_segments_eq_cons hempty hhead with ⟨piece, rest, hpiece, hsegments⟩
      rw [heq, hsegments] at htext ⊢
      rw [plain_components_of_relative hpiece, ← htext]
      unfold Path.toString
      rw [if_neg Bool.false_ne_true, joinTexts_cons, joinTexts_cons, String.empty_append,
        String.empty_append]
      exact trail_filter hpiece rest

end Respelled

/--
Texts are equal as paths iff they differ only in what is redundant.
-/
theorem components_eq_iff_respelled :
    (ofString s).components = (ofString t).components ↔ Respelled s t := by
  refine ⟨?_, Respelled.components_eq⟩
  intro h
  have hs := Respelled.plain s
  rw [h] at hs
  exact hs.trans (Respelled.plain t).symm

end GovernanceLock.Path
