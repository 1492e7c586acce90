import GovernanceLock.Proofs.Manifest.Spelling

/-!
This module contains the conditions under which a record is that of a manifest, told of the record
alone: which values its members may have, and what the manifest says then. A record has a manifest
iff it meets the conditions, and it has only one.
-/

namespace GovernanceLock

open Except (bind_eq_ok_iff map_eq_ok_iff mapError_eq_ok_iff)
open Json (Record)

theorem Text.trimmed_eq_empty_iff {s : String} : trimmed s = "" ↔ trim s.toList = [] := by
  unfold trimmed
  rw [String.ofList_eq_empty_iff]

namespace Manifest

/--
The value is a text that is not blank, and `t` is this text without the blanks around it.
-/
def IsText (v : Json) (t : String) : Prop :=
  ∃ s, v = .string s ∧ Text.trimmed s ≠ "" ∧ Text.trimmed s = t

/--
The value is a text that is not blank and denotes the version `x`.
-/
def IsVersion (v : Json) (x : Version) : Prop :=
  ∃ s, v = .string s ∧ Text.trimmed s ≠ "" ∧ Version.parse s = .ok x

/--
The value is a list of texts, none of which is blank, or nothing at all.
-/
def IsTextList (v : Json) : Prop :=
  v = .null ∨ ∃ items, v = .array items ∧ ∀ item ∈ items, ∃ t, IsText item t

/--
The value is a list, and one of its items is the text `t`, blanks around it aside.
-/
def IsEntry (v : Json) (t : String) : Prop :=
  ∃ items, v = .array items ∧ ∃ item ∈ items, IsText item t

/--
The list consists of the entries of the value, without repeats and in ascending order.
-/
structure IsSetOf (l : List String) (v : Json) : Prop where
  ascending : Ascending l
  mem : ∀ t, t ∈ l ↔ IsEntry v t

/--
The members of the record are what those of a manifest have to be.
-/
structure Valid (r : Record) : Prop where
  id : ∃ t, IsText (r.field "id") t
  version : ∃ x, IsVersion (r.field "version") x
  compat : ∃ range : Record, r.field "compat" = .object range ∧
    (∃ x, IsVersion (range.field "engine_min") x) ∧ ∃ x, IsVersion (range.field "engine_max") x
  lists : ∀ name ∈ ["requires", "conflicts_with", "artifacts", "owns_surfaces", "touches_surfaces"],
    IsTextList (r.field name)
  notItself : ∀ id, IsText (r.field "id") id → ∀ name ∈ ["requires", "conflicts_with"],
    ¬ IsEntry (r.field name) id
  safe : ∀ path, IsEntry (r.field "artifacts") path → ArtifactPath.isSafe path = true

/--
The manifest says what the members of the record say.
-/
structure Declares (r : Record) (m : Manifest) : Prop where
  id : IsText (r.field "id") m.id
  version : IsVersion (r.field "version") m.version
  compat : ∃ range : Record, r.field "compat" = .object range ∧
    IsVersion (range.field "engine_min") m.compat.engineMin ∧
    IsVersion (range.field "engine_max") m.compat.engineMax
  requires : IsSetOf m.requires (r.field "requires")
  conflictsWith : IsSetOf m.conflictsWith (r.field "conflicts_with")
  artifacts : IsSetOf m.artifacts (r.field "artifacts")
  ownsSurfaces : IsSetOf m.ownsSurfaces (r.field "owns_surfaces")
  touchesSurfaces : IsSetOf m.touchesSurfaces (r.field "touches_surfaces")

theorem IsText.unique {v : Json} {t u : String} (ht : IsText v t) (hu : IsText v u) : t = u := by
  rcases ht with ⟨s, rfl, _, rfl⟩
  rcases hu with ⟨s', heq, _, rfl⟩
  cases heq
  rfl

theorem nonBlank_eq_ok_iff {v : Json} {t : String} : nonBlank v = .ok t ↔ IsText v t := by
  unfold IsText
  cases v with
  | string s =>
    have hne : Text.trim s.toList ≠ [] ↔ Text.trimmed s ≠ "" :=
      not_congr Text.trimmed_eq_empty_iff.symm
    rw [nonBlank_string_eq_ok_iff, hne]
    simp
  | _ => simp [nonBlank]

theorem versionText_eq_ok_iff {v : Json} {x : Version} :
    versionText v = .ok x ↔ IsVersion v x := by
  simp only [versionText, bind_eq_ok_iff, mapError_eq_ok_iff, nonBlank_eq_ok_iff]
  constructor
  · rintro ⟨_, ⟨s, hv, hne, rfl⟩, hparse⟩
    rw [Version.parse_trimmed] at hparse
    exact ⟨s, hv, hne, hparse⟩
  · rintro ⟨s, hv, hne, hparse⟩
    refine ⟨_, ⟨s, hv, hne, rfl⟩, ?_⟩
    rw [Version.parse_trimmed]
    exact hparse

theorem members_eq_ok_iff {v : Json} {range : Record} :
    members v = .ok range ↔ v = .object range := by
  cases v <;> simp [members]

theorem textSet_eq_ok_iff {v : Json} {l : List String} :
    textSet v = .ok l ↔ IsTextList v ∧ IsSetOf l v := by
  unfold IsTextList
  cases v with
  | null =>
    rw [textSet, Except.ok.injEq]
    constructor
    · rintro rfl
      exact ⟨.inl rfl, .nil, by simp [IsEntry]⟩
    · rintro ⟨_, _, hmem⟩
      rw [eq_comm, List.eq_nil_iff_forall_not_mem]
      intro t ht
      rcases (hmem t).1 ht with ⟨items, hitems, _⟩
      cases hitems
  | array items =>
    rw [textSet_array_eq_ok_iff]
    simp only [nonBlank_eq_ok_iff, Json.array.injEq, reduceCtorEq, exists_eq_left', false_or]
    constructor
    · rintro ⟨hasc, hall, hmem⟩
      exact ⟨hall, hasc, fun t => by simp [IsEntry, hmem]⟩
    · rintro ⟨hall, hasc, hmem⟩
      exact ⟨hasc, hall, fun t => by simp [hmem, IsEntry]⟩
  | _ => simp [textSet]

theorem exists_textSet {v : Json} (h : IsTextList v) : ∃ l, textSet v = .ok l := by
  rcases h with rfl | ⟨items, rfl, hitems⟩
  · exact ⟨[], rfl⟩
  · simp only [← nonBlank_eq_ok_iff, ← exists_entries_iff] at hitems
    rcases hitems with ⟨ts, hts⟩
    refine ⟨Ascending.ofList ts, ?_⟩
    rw [textSet, map_eq_ok_iff]
    exact ⟨ts, hts, rfl⟩

/--
A record has a manifest iff it is valid, and then it has the manifest that says the same.
-/
theorem ofRecord_eq_ok_iff_valid {r : Record} {m : Manifest} :
    ofRecord r = .ok m ↔ Valid r ∧ Declares r m := by
  rw [ofRecord_eq_ok_iff]
  constructor
  · intro h
    have hid := nonBlank_eq_ok_iff.1 h.id
    have hversion := versionText_eq_ok_iff.1 h.version
    have hrequires := textSet_eq_ok_iff.1 h.requires
    have hconflicts := textSet_eq_ok_iff.1 h.conflictsWith
    have hartifacts := textSet_eq_ok_iff.1 h.artifacts
    have howns := textSet_eq_ok_iff.1 h.ownsSurfaces
    have htouches := textSet_eq_ok_iff.1 h.touchesSurfaces
    rcases h.compat with ⟨range, hrange, hmin, hmax⟩
    rw [members_eq_ok_iff] at hrange
    rw [versionText_eq_ok_iff] at hmin hmax
    refine ⟨⟨⟨_, hid⟩, ⟨_, hversion⟩, ⟨range, hrange, ⟨_, hmin⟩, _, hmax⟩, ?_, ?_, ?_⟩,
      hid, hversion, ⟨range, hrange, hmin, hmax⟩, hrequires.2, hconflicts.2, hartifacts.2, howns.2,
      htouches.2⟩
    · simp only [List.forall_mem_cons, List.not_mem_nil, false_implies, implies_true, and_true]
      exact ⟨hrequires.1, hconflicts.1, hartifacts.1, howns.1, htouches.1⟩
    · intro id hid'
      have heq := hid'.unique hid
      subst heq
      simp only [List.forall_mem_cons, List.not_mem_nil, false_implies, implies_true, and_true,
        ← hrequires.2.mem, ← hconflicts.2.mem]
      exact ⟨h.requiresOthers, h.conflictsWithOthers⟩
    · intro path hpath
      exact h.safe path ((hartifacts.2.mem path).2 hpath)
  · rintro ⟨hvalid, h⟩
    have hlists := hvalid.lists
    have hothers := hvalid.notItself m.id h.id
    simp only [List.forall_mem_cons, List.not_mem_nil, false_implies, implies_true, and_true]
      at hlists hothers
    rcases hlists with ⟨hrequires, hconflicts, hartifacts, howns, htouches⟩
    rcases h.compat with ⟨range, hrange, hmin, hmax⟩
    constructor
    · exact nonBlank_eq_ok_iff.2 h.id
    · exact versionText_eq_ok_iff.2 h.version
    · exact ⟨range, members_eq_ok_iff.2 hrange, versionText_eq_ok_iff.2 hmin,
        versionText_eq_ok_iff.2 hmax⟩
    · exact textSet_eq_ok_iff.2 ⟨hrequires, h.requires⟩
    · exact textSet_eq_ok_iff.2 ⟨hconflicts, h.conflictsWith⟩
    · rw [h.requires.mem]
      exact hothers.1
    · rw [h.conflictsWith.mem]
      exact hothers.2
    · exact textSet_eq_ok_iff.2 ⟨hartifacts, h.artifacts⟩
    · intro path hpath
      exact hvalid.safe path ((h.artifacts.mem path).1 hpath)
    · exact textSet_eq_ok_iff.2 ⟨howns, h.ownsSurfaces⟩
    · exact textSet_eq_ok_iff.2 ⟨htouches, h.touchesSurfaces⟩

theorem Valid.exists_declares {r : Record} (h : Valid r) : ∃ m, Declares r m := by
  have hset : ∀ name ∈
      ["requires", "conflicts_with", "artifacts", "owns_surfaces", "touches_surfaces"],
      ∃ l, IsSetOf l (r.field name) := by
    intro name hname
    rcases exists_textSet (h.lists name hname) with ⟨l, hl⟩
    exact ⟨l, (textSet_eq_ok_iff.1 hl).2⟩
  simp only [List.forall_mem_cons, List.not_mem_nil, false_implies, implies_true, and_true] at hset
  rcases hset with ⟨⟨requires, hrequires⟩, ⟨conflictsWith, hconflicts⟩, ⟨artifacts, hartifacts⟩,
    ⟨ownsSurfaces, howns⟩, touchesSurfaces, htouches⟩
  rcases h.id with ⟨id, hid⟩
  rcases h.version with ⟨version, hversion⟩
  rcases h.compat with ⟨range, hrange, ⟨engineMin, hmin⟩, engineMax, hmax⟩
  exact ⟨{ id, version, compat := ⟨engineMin, engineMax⟩, requires, conflictsWith, ownsSurfaces,
           touchesSurfaces, artifacts },
    hid, hversion, ⟨range, hrange, hmin, hmax⟩, hrequires, hconflicts, hartifacts, howns, htouches⟩

theorem exists_ofRecord_iff {r : Record} : (∃ m, ofRecord r = .ok m) ↔ Valid r := by
  constructor
  · rintro ⟨m, hm⟩
    exact (ofRecord_eq_ok_iff_valid.1 hm).1
  · intro h
    rcases h.exists_declares with ⟨m, hm⟩
    exact ⟨m, ofRecord_eq_ok_iff_valid.2 ⟨h, hm⟩⟩

end Manifest

end GovernanceLock
