import GovernanceLock.Manifest.Normalize
import GovernanceLock.Proofs.Except

/-!
This module contains the condition under which a record normalizes, field by field. From it follows
that the lists of a manifest are ascending and that no other members of a record matter.
-/

namespace GovernanceLock.Manifest

open Except (bind_eq_ok_iff map_eq_ok_iff mapError_eq_ok_iff pure_eq_ok_iff)
open Json (Record)

theorem blame_eq_ok_iff {pack field : String} {r : Except Fault α} {a : α} :
    blame pack field r = .ok a ↔ r = .ok a :=
  mapError_eq_ok_iff

theorem nonBlank_eq_ok {v : Json} {t : String} (h : nonBlank v = .ok t) :
    t ≠ "" ∧ Text.trimmed t = t := by
  unfold nonBlank at h
  split at h
  · cases h
  · next s =>
    split at h
    · cases h
    · next hne =>
      cases h
      constructor
      · intro hempty
        rw [Text.trimmed, String.ofList_eq_empty_iff] at hempty
        exact hne (List.isEmpty_iff.2 hempty)
      · exact Text.trimmed_trimmed s
  · cases h

theorem notItself_eq_ok_iff {id : PackId} {ids : List PackId} {u : Unit} :
    notItself id ids = .ok u ↔ id ∉ ids := by
  unfold notItself
  split
  · next h => simp [h]
  · next h => simp [h]

theorem allSafe_eq_ok_iff {paths : List String} {u : Unit} :
    allSafe paths = .ok u ↔ ∀ path ∈ paths, ArtifactPath.isSafe path = true := by
  have hnone : paths.find? (!ArtifactPath.isSafe ·) = none ↔
      ∀ path ∈ paths, ArtifactPath.isSafe path = true := by
    rw [List.find?_eq_none]
    simp
  rw [← hnone]
  unfold allSafe
  split
  · next h => simp [h]
  · next h => simp [h]

theorem textSet_ascending {v : Json} {l : List String} (h : textSet v = .ok l) : Ascending l := by
  unfold textSet at h
  split at h
  · cases h
    exact .nil
  · rw [map_eq_ok_iff] at h
    rcases h with ⟨items, _, rfl⟩
    exact Ascending.ofList_ascending items
  · cases h

/--
Every field of the record is well-formed, and the manifest says what the fields say.
-/
structure Describes (r : Record) (m : Manifest) : Prop where
  id : nonBlank (r.field "id") = .ok m.id
  version : versionText (r.field "version") = .ok m.version
  compat : ∃ range, members (r.field "compat") = .ok range ∧
    versionText (range.field "engine_min") = .ok m.compat.engineMin ∧
    versionText (range.field "engine_max") = .ok m.compat.engineMax
  requires : textSet (r.field "requires") = .ok m.requires
  conflictsWith : textSet (r.field "conflicts_with") = .ok m.conflictsWith
  requiresOthers : m.id ∉ m.requires
  conflictsWithOthers : m.id ∉ m.conflictsWith
  artifacts : textSet (r.field "artifacts") = .ok m.artifacts
  safe : ∀ path ∈ m.artifacts, ArtifactPath.isSafe path = true
  ownsSurfaces : textSet (r.field "owns_surfaces") = .ok m.ownsSurfaces
  touchesSurfaces : textSet (r.field "touches_surfaces") = .ok m.touchesSurfaces

theorem ofRecord_eq_ok_iff {r : Record} {m : Manifest} : ofRecord r = .ok m ↔ Describes r m := by
  simp only [ofRecord, bind_eq_ok_iff, blame_eq_ok_iff, pure_eq_ok_iff, notItself_eq_ok_iff,
    allSafe_eq_ok_iff]
  constructor
  · rintro ⟨id, hid, version, hversion, range, hrange, lo, hlo, hi, hhi, requires, hrequires,
      conflicts, hconflicts, _, hself, _, hself', artifacts, hartifacts, _, hsafe, owns, howns,
      touches, htouches, rfl⟩
    exact ⟨hid, hversion, ⟨range, hrange, hlo, hhi⟩, hrequires, hconflicts, hself, hself',
      hartifacts, hsafe, howns, htouches⟩
  · intro h
    rcases h.compat with ⟨range, hrange, hlo, hhi⟩
    exact ⟨m.id, h.id, m.version, h.version, range, hrange, m.compat.engineMin, hlo,
      m.compat.engineMax, hhi, m.requires, h.requires, m.conflictsWith, h.conflictsWith, (),
      h.requiresOthers, (), h.conflictsWithOthers, m.artifacts, h.artifacts, (), h.safe,
      m.ownsSurfaces, h.ownsSurfaces, m.touchesSurfaces, h.touchesSurfaces, rfl⟩

/--
Every list of the manifest is ascending.
-/
structure Ordered (m : Manifest) : Prop where
  requires : Ascending m.requires
  conflictsWith : Ascending m.conflictsWith
  ownsSurfaces : Ascending m.ownsSurfaces
  touchesSurfaces : Ascending m.touchesSurfaces
  artifacts : Ascending m.artifacts

theorem Describes.ordered {r : Record} {m : Manifest} (h : Describes r m) : m.Ordered where
  requires := textSet_ascending h.requires
  conflictsWith := textSet_ascending h.conflictsWith
  ownsSurfaces := textSet_ascending h.ownsSurfaces
  touchesSurfaces := textSet_ascending h.touchesSurfaces
  artifacts := textSet_ascending h.artifacts

def fieldNames : List String :=
  ["id", "version", "compat", "requires", "conflicts_with", "artifacts", "owns_surfaces",
    "touches_surfaces"]

theorem ofRecord_congr {r r' : Record} (h : ∀ name ∈ fieldNames, r.field name = r'.field name) :
    ofRecord r = ofRecord r' := by
  unfold fieldNames at h
  simp only [List.forall_mem_cons] at h
  unfold ofRecord
  simp only [h]

theorem field_set_of_ne {r : Record} {key name : String} {v : Json} (hne : name ≠ key) :
    (r.set key v).field name = r.field name := by
  unfold Json.Record.field Json.Record.set
  rw [KeyMap.lookup_put, if_neg hne]

theorem ofRecord_set {r : Record} {key : String} {v : Json} (hkey : key ∉ fieldNames) :
    ofRecord (r.set key v) = ofRecord r := by
  apply ofRecord_congr
  intro name hname
  apply field_set_of_ne
  intro heq
  exact hkey (heq ▸ hname)

end GovernanceLock.Manifest
