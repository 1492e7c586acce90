import GovernanceLock.Proofs.Manifest.Encoding
import GovernanceLock.Proofs.Manifest.Validity

/-!
This module contains the normal form of manifests. The manifests of records are those in normal
form, and normalization leaves them as they are: the record that such a manifest is written as has
this manifest again, also after it has been written as text and read.
-/

namespace GovernanceLock.Manifest

open Json (Record)

def IsTrimmed (t : String) : Prop :=
  t ≠ "" ∧ Text.trimmed t = t

/--
The lists are ascending and hold trimmed texts, the pack does not name itself, and its artifacts are
safe paths.
-/
structure IsNormal (m : Manifest) : Prop where
  id : IsTrimmed m.id
  ordered : m.Ordered
  entries : ∀ l ∈ [m.requires, m.conflictsWith, m.artifacts, m.ownsSurfaces, m.touchesSurfaces],
    ∀ t ∈ l, IsTrimmed t
  requiresOthers : m.id ∉ m.requires
  conflictsWithOthers : m.id ∉ m.conflictsWith
  safe : ∀ path ∈ m.artifacts, ArtifactPath.isSafe path = true

theorem IsText.isTrimmed {v : Json} {t : String} (h : IsText v t) : IsTrimmed t := by
  rcases h with ⟨s, rfl, hne, rfl⟩
  exact ⟨hne, Text.trimmed_trimmed s⟩

theorem IsTrimmed.isText {t : String} (h : IsTrimmed t) : IsText (.string t) t := by
  refine ⟨t, rfl, ?_, h.2⟩
  rw [h.2]
  exact h.1

theorem isTrimmed_of_textSet {v : Json} {l : List String} (h : textSet v = .ok l) :
    ∀ t ∈ l, IsTrimmed t := by
  intro t ht
  rcases ((textSet_eq_ok_iff.1 h).2.mem t).1 ht with ⟨items, _, item, _, hitem⟩
  exact hitem.isTrimmed

theorem Describes.isNormal {r : Record} {m : Manifest} (h : Describes r m) : m.IsNormal where
  id := (nonBlank_eq_ok_iff.1 h.id).isTrimmed
  ordered := h.ordered
  entries := by
    simp only [List.forall_mem_cons, List.not_mem_nil, false_implies, implies_true, and_true]
    exact ⟨isTrimmed_of_textSet h.requires, isTrimmed_of_textSet h.conflictsWith,
      isTrimmed_of_textSet h.artifacts, isTrimmed_of_textSet h.ownsSurfaces,
      isTrimmed_of_textSet h.touchesSurfaces⟩
  requiresOthers := h.requiresOthers
  conflictsWithOthers := h.conflictsWithOthers
  safe := h.safe

theorem versionText_toJson (x : Version) : versionText x.toJson = .ok x :=
  versionText_string_eq_ok_iff.2 x.parse_toString

theorem textSet_strings {l : List String} (hl : Ascending l) (h : ∀ t ∈ l, IsTrimmed t) :
    textSet (.strings l) = .ok l := by
  unfold Json.strings
  rw [textSet_array_eq_ok_iff, List.forall_mem_map]
  simp only [nonBlank_eq_ok_iff]
  refine ⟨hl, fun t ht => ⟨t, (h t ht).isText⟩, ?_⟩
  intro t
  constructor
  · intro ht
    exact ⟨.string t, List.mem_map_of_mem ht, (h t ht).isText⟩
  · rintro ⟨_, hmem, htext⟩
    rcases List.mem_map.1 hmem with ⟨s, hs, rfl⟩
    rw [htext.unique (h s hs).isText]
    exact hs

theorem textSet_artifactsField {l : List String} (hl : Ascending l) (h : ∀ t ∈ l, IsTrimmed t) :
    textSet (artifactsField l) = .ok l := by
  unfold artifactsField
  split
  · next hnil =>
    rw [hnil]
    rfl
  · exact textSet_strings hl h

theorem IsNormal.describes_toRecord {m : Manifest} (h : m.IsNormal) : Describes m.toRecord m := by
  have hfields := m.map_field_toRecord
  simp only [fieldNames, List.map_cons, List.map_nil, List.cons.injEq, and_true] at hfields
  rcases hfields with ⟨hid, hversion, hcompat, hrequires, hconflicts, hartifacts, howns, htouches⟩
  have hentries := h.entries
  simp only [List.forall_mem_cons, List.not_mem_nil, false_implies, implies_true, and_true]
    at hentries
  rcases hentries with ⟨hrequires', hconflicts', hartifacts', howns', htouches'⟩
  constructor
  · rw [hid]
    exact nonBlank_eq_ok_iff.2 h.id.isText
  · rw [hversion]
    exact versionText_toJson m.version
  · rw [hcompat]
    exact ⟨_, rfl, versionText_toJson m.compat.engineMin, versionText_toJson m.compat.engineMax⟩
  · rw [hrequires]
    exact textSet_strings h.ordered.requires hrequires'
  · rw [hconflicts]
    exact textSet_strings h.ordered.conflictsWith hconflicts'
  · exact h.requiresOthers
  · exact h.conflictsWithOthers
  · rw [hartifacts]
    exact textSet_artifactsField h.ordered.artifacts hartifacts'
  · exact h.safe
  · rw [howns]
    exact textSet_strings h.ordered.ownsSurfaces howns'
  · rw [htouches]
    exact textSet_strings h.ordered.touchesSurfaces htouches'

theorem IsNormal.ofRecord_toRecord {m : Manifest} (h : m.IsNormal) :
    ofRecord m.toRecord = .ok m :=
  ofRecord_eq_ok_iff.2 h.describes_toRecord

/--
The manifests that records have are those in normal form.
-/
theorem exists_record_iff_isNormal {m : Manifest} : (∃ r, ofRecord r = .ok m) ↔ m.IsNormal := by
  constructor
  · rintro ⟨r, hr⟩
    exact (ofRecord_eq_ok_iff.1 hr).isNormal
  · intro h
    exact ⟨m.toRecord, h.ofRecord_toRecord⟩

theorem lookup_artifacts_toRecord (m : Manifest) :
    KeyMap.lookup "artifacts" m.toRecord =
      if m.artifacts = [] then none else some (.strings m.artifacts) := by
  unfold toRecord
  cases m.artifacts with
  | nil => rfl
  | cons path rest => rfl

theorem parse?_canonicalText (m : Manifest) :
    Json.parse? m.canonicalText = some (.object m.toRecord) :=
  Json.parse?_render .canonical m.toJson_fits

/--
Normalizing once more changes nothing. The record that a manifest is written as, which has no
artifacts if the manifest has none, has the same manifest; and so has the record that is read from
the canonical text, so that this text and its digest are the same, too.
-/
theorem ofRecord_idempotent {r : Record} {m : Manifest} (h : ofRecord r = .ok m) :
    ofRecord m.toRecord = .ok m ∧
      (KeyMap.lookup "artifacts" m.toRecord = none ↔ m.artifacts = []) ∧
      ∃ again n, Json.parse? m.canonicalText = some (.object again) ∧ ofRecord again = .ok n ∧
        n = m ∧ n.canonicalText = m.canonicalText ∧ n.digest = m.digest := by
  have hm := (exists_record_iff_isNormal.1 ⟨r, h⟩).ofRecord_toRecord
  refine ⟨hm, ?_, m.toRecord, m, m.parse?_canonicalText, hm, rfl, rfl, rfl⟩
  rw [lookup_artifacts_toRecord]
  simp

section

/-!
A record with blanks, zeros, repeats and lists in disorder, and its manifest.
-/

def untidyRecord : Record :=
  [("artifacts", .strings [" notes/é.md\u2003", "a.md", "notes/é.md"]),
   ("compat", .object [("engine_max", .string "\t03.0.0"), ("engine_min", .string "1.0.00")]),
   ("id", .string " app\n"),
   ("owns_surfaces", .array []),
   ("requires", .strings ["lib", "base ", "lib"]),
   ("source", .string "elsewhere"),
   ("version", .string " 01.2.3 ")]

def tidyManifest : Manifest where
  id := "app"
  version := ⟨1, 2, 3⟩
  compat := ⟨⟨1, 0, 0⟩, ⟨3, 0, 0⟩⟩
  requires := ["base", "lib"]
  conflictsWith := []
  ownsSurfaces := []
  touchesSurfaces := []
  artifacts := ["a.md", "notes/é.md"]

theorem untidyRecord_ofRecord : ofRecord untidyRecord = .ok tidyManifest := rfl

theorem untidyRecord_idempotent :
    ofRecord untidyRecord = .ok tidyManifest ∧
      ofRecord tidyManifest.toRecord = .ok tidyManifest ∧
      KeyMap.lookup "artifacts" tidyManifest.toRecord ≠ none ∧
      ∃ again n, Json.parse? tidyManifest.canonicalText = some (.object again) ∧
        ofRecord again = .ok n ∧ n.digest = tidyManifest.digest := by
  rcases ofRecord_idempotent untidyRecord_ofRecord with
    ⟨hrecord, hartifacts, again, n, hparse, hn, _, _, hdigest⟩
  refine ⟨untidyRecord_ofRecord, hrecord, ?_, again, n, hparse, hn, hdigest⟩
  intro hnone
  have := hartifacts.1 hnone
  cases this

end

end GovernanceLock.Manifest
