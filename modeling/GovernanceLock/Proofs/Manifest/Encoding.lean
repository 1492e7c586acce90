import GovernanceLock.Proofs.Json.RoundTrip
import GovernanceLock.Proofs.Lock.Encoding
import GovernanceLock.Proofs.Manifest.Normalize
import GovernanceLock.Proofs.Sha256

/-!
This module contains the proof that the canonical text of a manifest tells everything about it, the
artifacts included, which stand in it only if there are any.
-/

namespace GovernanceLock.Manifest

variable {limit : Nat}

def artifactsField (artifacts : List String) : Json :=
  if artifacts = [] then .null else .strings artifacts

theorem artifactsField_inj {l k : List String} : artifactsField l = artifactsField k ↔ l = k := by
  unfold artifactsField
  constructor
  · intro h
    split at h
    · next hl =>
      split at h
      · next hk => rw [hl, hk]
      · cases h
    · split at h
      · cases h
      · exact Json.strings_inj.1 h
  · rintro rfl
    rfl

theorem map_field_toRecord (m : Manifest) :
    fieldNames.map m.toRecord.field =
      [.string m.id, m.version.toJson, m.compat.toJson, .strings m.requires,
        .strings m.conflictsWith, artifactsField m.artifacts, .strings m.ownsSurfaces,
        .strings m.touchesSurfaces] := by
  unfold fieldNames toRecord artifactsField
  cases m.artifacts with
  | nil => rfl
  | cons path rest => rfl

theorem toRecord_inj {m n : Manifest} : m.toRecord = n.toRecord ↔ m = n := by
  constructor
  · intro h
    have hfields := map_field_toRecord m
    rw [h, map_field_toRecord n] at hfields
    simp only [List.cons.injEq, Json.string.injEq, Version.toJson_inj, CompatRange.toJson_inj,
      Json.strings_inj, artifactsField_inj, and_true] at hfields
    rcases hfields with ⟨hid, hversion, hcompat, hrequires, hconflicts, hartifacts, howns, htouches⟩
    cases m
    cases n
    rw [Manifest.mk.injEq]
    exact ⟨hid.symm, hversion.symm, hcompat.symm, hrequires.symm, hconflicts.symm, howns.symm,
      htouches.symm, hartifacts.symm⟩
  · rintro rfl
    rfl

theorem toRecord_ascending (m : Manifest) : Ascending (m.toRecord.map (·.1)) := by
  unfold toRecord
  cases m.artifacts with
  | nil =>
    change Ascending ["compat", "conflicts_with", "id", "owns_surfaces", "requires",
      "touches_surfaces", "version"]
    decide
  | cons path rest =>
    change Ascending ["artifacts", "compat", "conflicts_with", "id", "owns_surfaces", "requires",
      "touches_surfaces", "version"]
    decide

theorem toJson_fits (m : Manifest) : m.toJson.Fits (limit + 2) := by
  apply Json.Fits.object
  · exact m.toRecord_ascending
  · unfold toRecord
    split
    · simp [CompatRange.toJson_fits, Version.toJson_fits, Json.Fits.string, Json.Fits.strings]
    · simp [CompatRange.toJson_fits, Version.toJson_fits, Json.Fits.string, Json.Fits.strings]

/--
Different manifests have different canonical texts.
-/
theorem canonicalText_inj {m n : Manifest} : m.canonicalText = n.canonicalText ↔ m = n := by
  constructor
  · intro h
    have hjson : m.toJson = n.toJson :=
      Json.render_injective .canonical m.toJson_fits n.toJson_fits h
    rw [toJson, toJson, Json.object.injEq] at hjson
    exact toRecord_inj.1 hjson
  · rintro rfl
    rfl

/--
The SHA-256 values of the canonical texts of two manifests do not collide.
-/
def CollisionFree (m n : Manifest) : Prop :=
  Sha256.CollisionFree m.canonicalText n.canonicalText

theorem digest_eq_iff {m n : Manifest} (hfree : CollisionFree m n) :
    m.digest = n.digest ↔ m = n := by
  unfold digest
  rw [Digest.ofText_eq_iff hfree, canonicalText_inj]

end GovernanceLock.Manifest
