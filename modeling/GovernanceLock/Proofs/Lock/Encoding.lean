import GovernanceLock.Lock.Seal
import GovernanceLock.Proofs.Json.Fits
import GovernanceLock.Proofs.Version

/-!
This module contains the proof that the JSON forms of a lock and of its parts can be told in texts
without loss, and that different locks have different forms.
-/

namespace GovernanceLock

open Json (Fits)

variable {limit : Nat}

@[simp]
theorem Json.strings_inj {l k : List String} : Json.strings l = Json.strings k ↔ l = k := by
  unfold Json.strings
  rw [Json.array.injEq, List.map_inj_right]
  intro s t h
  exact Json.string.inj h

namespace Version

@[simp]
theorem toJson_inj {v w : Version} : v.toJson = w.toJson ↔ v = w := by
  rw [toJson, toJson, Json.string.injEq, toString_inj]

theorem toJson_fits (v : Version) : v.toJson.Fits limit :=
  .string v.toString

end Version

namespace CompatRange

@[simp]
theorem toJson_inj {r s : CompatRange} : r.toJson = s.toJson ↔ r = s := by
  cases r
  cases s
  simp [toJson, and_comm]

theorem toJson_fits (r : CompatRange) : r.toJson.Fits (limit + 1) := by
  have hkeys : Ascending ["engine_max", "engine_min"] := by decide
  apply Fits.object
  · exact hkeys
  · simp [Version.toJson_fits]

end CompatRange

namespace LockedPack

@[simp]
theorem toJson_inj {p q : LockedPack} : p.toJson = q.toJson ↔ p = q := by
  cases p
  cases q
  simp only [toJson, Json.object.injEq, List.cons.injEq, Prod.mk.injEq, true_and, and_true,
    CompatRange.toJson_inj, Version.toJson_inj, Json.strings_inj, Json.string.injEq,
    LockedPack.mk.injEq]
  constructor
  · rintro ⟨hcompat, hconflicts, hid, howns, hrequires, hdigest, htouches, hversion⟩
    exact ⟨hid, hversion, hdigest, hcompat, hrequires, hconflicts, howns, htouches⟩
  · rintro ⟨hid, hversion, hdigest, hcompat, hrequires, hconflicts, howns, htouches⟩
    exact ⟨hcompat, hconflicts, hid, howns, hrequires, hdigest, htouches, hversion⟩

theorem toJson_fits (p : LockedPack) : p.toJson.Fits (limit + 2) := by
  have hkeys : Ascending ["compat", "conflicts_with", "id", "owns_surfaces", "requires", "sha256",
    "touches_surfaces", "version"] := by decide
  apply Fits.object
  · exact hkeys
  · simp [CompatRange.toJson_fits, Version.toJson_fits, Fits.string, Fits.strings]

theorem packs_fit (packs : List LockedPack) :
    (Json.array (packs.map toJson)).Fits (limit + 3) := by
  apply Fits.array
  intro v hv
  rcases List.mem_map.1 hv with ⟨p, _, rfl⟩
  exact p.toJson_fits

end LockedPack

namespace Lock

theorem toJson_fits (l : Lock) : l.toJson.Fits (limit + 4) := by
  have hkeys : Ascending ["engine_version", "lock_hash", "packs", "resolved_order", "schema",
    "selected"] := by decide
  apply Fits.object
  · exact hkeys
  · simp [Version.toJson_fits, LockedPack.packs_fit, Fits.string, Fits.strings]

theorem unsealed_fits (l : Lock) : l.unsealed.Fits (limit + 4) := by
  have hkeys : Ascending ["engine_version", "packs", "resolved_order", "schema", "selected"] := by
    decide
  apply Fits.object
  · exact hkeys
  · simp [Version.toJson_fits, LockedPack.packs_fit, Fits.string, Fits.strings]

theorem unsealed_inj {l k : Lock} :
    l.unsealed = k.unsealed ↔ { l with lockHash := k.lockHash } = k := by
  have hpacks : l.packs.map LockedPack.toJson = k.packs.map LockedPack.toJson ↔ l.packs = k.packs :=
    List.map_inj_right fun _ _ => LockedPack.toJson_inj.1
  cases l
  cases k
  simp only [unsealed, Json.object.injEq, List.cons.injEq, Prod.mk.injEq, true_and, and_true,
    Version.toJson_inj, Json.strings_inj, Json.string.injEq, Json.array.injEq, hpacks,
    Lock.mk.injEq]
  constructor
  · rintro ⟨hengine, hpacks, horder, hschema, hselected⟩
    exact ⟨hschema, hengine, hselected, horder, hpacks⟩
  · rintro ⟨hschema, hengine, hselected, horder, hpacks⟩
    exact ⟨hengine, hpacks, horder, hschema, hselected⟩

end Lock

end GovernanceLock
