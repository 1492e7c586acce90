import GovernanceLock.Proofs.Manifest.Normalize
import GovernanceLock.Resolution

/-!
This module contains the catalog of registered records: it exists iff every record normalizes to a
manifest with the id it is registered under, and it has exactly these manifests.
-/

namespace GovernanceLock.Resolution

open Except (bind_eq_ok_iff mapError_eq_ok_iff pure_eq_ok_iff)
open Json (Record)

theorem normalize_eq_ok_iff {key : PackId} {r : Record} {m : Manifest} :
    normalize key r = .ok m ↔ Manifest.ofRecord r = .ok m ∧ m.id = key := by
  unfold normalize
  simp only [bind_eq_ok_iff, mapError_eq_ok_iff]
  constructor
  · rintro ⟨m', hm', h⟩
    split at h
    · next hid =>
      rw [pure_eq_ok_iff] at h
      exact ⟨h ▸ hm', h ▸ hid⟩
    · cases h
  · rintro ⟨hm, hid⟩
    refine ⟨m, hm, ?_⟩
    rw [if_pos hid, pure_eq_ok_iff]

/--
The catalog has the manifests of the registered records, each of which normalizes under its own id.
-/
structure Normalizes (records : KeyMap Record) (catalog : Catalog) : Prop where
  registered : ∀ key r, records.get? key = some r →
    ∃ m, Manifest.ofRecord r = .ok m ∧ m.id = key ∧ catalog.get? key = some m
  unregistered : ∀ key, records.get? key = none → catalog.get? key = none

theorem normalizeAll_spec {base catalog : Catalog} {l : List (PackId × Record)}
    (hl : l.Pairwise fun a b => a.1 < b.1) (h : normalizeAll base l = .ok catalog) :
    (∀ key r, KeyMap.lookup key l = some r →
      ∃ m, Manifest.ofRecord r = .ok m ∧ m.id = key ∧ catalog.get? key = some m) ∧
      ∀ key, KeyMap.lookup key l = none → catalog.get? key = base.get? key := by
  induction l generalizing base with
  | nil =>
    rw [normalizeAll] at h
    cases h
    simp [KeyMap.lookup]
  | cons e l ih =>
    rcases e with ⟨k, record⟩
    rw [List.pairwise_cons] at hl
    rw [normalizeAll, bind_eq_ok_iff] at h
    rcases h with ⟨m, hm, h⟩
    rw [normalize_eq_ok_iff] at hm
    rcases ih hl.2 h with ⟨hsome, hnone⟩
    have hk : KeyMap.lookup k l = none := by
      rw [KeyMap.lookup_eq_none_iff]
      intro hmem
      rcases List.mem_map.1 hmem with ⟨e, he, heq⟩
      exact String.lt_irrefl k (heq ▸ hl.1 e he)
    constructor
    · intro key r hr
      rw [KeyMap.lookup] at hr
      split at hr
      · next heq =>
        subst heq
        cases hr
        refine ⟨m, hm.1, hm.2, ?_⟩
        rw [hnone key hk, KeyMap.get?_insert, if_pos rfl]
      · exact hsome key r hr
    · intro key hkey
      rw [KeyMap.lookup] at hkey
      split at hkey
      · cases hkey
      · next hne => rw [hnone key hkey, KeyMap.get?_insert, if_neg hne]

theorem exists_normalizeAll (base : Catalog) {l : List (PackId × Record)}
    (h : ∀ e ∈ l, ∃ m, Manifest.ofRecord e.2 = .ok m ∧ m.id = e.1) :
    ∃ catalog, normalizeAll base l = .ok catalog := by
  induction l generalizing base with
  | nil => exact ⟨base, rfl⟩
  | cons e l ih =>
    rw [List.forall_mem_cons] at h
    rcases h.1 with ⟨m, hm⟩
    rcases ih (base.insert e.1 m) h.2 with ⟨catalog, hcatalog⟩
    refine ⟨catalog, ?_⟩
    rw [normalizeAll, bind_eq_ok_iff]
    exact ⟨m, normalize_eq_ok_iff.2 hm, hcatalog⟩

namespace Normalizes

variable {records : KeyMap Record} {catalog : Catalog}

theorem unique {other : Catalog} (h : Normalizes records catalog)
    (hother : Normalizes records other) : catalog = other := by
  apply KeyMap.ext_get?
  intro key
  cases hr : records.get? key with
  | none => rw [h.unregistered key hr, hother.unregistered key hr]
  | some r =>
    rcases h.registered key r hr with ⟨m, hm, _, hget⟩
    rcases hother.registered key r hr with ⟨m', hm', _, hget'⟩
    rw [hm] at hm'
    cases hm'
    rw [hget, hget']

theorem exists_record (h : Normalizes records catalog) {key : PackId} {m : Manifest}
    (hm : catalog.get? key = some m) :
    ∃ r, records.get? key = some r ∧ Manifest.ofRecord r = .ok m ∧ m.id = key := by
  cases hr : records.get? key with
  | none =>
    rw [h.unregistered key hr] at hm
    cases hm
  | some r =>
    rcases h.registered key r hr with ⟨m', hm', hid, hget⟩
    rw [hget] at hm
    cases hm
    exact ⟨r, rfl, hm', hid⟩

theorem ordered (h : Normalizes records catalog) {key : PackId} {m : Manifest}
    (hm : catalog.get? key = some m) : m.Ordered := by
  rcases h.exists_record hm with ⟨_, _, hr, _⟩
  exact (Manifest.ofRecord_eq_ok_iff.1 hr).ordered

theorem contains_iff (h : Normalizes records catalog) {key : PackId} :
    catalog.contains key = true ↔ records.contains key = true := by
  rw [KeyMap.contains_iff, KeyMap.contains_iff]
  constructor
  · rintro ⟨m, hm⟩
    rcases h.exists_record hm with ⟨r, hr, _⟩
    exact ⟨r, hr⟩
  · rintro ⟨r, hr⟩
    rcases h.registered key r hr with ⟨m, _, _, hm⟩
    exact ⟨m, hm⟩

theorem of_rel {records' : KeyMap Record} (h : Normalizes records catalog)
    (hrel : ∀ key, Option.Rel
      (fun r r' => ∀ m, Manifest.ofRecord r = .ok m → Manifest.ofRecord r' = .ok m)
      (records.get? key) (records'.get? key)) : Normalizes records' catalog := by
  constructor
  · intro key r' hr'
    have hkey := hrel key
    rw [hr'] at hkey
    generalize hr : records.get? key = o at hkey
    cases hkey with
    | some himp =>
      rcases h.registered key _ hr with ⟨m, hm, hid, hget⟩
      exact ⟨m, himp m hm, hid, hget⟩
  · intro key hnone
    have hkey := hrel key
    rw [hnone] at hkey
    generalize hr : records.get? key = o at hkey
    cases hkey with
    | none => exact h.unregistered key hr

end Normalizes

theorem normalizes_of_normalizeAll_eq_ok {records : KeyMap Record} {catalog : Catalog}
    (h : normalizeAll .empty records.entries = .ok catalog) : Normalizes records catalog := by
  rcases normalizeAll_spec records.ascending h with ⟨hsome, hnone⟩
  exact ⟨hsome, hnone⟩

theorem exists_catalog {records : KeyMap Record}
    (h : ∀ key r, records.get? key = some r → ∃ m, Manifest.ofRecord r = .ok m ∧ m.id = key) :
    ∃ catalog, normalizeAll .empty records.entries = .ok catalog := by
  apply exists_normalizeAll
  intro e he
  exact h e.1 e.2 (KeyMap.mem_entries_iff.1 he)

theorem normalizeAll_eq_ok_iff {records : KeyMap Record} {catalog : Catalog} :
    normalizeAll .empty records.entries = .ok catalog ↔ Normalizes records catalog := by
  constructor
  · exact normalizes_of_normalizeAll_eq_ok
  · intro h
    have hall : ∀ key r, records.get? key = some r →
        ∃ m, Manifest.ofRecord r = .ok m ∧ m.id = key := by
      intro key r hr
      rcases h.registered key r hr with ⟨m, hm, hid, _⟩
      exact ⟨m, hm, hid⟩
    rcases exists_catalog hall with ⟨other, hother⟩
    rw [hother, (normalizes_of_normalizeAll_eq_ok hother).unique h]

end GovernanceLock.Resolution
