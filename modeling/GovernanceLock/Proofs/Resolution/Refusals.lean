import GovernanceLock.Proofs.Order.First
import GovernanceLock.Proofs.Resolution.Catalog
import GovernanceLock.Proofs.Resolution.Checks

/-!
This module contains what the checks of a resolution report when they fail: each runs through its
packs in order and is about the first for which its condition does not hold.
-/

namespace GovernanceLock.Resolution

open Except (bind_eq_error_iff mapError_eq_error_iff mapError_eq_ok_iff pure_ne_error)
open Json (Record)

theorem normalize_eq_error {key : PackId} {r : Record} {e : Error}
    (h : normalize key r = .error e) :
    (∃ cause, Manifest.ofRecord r = .error cause ∧ e = .manifest cause) ∨
      ∃ m, Manifest.ofRecord r = .ok m ∧ m.id ≠ key ∧ e = .idMismatch key m.id := by
  unfold normalize at h
  rw [bind_eq_error_iff] at h
  rcases h with h | ⟨m, hm, h⟩
  · rw [mapError_eq_error_iff] at h
    rcases h with ⟨cause, hcause, rfl⟩
    exact .inl ⟨cause, hcause, rfl⟩
  · rw [mapError_eq_ok_iff] at hm
    split at h
    · exact absurd h pure_ne_error
    · next hid =>
      cases h
      exact .inr ⟨m, hm, hid, rfl⟩

theorem normalizeAll_eq_error {base : Catalog} {l : List (PackId × Record)} {e : Error}
    (h : normalizeAll base l = .error e) :
    ∃ entry, IsFirst (fun entry => ∃ e, normalize entry.1 entry.2 = .error e) l entry ∧
      normalize entry.1 entry.2 = .error e := by
  induction l generalizing base with
  | nil =>
    rw [normalizeAll] at h
    cases h
  | cons entry l ih =>
    rw [normalizeAll, bind_eq_error_iff] at h
    rcases h with h | ⟨m, hm, h⟩
    · exact ⟨entry, .head ⟨e, h⟩, h⟩
    · rcases ih h with ⟨other, hfirst, hother⟩
      refine ⟨other, hfirst.tail ?_, hother⟩
      rintro ⟨e', he'⟩
      rw [hm] at he'
      cases he'

theorem checkSelection_eq_error {catalog : Catalog} {ids : List PackId} {e : Error}
    (h : checkSelection catalog ids = .error e) :
    (ids = [] ∧ e = .emptySelection) ∨
      ∃ id, IsFirst (fun id => catalog.contains id = false) ids id ∧ e = .unknownSelection id := by
  unfold checkSelection at h
  split at h
  · next hempty =>
    cases h
    left
    exact ⟨List.isEmpty_iff.1 hempty, rfl⟩
  · split at h
    · next id hfind =>
      cases h
      right
      refine ⟨id, ?_, rfl⟩
      have := IsFirst.find?_eq_some_iff.1 hfind
      simpa using this
    · cases h

variable {catalog : Catalog}

theorem checkEngine_eq_error {engine : Version} {ids : List PackId} {e : Error}
    (h : checkEngine catalog engine ids = .error e) :
    ∃ id m, IsFirst (fun p => ¬ catalog.Supports p engine) ids id ∧ catalog.get? id = some m ∧
      e = .incompatibleEngine id engine m.compat := by
  induction ids with
  | nil => cases h
  | cons id ids ih =>
    rw [checkEngine] at h
    cases hm : catalog.get? id with
    | none =>
      rw [hm] at h
      rcases ih h with ⟨other, m, hfirst, hother⟩
      exact ⟨other, m, hfirst.tail (by simp [Catalog.Supports, hm]), hother⟩
    | some m =>
      rw [hm] at h
      dsimp only at h
      split at h
      · next hin =>
        rcases ih h with ⟨other, n, hfirst, hother⟩
        exact ⟨other, n, hfirst.tail (by simp [Catalog.Supports, hm, hin]), hother⟩
      · next hout =>
        cases h
        exact ⟨id, m, .head (by simp [Catalog.Supports, hm, hout]), hm, rfl⟩

theorem conflictsWith_iff {p q : PackId} {m : Manifest} (hm : catalog.get? p = some m) :
    catalog.ConflictsWith p q ↔ q ∈ m.conflictsWith := by
  unfold Catalog.ConflictsWith
  simp [hm]

theorem checkConflicts_eq_error {packs ids : List PackId} {e : Error}
    (h : checkConflicts catalog packs ids = .error e) :
    ∃ id m other, IsFirst (fun p => ∃ q ∈ packs, catalog.ConflictsWith p q) ids id ∧
      catalog.get? id = some m ∧ IsFirst (· ∈ packs) m.conflictsWith other ∧
      e = .conflict id other := by
  induction ids with
  | nil => cases h
  | cons id ids ih =>
    rw [checkConflicts] at h
    split at h
    · next other hother =>
      cases h
      rw [Option.bind_eq_some_iff] at hother
      rcases hother with ⟨m, hm, hfind⟩
      have hfirst := IsFirst.find?_eq_some_iff.1 hfind
      simp only [decide_eq_true_eq] at hfirst
      refine ⟨id, m, other, .head ⟨other, ?_, ?_⟩, hm, hfirst, rfl⟩
      · simpa using List.find?_some hfind
      · rw [conflictsWith_iff hm]
        exact List.mem_of_find?_eq_some hfind
    · next hnone =>
      rcases ih h with ⟨other, m, q, hfirst, hother⟩
      refine ⟨other, m, q, hfirst.tail ?_, hother⟩
      rintro ⟨q, hq, m, hm, hmem⟩
      rw [hm, Option.bind_some, List.find?_eq_none] at hnone
      exact hnone q hmem (decide_eq_true hq)

theorem enterOwner_eq_error {owners : KeyMap PackId} {id : PackId} {surfaces : List SurfaceTag}
    {e : Error} (hnodup : surfaces.Nodup) (h : enterOwner owners id surfaces = .error e) :
    ∃ s first, IsFirst (fun s => ∃ p, owners.get? s = some p) surfaces s ∧
      owners.get? s = some first ∧ e = .surfaceConflict s first id := by
  induction surfaces generalizing owners with
  | nil => cases h
  | cons surface surfaces ih =>
    rw [List.nodup_cons] at hnodup
    rw [enterOwner] at h
    split at h
    · next first hfirst =>
      cases h
      exact ⟨surface, first, .head ⟨first, hfirst⟩, hfirst, rfl⟩
    · next hnone =>
      rcases ih hnodup.2 h with ⟨s, first, hs, hget, he⟩
      -- The surface that was just entered does not come again.
      have hsame : ∀ t ∈ surfaces, (owners.insert surface id).get? t = owners.get? t := by
        intro t ht
        rw [KeyMap.get?_insert, if_neg]
        rintro rfl
        exact hnodup.1 ht
      rw [hsame s hs.mem] at hget
      refine ⟨s, first, .tail (by simp [hnone]) ?_, hget, he⟩
      exact hs.congr fun t ht => by rw [hsame t ht]

theorem ownersOf_eq_error {owners : KeyMap PackId} {ids : List PackId} {e : Error}
    (h : ownersOf catalog owners ids = .error e) :
    ∃ before id after mid, ids = before ++ id :: after ∧
      ownersOf catalog owners before = .ok mid ∧
      enterOwner mid id (surfacesOf catalog id) = .error e := by
  induction ids generalizing owners with
  | nil => cases h
  | cons id ids ih =>
    rw [ownersOf, bind_eq_error_iff] at h
    rcases h with h | ⟨entered, hentered, h⟩
    · exact ⟨[], id, ids, owners, rfl, rfl, h⟩
    · rcases ih h with ⟨before, other, after, mid, rfl, hmid, he⟩
      refine ⟨id :: before, other, after, mid, rfl, ?_, he⟩
      rw [ownersOf_cons_eq_ok_iff]
      exact ⟨entered, hentered, hmid⟩

theorem unrequired?_eq_some_iff {owners : KeyMap PackId} {id owner : PackId} {m : Manifest}
    {surface : SurfaceTag} :
    unrequired? owners id m surface = some owner ↔
      owners.get? surface = some owner ∧ owner ≠ id ∧ owner ∉ m.requires := by
  unfold unrequired?
  rw [Option.filter_eq_some_iff]
  simp

theorem checkTouches_eq_error {owners : KeyMap PackId} {ids : List PackId} {e : Error}
    (h : checkTouches catalog owners ids = .error e) :
    ∃ id m s owner,
      IsFirst (fun p => ∃ m, catalog.get? p = some m ∧
        ∃ s ∈ m.touchesSurfaces, ∃ owner, unrequired? owners p m s = some owner) ids id ∧
      catalog.get? id = some m ∧
      IsFirst (fun s => ∃ owner, unrequired? owners id m s = some owner) m.touchesSurfaces s ∧
      unrequired? owners id m s = some owner ∧ e = .unrequiredOwner id s owner := by
  induction ids with
  | nil => cases h
  | cons id ids ih =>
    rw [checkTouches] at h
    split at h
    · next found hfound =>
      cases h
      rw [Option.bind_eq_some_iff] at hfound
      rcases hfound with ⟨m, hm, hfound⟩
      rw [List.findSome?_eq_some_iff] at hfound
      rcases hfound with ⟨before, s, after, hsplit, hs, hbefore⟩
      rw [Option.map_eq_some_iff] at hs
      rcases hs with ⟨owner, howner, rfl⟩
      have hmem : s ∈ m.touchesSurfaces := by
        rw [hsplit]
        simp
      refine ⟨id, m, s, owner, .head ⟨m, hm, s, hmem, owner, howner⟩, hm, ?_, howner, rfl⟩
      refine ⟨before, after, hsplit, ⟨owner, howner⟩, ?_⟩
      rintro t ht ⟨other, hother⟩
      have := hbefore t ht
      rw [hother] at this
      cases this
    · next hnone =>
      rcases ih h with ⟨other, n, s, owner, hfirst, hother⟩
      refine ⟨other, n, s, owner, hfirst.tail ?_, hother⟩
      rintro ⟨m, hm, t, ht, q, hq⟩
      rw [hm, Option.bind_some, List.findSome?_eq_none_iff] at hnone
      have := hnone t ht
      rw [hq] at this
      cases this

end GovernanceLock.Resolution
