import GovernanceLock.Proofs.Resolution.Agreement
import GovernanceLock.Proofs.Version

/-!
This module contains the statement that a lock can be reproduced from what it says, with any records
that agree on the packs it locks.
-/

namespace GovernanceLock.Resolution

open Except (bind_eq_ok_iff)
open Json (Record)

theorem selected_selection {selected : List String} :
    Selected (selection selected) = Selected selected := by
  funext id
  rw [← mem_selection_iff]
  apply propext
  constructor
  · intro h
    rw [mem_selection_iff] at h
    rcases h with ⟨_, text, htext, rfl⟩
    rcases mem_selection_iff.1 htext with ⟨_, s, _, rfl⟩
    rw [Text.trimmed_trimmed]
    exact mem_selection_iff.1 htext
  · intro h
    rw [mem_selection_iff]
    refine ⟨h.1, id, mem_selection_iff.2 h, ?_⟩
    rcases h with ⟨_, s, _, rfl⟩
    exact Text.trimmed_trimmed s

theorem selection_selection (selected : List String) :
    selection (selection selected) = selection selected := by
  apply Ascending.eq_of_mem_iff
  · exact Ascending.ofList_ascending _
  · exact Ascending.ofList_ascending _
  · intro id
    rw [mem_selection_iff, mem_selection_iff, selected_selection]

theorem Resolvable.of_agreeOn {records records' : KeyMap Record} {selected selected' : List String}
    {engineText engineText' : String} {catalog other : Catalog} {engine : Version}
    (h : Resolvable records selected engineText catalog engine)
    (hnormalizes : Normalizes records' other)
    (hagree : catalog.AgreeOn other (catalog.ReachesFrom (Selected selected)))
    (hselected : Selected selected' = Selected selected)
    (hparses : Version.parse engineText' = .ok engine) :
    Resolvable records' selected' engineText' other engine := by
  have hknown : ∀ p, catalog.ReachesFrom (Selected selected) p → p ∈ records'.keys := by
    intro p hp
    rw [← hnormalizes.contains_iff_mem_keys, KeyMap.contains_iff, hagree p hp]
    exact KeyMap.contains_iff.1 (h.contains hp)
  constructor
  · exact hnormalizes
  · rw [hselected]
    exact h.nonempty
  · rw [hselected]
    intro id hid
    exact hknown id (.of_start hid)
  · exact hparses
  · rw [hselected, hagree.reachesFrom_eq]
    intro p hp q hq
    rw [hagree.requires_eq hp] at hq
    exact hknown q (hp.tail hq)
  · rw [hselected, hagree.reachesFrom_eq]
    exact hagree.compatible h.compatible

/--
Records that normalize to the manifests of the locked packs, whatever else they are, resolve what
the lock has selected, for the printed engine version, into the same lock.
-/
theorem resolve_reproduces {records records' : KeyMap Record} {selected : List String}
    {engineText : String} {lock : Lock}
    (hlock : resolve records selected engineText = .ok lock)
    (hnormalize : ∀ key r, records'.get? key = some r →
      ∃ m, Manifest.ofRecord r = .ok m ∧ m.id = key)
    (hsame : ∀ id ∈ lock.resolvedOrder, ∃ r r', records.get? id = some r ∧
      records'.get? id = some r' ∧ Manifest.ofRecord r' = Manifest.ofRecord r) :
    resolve records' lock.selected lock.engineVersion.toString = .ok lock := by
  rcases resolve_eq_ok_iff.1 hlock with ⟨catalog, engine, packs, order, hres, hplan, rfl⟩
  rcases exists_catalog hnormalize with ⟨other, hother⟩
  rw [normalizeAll_eq_ok_iff] at hother
  have hdesc := hres.describes hplan
  have hagree : catalog.AgreeOn other (catalog.ReachesFrom (Selected selected)) := by
    intro p hp
    rcases hsame p ((hdesc.mem_resolvedOrder p).2 hp) with ⟨r, r', hr, hr', heq⟩
    rcases hres.normalizes.registered p r hr with ⟨m, hm, _, hget⟩
    rcases hother.registered p r' hr' with ⟨m', hm', _, hget'⟩
    rw [heq, hm] at hm'
    cases hm'
    rw [hget, hget']
  have hsel : (Lock.assemble engine (selection selected) (manifestsOf catalog order)).selected
      = selection selected := Ascending.ofList_eq_self (Ascending.ofList_ascending _)
  rw [hsel, resolve_eq_ok_iff, selected_selection, selection_selection]
  refine ⟨other, engine, packs, order, ?_, ?_, ?_⟩
  · exact hres.of_agreeOn hother hagree selected_selection (Version.parse_toString engine)
  · rw [hagree.reachesFrom_eq]
    exact hagree.planned hplan
  · rw [hagree.manifestsOf_eq fun p hp => (hplan.mem_order p).1 hp]

section

/-!
Records that agree with the locked ones on `app` and `base` only, though even these are spelled
differently.
-/

def changedRecords : KeyMap Record :=
  .ofList
    [("app", packRecord " app " ["base", " base"]),
     ("base", packRecord "base" []),
     ("extra", packRecord "extra" ["absent"])]

theorem changedRecords_normalize : ∀ key r, changedRecords.get? key = some r →
    ∃ m, Manifest.ofRecord r = .ok m ∧ m.id = key := by
  have hentries : ∀ e ∈ changedRecords.entries, ∃ m, Manifest.ofRecord e.2 = .ok m ∧ m.id = e.1 := by
    intro e he
    have : changedRecords.entries = [("app", packRecord " app " ["base", " base"]),
      ("base", packRecord "base" []), ("extra", packRecord "extra" ["absent"])] := rfl
    rw [this] at he
    simp only [List.mem_cons, List.not_mem_nil, or_false] at he
    rcases he with rfl | rfl | rfl
    · exact ⟨_, rfl, rfl⟩
    · exact ⟨_, rfl, rfl⟩
    · exact ⟨_, rfl, rfl⟩
  intro key r hr
  exact hentries (key, r) (KeyMap.mem_entries_iff.2 hr)

theorem changedRecords_same : ∀ id ∈ appLock.resolvedOrder, ∃ r r',
    lockedRecords.get? id = some r ∧ changedRecords.get? id = some r' ∧
      Manifest.ofRecord r' = Manifest.ofRecord r := by
  have : appLock.resolvedOrder = ["base", "app"] := rfl
  rw [this]
  intro id hid
  simp only [List.mem_cons, List.not_mem_nil, or_false] at hid
  rcases hid with rfl | rfl
  · exact ⟨_, _, rfl, rfl, rfl⟩
  · exact ⟨_, _, rfl, rfl, rfl⟩

theorem changedRecords_resolve :
    resolve lockedRecords ["app", " ", " app "] "02.0.0" = .ok appLock ∧
      (∀ key r, changedRecords.get? key = some r →
        ∃ m, Manifest.ofRecord r = .ok m ∧ m.id = key) ∧
      (∀ id ∈ appLock.resolvedOrder, ∃ r r', lockedRecords.get? id = some r ∧
        changedRecords.get? id = some r' ∧ Manifest.ofRecord r' = Manifest.ofRecord r) ∧
      resolve changedRecords appLock.selected appLock.engineVersion.toString = .ok appLock :=
  ⟨lockedRecords_resolve, changedRecords_normalize, changedRecords_same,
    resolve_reproduces lockedRecords_resolve changedRecords_normalize changedRecords_same⟩

end

end GovernanceLock.Resolution
