import GovernanceLock.Proofs.Closure
import GovernanceLock.Proofs.Except
import GovernanceLock.Resolution

/-!
This module contains what the checks of a resolution mean: each passes iff its condition holds of
all the packs that it runs through.
-/

namespace GovernanceLock

namespace Catalog

variable {catalog : Catalog}

def ConflictsWith (catalog : Catalog) (p q : PackId) : Prop :=
  ∃ m, catalog.get? p = some m ∧ q ∈ m.conflictsWith

def Owns (catalog : Catalog) (p : PackId) (surface : SurfaceTag) : Prop :=
  ∃ m, catalog.get? p = some m ∧ surface ∈ m.ownsSurfaces

def Touches (catalog : Catalog) (p : PackId) (surface : SurfaceTag) : Prop :=
  ∃ m, catalog.get? p = some m ∧ surface ∈ m.touchesSurfaces

def Supports (catalog : Catalog) (p : PackId) (engine : Version) : Prop :=
  ∀ m, catalog.get? p = some m → m.compat.contains engine = true

end Catalog

namespace Resolution

open Except (bind_eq_ok_iff)

variable {catalog : Catalog}

theorem checkEngine_eq_ok_iff {engine : Version} {ids : List PackId} {u : Unit} :
    checkEngine catalog engine ids = .ok u ↔ ∀ p ∈ ids, catalog.Supports p engine := by
  induction ids with
  | nil => simp [checkEngine]
  | cons id ids ih =>
    rw [checkEngine, List.forall_mem_cons]
    cases hm : catalog.get? id with
    | none => simp [ih, Catalog.Supports, hm]
    | some m =>
      dsimp only
      split
      · next hin => simp [ih, Catalog.Supports, hm, hin]
      · next hout => simp [Catalog.Supports, hm, hout]

theorem checkConflicts_eq_ok_iff {packs ids : List PackId} {u : Unit} :
    checkConflicts catalog packs ids = .ok u ↔
      ∀ p ∈ ids, ∀ q ∈ packs, ¬ catalog.ConflictsWith p q := by
  induction ids with
  | nil => simp [checkConflicts]
  | cons id ids ih =>
    rw [checkConflicts, List.forall_mem_cons]
    cases hm : catalog.get? id with
    | none => simp [ih, Catalog.ConflictsWith, hm]
    | some m =>
      rw [Option.bind_some]
      cases hfind : m.conflictsWith.find? (· ∈ packs) with
      | none =>
        have hnone : ∀ q ∈ packs, ¬ catalog.ConflictsWith id q := by
          rintro q hq ⟨m', hm', hmem⟩
          rw [hm, Option.some.injEq] at hm'
          subst hm'
          exact List.find?_eq_none.1 hfind q hmem (decide_eq_true hq)
        dsimp only
        rw [ih]
        exact ⟨fun h => ⟨hnone, h⟩, fun h => h.2⟩
      | some other =>
        have hmem := List.mem_of_find?_eq_some hfind
        have hpack : other ∈ packs := by simpa using List.find?_some hfind
        constructor
        · intro h
          cases h
        · intro h
          exact absurd ⟨m, hm, hmem⟩ (h.1 other hpack)

theorem enterOwner_spec {owners entered : KeyMap PackId} {id : PackId}
    {surfaces : List SurfaceTag} (h : enterOwner owners id surfaces = .ok entered) :
    (∀ s ∈ surfaces, owners.get? s = none) ∧
      ∀ s p, entered.get? s = some p ↔ owners.get? s = some p ∨ (p = id ∧ s ∈ surfaces) := by
  induction surfaces generalizing owners with
  | nil =>
    rw [enterOwner] at h
    cases h
    simp
  | cons surface surfaces ih =>
    rw [enterOwner] at h
    split at h
    · cases h
    · next hnone =>
      rcases ih h with ⟨hfree, hget⟩
      simp only [KeyMap.get?_insert] at hfree hget
      constructor
      · intro s hs
        rcases List.mem_cons.1 hs with rfl | hs
        · exact hnone
        · have := hfree s hs
          split at this
          · cases this
          · exact this
      · intro s p
        rw [hget, List.mem_cons]
        by_cases hs : s = surface
        · subst hs
          rw [if_pos rfl, hnone]
          grind
        · simp [hs]

theorem exists_enterOwner {owners : KeyMap PackId} (id : PackId) {surfaces : List SurfaceTag}
    (hnodup : surfaces.Nodup) (hfree : ∀ s ∈ surfaces, owners.get? s = none) :
    ∃ entered, enterOwner owners id surfaces = .ok entered := by
  induction surfaces generalizing owners with
  | nil => exact ⟨owners, rfl⟩
  | cons surface surfaces ih =>
    rw [List.nodup_cons] at hnodup
    rw [enterOwner, hfree surface (List.mem_cons_self ..)]
    apply ih hnodup.2
    intro s hs
    rw [KeyMap.get?_insert, if_neg]
    · exact hfree s (List.mem_cons_of_mem _ hs)
    · intro heq
      exact hnodup.1 (heq ▸ hs)

def surfacesOf (catalog : Catalog) (id : PackId) : List SurfaceTag :=
  ((catalog.get? id).map (·.ownsSurfaces)).getD []

theorem mem_surfacesOf_iff {p : PackId} {s : SurfaceTag} :
    s ∈ surfacesOf catalog p ↔ catalog.Owns p s := by
  unfold surfacesOf Catalog.Owns
  cases catalog.get? p <;> simp

theorem ownersOf_cons_eq_ok_iff {owners entered : KeyMap PackId} {id : PackId}
    {ids : List PackId} :
    ownersOf catalog owners (id :: ids) = .ok entered ↔
      ∃ mid, enterOwner owners id (surfacesOf catalog id) = .ok mid ∧
        ownersOf catalog mid ids = .ok entered := by
  rw [ownersOf, bind_eq_ok_iff]
  rfl

theorem ownersOf_spec {owners entered : KeyMap PackId} {ids : List PackId}
    (h : ownersOf catalog owners ids = .ok entered) :
    (∀ p ∈ ids, ∀ s, catalog.Owns p s → owners.get? s = none) ∧
      (ids.Pairwise fun p q => ∀ s, catalog.Owns p s → ¬ catalog.Owns q s) ∧
      ∀ s p, entered.get? s = some p ↔ owners.get? s = some p ∨ (p ∈ ids ∧ catalog.Owns p s) := by
  induction ids generalizing owners with
  | nil =>
    rw [ownersOf] at h
    cases h
    simp
  | cons id ids ih =>
    rw [ownersOf_cons_eq_ok_iff] at h
    rcases h with ⟨mid, hmid, h⟩
    rcases enterOwner_spec hmid with ⟨hfree, hget⟩
    rcases ih h with ⟨hfree', hpair, hget'⟩
    simp only [mem_surfacesOf_iff] at hfree hget
    -- What is still free after `id` was free before, and `id` does not own it.
    have hrest : ∀ s, mid.get? s = none → owners.get? s = none ∧ ¬ catalog.Owns id s := by
      intro s hs
      constructor
      · rw [Option.eq_none_iff_forall_ne_some]
        intro p hp
        rw [(hget s p).2 (.inl hp)] at hs
        cases hs
      · intro hid
        rw [(hget s id).2 (.inr ⟨rfl, hid⟩)] at hs
        cases hs
    refine ⟨?_, ?_, ?_⟩
    · intro p hp s hs
      rcases List.mem_cons.1 hp with rfl | hp
      · exact hfree s hs
      · exact (hrest s (hfree' p hp s hs)).1
    · rw [List.pairwise_cons]
      refine ⟨?_, hpair⟩
      intro q hq s hs hqs
      exact (hrest s (hfree' q hq s hqs)).2 hs
    · intro s p
      rw [hget', hget, List.mem_cons, or_assoc]
      grind

theorem exists_ownersOf {owners : KeyMap PackId} {ids : List PackId}
    (hnodup : ∀ p ∈ ids, (surfacesOf catalog p).Nodup)
    (hfree : ∀ p ∈ ids, ∀ s, catalog.Owns p s → owners.get? s = none)
    (hpair : ids.Pairwise fun p q => ∀ s, catalog.Owns p s → ¬ catalog.Owns q s) :
    ∃ entered, ownersOf catalog owners ids = .ok entered := by
  induction ids generalizing owners with
  | nil => exact ⟨owners, rfl⟩
  | cons id ids ih =>
    rw [List.pairwise_cons] at hpair
    rw [List.forall_mem_cons] at hnodup hfree
    rcases exists_enterOwner id hnodup.1 (fun s hs => hfree.1 s (mem_surfacesOf_iff.1 hs))
      with ⟨mid, hmid⟩
    have hget := (enterOwner_spec hmid).2
    have hrest : ∀ p ∈ ids, ∀ s, catalog.Owns p s → mid.get? s = none := by
      intro p hp s hs
      rw [Option.eq_none_iff_forall_ne_some]
      intro q hq
      rw [hget, hfree.2 p hp s hs, mem_surfacesOf_iff] at hq
      rcases hq with hq | hq
      · cases hq
      · exact hpair.1 p hp s hq.2 hs
    rcases ih hnodup.2 hrest hpair.2 with ⟨entered, hentered⟩
    exact ⟨entered, ownersOf_cons_eq_ok_iff.2 ⟨mid, hmid, hentered⟩⟩

theorem unrequired?_eq_none_iff {owners : KeyMap PackId} {id : PackId} {m : Manifest}
    {surface : SurfaceTag} :
    unrequired? owners id m surface = none ↔
      ∀ owner, owners.get? surface = some owner → owner = id ∨ owner ∈ m.requires := by
  unfold unrequired?
  rw [Option.filter_eq_none_iff]
  grind

theorem forall_touches_cons_iff {id : PackId} {ids : List PackId} {m : Manifest}
    {P : PackId → SurfaceTag → Prop} (hm : catalog.get? id = some m) :
    (∀ p ∈ id :: ids, ∀ s, catalog.Touches p s → P p s) ↔
      (∀ s ∈ m.touchesSurfaces, P id s) ∧ ∀ p ∈ ids, ∀ s, catalog.Touches p s → P p s := by
  rw [List.forall_mem_cons]
  simp [Catalog.Touches, hm]

theorem checkTouches_eq_ok_iff {owners : KeyMap PackId} {ids : List PackId} {u : Unit} :
    checkTouches catalog owners ids = .ok u ↔
      ∀ p ∈ ids, ∀ s, catalog.Touches p s → ∀ owner, owners.get? s = some owner →
        owner = p ∨ owner ∈ catalog.requires p := by
  induction ids with
  | nil => simp [checkTouches]
  | cons id ids ih =>
    rw [checkTouches]
    cases hm : catalog.get? id with
    | none => simp [ih, Catalog.Touches, hm]
    | some m =>
      rw [forall_touches_cons_iff hm, Catalog.requires_eq hm, ← ih]
      simp only [← unrequired?_eq_none_iff]
      rw [Option.bind_some]
      split
      · next e hsome =>
        rcases List.exists_of_findSome?_eq_some hsome with ⟨s, hs, hfound⟩
        simp only [reduceCtorEq, false_iff, not_and]
        intro h
        rw [h s hs] at hfound
        cases hfound
      · next hnone =>
        simp only [List.findSome?_eq_none_iff, Option.map_eq_none_iff] at hnone
        exact ⟨fun h => ⟨hnone, h⟩, fun h => h.2⟩

end Resolution

end GovernanceLock
