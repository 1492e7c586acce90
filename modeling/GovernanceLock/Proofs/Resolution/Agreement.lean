import GovernanceLock.Proofs.Resolution.Exact

/-!
This module contains the proof that a resolution reads nothing but the manifests of the packs that
the selection leads to: catalogs that agree on these packs resolve the selection alike.
-/

namespace GovernanceLock

open InstallOrder (Greedy Ready)

namespace Catalog

def AgreeOn (catalog other : Catalog) (C : PackId → Prop) : Prop :=
  ∀ p, C p → other.get? p = catalog.get? p

namespace AgreeOn

variable {catalog other : Catalog} {C start : PackId → Prop}

theorem requires_eq (h : catalog.AgreeOn other C) {p : PackId} (hp : C p) :
    other.requires p = catalog.requires p := by
  unfold Catalog.requires
  rw [h p hp]

theorem reachesFrom_iff (h : catalog.AgreeOn other (catalog.ReachesFrom start)) {p : PackId} :
    other.ReachesFrom start p ↔ catalog.ReachesFrom start p := by
  constructor
  · apply ReachesFrom.preserves
    · exact fun s hs => .of_start hs
    · intro p hp q hq
      rw [h.requires_eq hp] at hq
      exact hp.tail hq
  · intro hp
    -- Along the way both catalogs reach the pack, since they have the same requirements there.
    have hboth : catalog.ReachesFrom start p ∧ other.ReachesFrom start p := by
      apply hp.preserves (P := fun p => catalog.ReachesFrom start p ∧ other.ReachesFrom start p)
      · exact fun s hs => ⟨.of_start hs, .of_start hs⟩
      · intro p hp q hq
        refine ⟨hp.1.tail hq, hp.2.tail ?_⟩
        rw [h.requires_eq hp.1]
        exact hq
    exact hboth.2

theorem reachesFrom_eq (h : catalog.AgreeOn other (catalog.ReachesFrom start)) :
    other.ReachesFrom start = catalog.ReachesFrom start := by
  funext p
  exact propext h.reachesFrom_iff

theorem supports_iff (h : catalog.AgreeOn other C) {p : PackId} (hp : C p) {engine : Version} :
    other.Supports p engine ↔ catalog.Supports p engine := by
  unfold Supports
  rw [h p hp]

theorem conflictsWith_iff (h : catalog.AgreeOn other C) {p q : PackId} (hp : C p) :
    other.ConflictsWith p q ↔ catalog.ConflictsWith p q := by
  unfold ConflictsWith
  rw [h p hp]

theorem owns_iff (h : catalog.AgreeOn other C) {p : PackId} (hp : C p) {s : SurfaceTag} :
    other.Owns p s ↔ catalog.Owns p s := by
  unfold Owns
  rw [h p hp]

theorem touches_iff (h : catalog.AgreeOn other C) {p : PackId} (hp : C p) {s : SurfaceTag} :
    other.Touches p s ↔ catalog.Touches p s := by
  unfold Touches
  rw [h p hp]

theorem acyclic (h : catalog.AgreeOn other C) (hacyclic : catalog.Acyclic C) :
    other.Acyclic C := by
  have hstep : ∀ p q, other.RequiresWithin C p q → catalog.RequiresWithin C p q := by
    intro p q hpq
    refine ⟨hpq.left, hpq.right, ?_⟩
    rw [← h.requires_eq hpq.left]
    exact hpq.requires
  intro p hp
  exact hacyclic p (Relation.TransGen.mono hstep p p hp)

theorem compatible (h : catalog.AgreeOn other C) {engine : Version}
    (hcompat : Resolution.Compatible catalog engine C) :
    Resolution.Compatible other engine C where
  engine := by
    intro p hp
    rw [h.supports_iff hp]
    exact hcompat.engine p hp
  conflictFree := by
    intro p q hp hq
    rw [h.conflictsWith_iff hp]
    exact hcompat.conflictFree p q hp hq
  oneOwner := by
    intro p q s hp hq
    rw [h.owns_iff hp, h.owns_iff hq]
    exact hcompat.oneOwner p q s hp hq
  ownerRequired := by
    intro p q s hp hq
    rw [h.touches_iff hp, h.owns_iff hq, h.requires_eq hp]
    exact hcompat.ownerRequired p q s hp hq
  acyclic := h.acyclic hcompat.acyclic

theorem ready_iff {packs placed : List PackId} (h : catalog.AgreeOn other (· ∈ packs))
    {p : PackId} : Ready other packs placed p ↔ Ready catalog packs placed p := by
  constructor
  · intro hp
    refine ⟨hp.mem, hp.notMem, ?_⟩
    rw [← h.requires_eq hp.mem]
    exact hp.requires
  · intro hp
    refine ⟨hp.mem, hp.notMem, ?_⟩
    rw [h.requires_eq hp.mem]
    exact hp.requires

theorem greedy {packs placed : List PackId} (h : catalog.AgreeOn other (· ∈ packs))
    (hgreedy : Greedy catalog packs placed) : Greedy other packs placed := by
  induction hgreedy with
  | nil => exact .nil
  | cons _ hready hleast ih =>
    apply Greedy.cons ih
    · rw [h.ready_iff]
      exact hready
    · intro p hp
      rw [h.ready_iff] at hp
      exact hleast p hp

theorem planned (h : catalog.AgreeOn other C) {packs order : List PackId}
    (hplan : Resolution.Planned catalog C packs order) :
    Resolution.Planned other C packs order where
  ascending := hplan.ascending
  mem := hplan.mem
  perm := hplan.perm
  greedy := by
    apply greedy _ hplan.greedy
    rw [funext fun p => propext (hplan.mem p)]
    exact h

theorem manifestsOf_eq (h : catalog.AgreeOn other C) {ids : List PackId} (hids : ∀ p ∈ ids, C p) :
    Resolution.manifestsOf other ids = Resolution.manifestsOf catalog ids := by
  unfold Resolution.manifestsOf
  apply List.filterMap_congr
  intro p hp
  exact h p (hids p hp)

end AgreeOn

end Catalog

end GovernanceLock
