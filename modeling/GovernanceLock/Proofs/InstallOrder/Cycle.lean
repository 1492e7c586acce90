import GovernanceLock.Proofs.InstallOrder.Least
import GovernanceLock.Proofs.InstallOrder.Part

/-!
This module contains what is said about packs that have no installation order: the packs that are
named are those that lead to a cycle of requirements, and all others have been placed, as they are
without them.
-/

namespace GovernanceLock

open Relation (TransGen ReflTransGen)

theorem Catalog.LeadsToCycle.head {catalog : Catalog} {C : PackId → Prop} {p q : PackId}
    (hstep : catalog.RequiresWithin C p q) (h : catalog.LeadsToCycle C q) :
    catalog.LeadsToCycle C p := by
  rcases h with ⟨r, hqr, hcycle⟩
  exact ⟨r, .head hstep hqr, hcycle⟩

namespace InstallOrder

variable {catalog : Catalog} {packs placed : List PackId}

namespace Greedy

theorem mem_of_reflTransGen (h : Greedy catalog packs placed) {p q : PackId} (hp : p ∈ placed)
    (hpq : ReflTransGen (catalog.RequiresWithin (· ∈ packs)) p q) : q ∈ placed := by
  induction hpq with
  | refl => exact hp
  | tail _ hstep ih => exact h.requires ih hstep.requires hstep.right

theorem not_transGen_self (h : Greedy catalog packs placed) {p : PackId} (hp : p ∈ placed) :
    ¬ TransGen (catalog.RequiresWithin (· ∈ packs)) p p := by
  induction h with
  | nil => cases hp
  | cons h hready _ ih =>
    rcases List.mem_cons.1 hp with rfl | hp
    · -- What the last pack requires was placed before it, and leads only to what was.
      intro hcycle
      rcases TransGen.head'_iff.1 hcycle with ⟨q, hstep, hq⟩
      apply hready.notMem
      exact h.mem_of_reflTransGen (hready.requires q hstep.requires hstep.right) hq
    · exact ih hp

theorem not_leadsToCycle (h : Greedy catalog packs placed) {p : PackId} (hp : p ∈ placed) :
    ¬ catalog.LeadsToCycle (· ∈ packs) p := by
  rintro ⟨q, hpq, hcycle⟩
  exact h.not_transGen_self (h.mem_of_reflTransGen hp hpq) hcycle

end Greedy

theorem notMem_after_iff (hpacks : Ascending packs) {p : PackId} (hp : p ∈ packs) :
    p ∉ (after catalog packs packs.length).placed ↔ catalog.LeadsToCycle (· ∈ packs) p := by
  constructor
  · exact leadsToCycle_of_forall_not_ready (not_ready_after hpacks) hp
  · intro hcycle hplaced
    exact (after_exact catalog hpacks packs.length).greedy.not_leadsToCycle hplaced hcycle

theorem unplaced_after_ne_nil_iff (hpacks : Ascending packs) {p : PackId} (hp : p ∈ packs) :
    unplaced catalog packs (after catalog packs packs.length).placed p ≠ [] ↔
      p ∉ (after catalog packs packs.length).placed := by
  constructor
  · intro hne hplaced
    apply hne
    rw [unplaced_eq_nil_iff]
    intro q hq hmem
    exact (after_exact catalog hpacks packs.length).greedy.requires hplaced hq hmem
  · intro hnot hnil
    exact not_ready_after hpacks p (ready_iff.2 ⟨hp, hnot, hnil⟩)

theorem waiting_after (hpacks : Ascending packs) :
    (((after catalog packs packs.length).waiting.filter (0 < ·.2)).map (·.1)) =
      packs.filter fun p =>
        0 < (unplaced catalog packs (after catalog packs packs.length).placed p).length := by
  rw [(after_exact catalog hpacks packs.length).waiting, map_fst_filter_map]

end InstallOrder

open InstallOrder

/--
Packs are refused an installation order only for a cycle, and together with all that lead to one.
-/
theorem Catalog.installOrder_eq_error {catalog : Catalog} {packs : List PackId}
    {e : InstallOrder.Error} (hpacks : Ascending packs)
    (hknown : ∀ id ∈ packs, catalog.contains id = true)
    (h : catalog.installOrder packs = .error e) :
    ∃ ids, e = .cycle ids ∧ ids ≠ [] ∧ Ascending ids ∧
      ∀ p, p ∈ ids ↔ p ∈ packs ∧ catalog.LeadsToCycle (· ∈ packs) p := by
  rw [installOrder_of_known hknown] at h
  split at h
  · next hlen =>
    cases h
    have hmem : ∀ p, p ∈ (((after catalog packs packs.length).waiting.filter (0 < ·.2)).map (·.1)) ↔
        p ∈ packs ∧ catalog.LeadsToCycle (· ∈ packs) p := by
      intro p
      rw [waiting_after hpacks, List.mem_filter, decide_eq_true_iff, List.length_pos_iff]
      refine and_congr_right fun hp => ?_
      rw [unplaced_after_ne_nil_iff hpacks hp, notMem_after_iff hpacks hp]
    refine ⟨_, rfl, ?_, ?_, hmem⟩
    · -- Fewer packs were placed than there are.
      intro hnil
      apply Nat.not_le_of_lt hlen
      apply List.Subperm.length_le
      apply hpacks.nodup.subperm
      intro p hp
      by_contra hnot
      have := (hmem p).2 ⟨hp, (notMem_after_iff hpacks hp).1 hnot⟩
      rw [hnil] at this
      cases this
    · rw [waiting_after hpacks]
      exact List.Pairwise.filter _ hpacks
  · cases h

theorem InstallOrder.placed_eq {catalog : Catalog} {packs ids : List PackId}
    (hpacks : Ascending packs) (hknown : ∀ id ∈ packs, catalog.contains id = true)
    (hids : ∀ p, p ∈ ids ↔ p ∈ packs ∧ catalog.LeadsToCycle (· ∈ packs) p) :
    catalog.installOrder (packs.filter (· ∉ ids)) =
      .ok (after catalog packs packs.length).placed.reverse := by
  have hgreedy := (after_exact catalog hpacks packs.length).greedy
  have hmem : ∀ p, p ∈ (after catalog packs packs.length).placed ↔ p ∈ packs.filter (· ∉ ids) := by
    intro p
    rw [List.mem_filter, decide_eq_true_iff, hids]
    constructor
    · intro hp
      exact ⟨hgreedy.subset hp, fun h => hgreedy.not_leadsToCycle hp h.2⟩
    · rintro ⟨hp, hnot⟩
      by_contra hplaced
      exact hnot ⟨hp, (notMem_after_iff hpacks hp).1 hplaced⟩
  have hpart : Greedy catalog (packs.filter (· ∉ ids))
      ((after catalog packs packs.length).placed.filter (· ∈ packs.filter (· ∉ ids))) := by
    apply hgreedy.restrict List.filter_sublist.subset
    intro p hp q hq hmem
    rw [List.mem_filter, decide_eq_true_iff, hids] at hp ⊢
    refine ⟨hmem, fun h => hp.2 ⟨hp.1, ?_⟩⟩
    exact .head ⟨hp.1, hmem, hq⟩ h.2
  rw [List.filter_eq_self.2 fun p hp => decide_eq_true ((hmem p).1 hp)] at hpart
  have hasc : Ascending (packs.filter (· ∉ ids)) := List.Pairwise.filter _ hpacks
  rw [Catalog.installOrder_eq_ok_iff hasc fun id hid => hknown id (List.mem_filter.1 hid).1]
  constructor
  · apply (List.reverse_perm _).trans
    exact (List.perm_ext_iff_of_nodup hgreedy.nodup hasc.nodup).2 hmem
  · rw [List.reverse_reverse]
    exact hpart

/--
Packs are refused an installation order iff their requirements have a cycle. Then exactly those that
lead to a cycle are named, and the others have been placed as they are without them.
-/
theorem Catalog.installOrder_blames_cycles {catalog : Catalog} {packs : List PackId}
    (hpacks : Ascending packs) (hknown : ∀ id ∈ packs, catalog.contains id = true) :
    ((∃ ids, catalog.installOrder packs = .error (.cycle ids)) ↔
        ¬ catalog.Acyclic (· ∈ packs)) ∧
      ∀ ids, catalog.installOrder packs = .error (.cycle ids) →
        ids ≠ [] ∧ Ascending ids ∧
        (∀ p, p ∈ ids ↔ p ∈ packs ∧ catalog.LeadsToCycle (· ∈ packs) p) ∧
        (∀ p ∈ packs, p ∉ ids → p ∈ (after catalog packs packs.length).placed) ∧
        catalog.installOrder (packs.filter (· ∉ ids)) =
          .ok (after catalog packs packs.length).placed.reverse := by
  have hspec : ∀ ids, catalog.installOrder packs = .error (.cycle ids) → ids ≠ [] ∧ Ascending ids ∧
      ∀ p, p ∈ ids ↔ p ∈ packs ∧ catalog.LeadsToCycle (· ∈ packs) p := by
    intro ids h
    rcases installOrder_eq_error hpacks hknown h with ⟨ids', heq, hspec⟩
    cases heq
    exact hspec
  refine ⟨⟨?_, ?_⟩, ?_⟩
  · rintro ⟨ids, h⟩ hacyclic
    rcases hspec ids h with ⟨hne, _, hmem⟩
    rcases List.exists_mem_of_ne_nil _ hne with ⟨p, hp⟩
    rcases ((hmem p).1 hp).2 with ⟨q, _, hcycle⟩
    exact hacyclic q hcycle
  · intro hcyclic
    rcases Except.eq_ok_or_exists_error (catalog.installOrder packs) with ⟨order, h⟩ | ⟨e, h⟩
    · rcases (installOrder_eq_ok_iff hpacks hknown).1 h with ⟨hperm, hgreedy⟩
      exact absurd ((hgreedy.isInstallOrder hperm).acyclic hpacks.nodup) hcyclic
    · rcases installOrder_eq_error hpacks hknown h with ⟨ids, rfl, _⟩
      exact ⟨ids, h⟩
  · intro ids h
    rcases hspec ids h with ⟨hne, hasc, hmem⟩
    refine ⟨hne, hasc, hmem, ?_, placed_eq hpacks hknown hmem⟩
    intro p hp hnot
    by_contra hplaced
    exact hnot ((hmem p).2 ⟨hp, (notMem_after_iff hpacks hp).1 hplaced⟩)

def loopPacks : Catalog :=
  .ofList
    [("a", { (default : Manifest) with requires := ["b"] }),
     ("b", { (default : Manifest) with requires := ["a"] }),
     ("c", { (default : Manifest) with requires := ["a", "e"] }),
     ("d", { (default : Manifest) with requires := ["d"] }),
     ("e", { (default : Manifest) with requires := ["f", "gone"] }),
     ("f", default)]

theorem loopPacks_installOrder :
    Ascending ["a", "b", "c", "d", "e", "f"] ∧
      (∀ id ∈ ["a", "b", "c", "d", "e", "f"], loopPacks.contains id = true) ∧
      loopPacks.installOrder ["a", "b", "c", "d", "e", "f"] = .error (.cycle ["a", "b", "c", "d"]) ∧
      ¬ loopPacks.Acyclic (· ∈ ["a", "b", "c", "d", "e", "f"]) ∧
      (∀ p, p ∈ ["a", "b", "c", "d"] ↔ p ∈ ["a", "b", "c", "d", "e", "f"] ∧
        loopPacks.LeadsToCycle (· ∈ ["a", "b", "c", "d", "e", "f"]) p) ∧
      loopPacks.installOrder ["e", "f"] = .ok ["f", "e"] := by
  have hpacks : Ascending ["a", "b", "c", "d", "e", "f"] := by decide
  have hknown : ∀ id ∈ ["a", "b", "c", "d", "e", "f"], loopPacks.contains id = true := by decide
  have hcycle : loopPacks.installOrder ["a", "b", "c", "d", "e", "f"] =
      .error (.cycle ["a", "b", "c", "d"]) := by
    decide
  rcases Catalog.installOrder_blames_cycles hpacks hknown with ⟨hiff, hspec⟩
  rcases hspec _ hcycle with ⟨_, _, hmem, _, hothers⟩
  exact ⟨hpacks, hknown, hcycle, hiff.1 ⟨_, hcycle⟩, hmem, hothers⟩

end GovernanceLock
