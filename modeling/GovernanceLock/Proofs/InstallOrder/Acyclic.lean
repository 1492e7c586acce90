import GovernanceLock.Proofs.InstallOrder.Progress
import Mathlib.Data.Fintype.Pigeonhole
import Mathlib.Data.Set.Finite.Basic
import Mathlib.Logic.Relation

/-!
This module contains the reason why the rounds do not get stuck early: as long as packs are left
over, one of them is ready, or else their requirements have a cycle.
-/

namespace GovernanceLock

open Relation (TransGen ReflTransGen)

theorem iterate_mem {f : α → α} {l : List α} (h : ∀ p ∈ l, f p ∈ l) {p : α} (hp : p ∈ l) (n : Nat) :
    f^[n] p ∈ l := by
  induction n with
  | zero => exact hp
  | succ n ih =>
    rw [Function.iterate_succ_apply']
    exact h _ ih

theorem exists_iterate_eq {f : α → α} {l : List α} (h : ∀ p ∈ l, f p ∈ l) {p : α} (hp : p ∈ l) :
    ∃ n k, f^[n] p = f^[n + k + 1] p := by
  -- The walk from `p` goes on forever among finitely many members, so it comes back to one of them.
  have := (List.finite_toSet l).to_subtype
  rcases Finite.exists_ne_map_eq_of_infinite fun n => (⟨f^[n] p, iterate_mem h hp n⟩ : {x | x ∈ l})
    with ⟨i, j, hne, heq⟩
  rw [Subtype.mk.injEq] at heq
  rcases Nat.lt_or_gt_of_ne hne with hlt | hlt
  · rcases Nat.exists_eq_add_of_lt hlt with ⟨k, rfl⟩
    exact ⟨i, k, heq⟩
  · rcases Nat.exists_eq_add_of_lt hlt with ⟨k, rfl⟩
    exact ⟨j, k, heq.symm⟩

theorem reflTransGen_iterate {r : α → α → Prop} {f : α → α} {p : α}
    (h : ∀ n, r (f^[n] p) (f^[n + 1] p)) (n k : Nat) : ReflTransGen r (f^[n] p) (f^[n + k] p) := by
  induction k with
  | zero => exact .refl
  | succ k ih => exact ih.tail (h (n + k))

/--
A list in which every member has a successor has a cycle of successors, and every member leads to
one.
-/
theorem exists_cycle {r : α → α → Prop} {l : List α} (hnext : ∀ p ∈ l, ∃ q ∈ l, r p q) {p : α}
    (hp : p ∈ l) : ∃ q ∈ l, ReflTransGen r p q ∧ TransGen r q q := by
  choose! f hmem hr using hnext
  have hstep : ∀ n, r (f^[n] p) (f^[n + 1] p) := by
    intro n
    rw [Function.iterate_succ_apply']
    exact hr _ (iterate_mem hmem hp n)
  rcases exists_iterate_eq hmem hp with ⟨n, k, heq⟩
  refine ⟨f^[n] p, iterate_mem hmem hp n, ?_, ?_⟩
  · have := reflTransGen_iterate hstep 0 n
    rw [Nat.zero_add] at this
    exact this
  · have := TransGen.tail' (reflTransGen_iterate hstep n k) (hstep (n + k))
    rw [← heq] at this
    exact this

namespace Catalog

/--
Both packs belong to `C`, and the first one requires the second.
-/
structure RequiresWithin (catalog : Catalog) (C : PackId → Prop) (p q : PackId) : Prop where
  left : C p
  right : C q
  requires : q ∈ catalog.requires p

/--
The requirements of the packs of `C` among each other have no cycle.
-/
def Acyclic (catalog : Catalog) (C : PackId → Prop) : Prop :=
  ∀ p, ¬ TransGen (catalog.RequiresWithin C) p p

/--
A pack on a cycle of requirements within `C` can be reached within `C`.
-/
def LeadsToCycle (catalog : Catalog) (C : PackId → Prop) (p : PackId) : Prop :=
  ∃ q, ReflTransGen (catalog.RequiresWithin C) p q ∧ TransGen (catalog.RequiresWithin C) q q

theorem Acyclic.of_rank {catalog : Catalog} {C : PackId → Prop} (rank : PackId → Nat)
    (h : ∀ p q, catalog.RequiresWithin C p q → rank q < rank p) : catalog.Acyclic C := by
  have hlt : ∀ p q, TransGen (catalog.RequiresWithin C) p q → rank q < rank p := by
    intro p q hpq
    induction hpq with
    | single hstep => exact h _ _ hstep
    | tail _ hstep ih => exact Nat.lt_trans (h _ _ hstep) ih
  intro p hp
  exact Nat.lt_irrefl _ (hlt p p hp)

end Catalog

namespace InstallOrder

variable {catalog : Catalog} {packs placed : List PackId}

theorem exists_requiresWithin_of_not_ready {p : PackId} (hp : p ∈ packs.filter (· ∉ placed))
    (hnot : ¬ Ready catalog packs placed p) :
    ∃ q ∈ packs.filter (· ∉ placed), catalog.RequiresWithin (· ∈ packs) p q := by
  rw [List.mem_filter] at hp
  by_contra hno
  -- Without a requirement that is left over, `p` itself is ready.
  apply hnot
  refine ⟨hp.1, by simpa using hp.2, ?_⟩
  intro q hq hmem
  by_contra hout
  apply hno
  exact ⟨q, List.mem_filter.2 ⟨hmem, by simpa using hout⟩, hp.1, hmem, hq⟩

/--
Where no pack is ready, every pack that is left over waits for a cycle.
-/
theorem leadsToCycle_of_forall_not_ready (hnone : ∀ q, ¬ Ready catalog packs placed q) {p : PackId}
    (hp : p ∈ packs) (hnot : p ∉ placed) : catalog.LeadsToCycle (· ∈ packs) p := by
  have hnext : ∀ p ∈ packs.filter (· ∉ placed),
      ∃ q ∈ packs.filter (· ∉ placed), catalog.RequiresWithin (· ∈ packs) p q :=
    fun p hp => exists_requiresWithin_of_not_ready hp (hnone p)
  rcases exists_cycle hnext (List.mem_filter.2 ⟨hp, by simpa using hnot⟩) with ⟨q, _, hpq, hcycle⟩
  exact ⟨q, hpq, hcycle⟩

theorem exists_ready (hacyclic : catalog.Acyclic (· ∈ packs)) {p : PackId} (hp : p ∈ packs)
    (hnot : p ∉ placed) : ∃ q, Ready catalog packs placed q := by
  by_contra hnone
  rw [not_exists] at hnone
  rcases leadsToCycle_of_forall_not_ready hnone hp hnot with ⟨q, _, hcycle⟩
  exact hacyclic q hcycle

end InstallOrder

end GovernanceLock
