import GovernanceLock.Proofs.InstallOrder.Progress

/-!
This module contains the proof that a part of the packs which has the requirements of its members,
as far as the whole has them, is placed by the same rule as the whole: of the part, the next pack to
be placed is always the one that the whole places next.
-/

namespace GovernanceLock.InstallOrder

variable {catalog : Catalog} {packs part placed : List PackId}

theorem mem_filter_mem_iff {p : PackId} :
    p ∈ placed.filter (· ∈ part) ↔ p ∈ placed ∧ p ∈ part := by
  simp

theorem Ready.restrict {p : PackId} (h : Ready catalog packs placed p) (hsub : part ⊆ packs)
    (hp : p ∈ part) : Ready catalog part (placed.filter (· ∈ part)) p where
  mem := hp
  notMem := by
    rw [mem_filter_mem_iff]
    intro hplaced
    exact h.notMem hplaced.1
  requires := by
    intro q hq hmem
    rw [mem_filter_mem_iff]
    exact ⟨h.requires q hq (hsub hmem), hmem⟩

theorem Ready.of_restrict {p : PackId} (h : Ready catalog part (placed.filter (· ∈ part)) p)
    (hsub : part ⊆ packs)
    (hclosed : ∀ p ∈ part, ∀ q ∈ catalog.requires p, q ∈ packs → q ∈ part) :
    Ready catalog packs placed p where
  mem := hsub h.mem
  notMem := by
    intro hplaced
    apply h.notMem
    rw [mem_filter_mem_iff]
    exact ⟨hplaced, h.mem⟩
  requires := by
    intro q hq hmem
    have hplaced := h.requires q hq (hclosed p h.mem q hq hmem)
    rw [mem_filter_mem_iff] at hplaced
    exact hplaced.1

theorem Greedy.restrict (h : Greedy catalog packs placed) (hsub : part ⊆ packs)
    (hclosed : ∀ p ∈ part, ∀ q ∈ catalog.requires p, q ∈ packs → q ∈ part) :
    Greedy catalog part (placed.filter (· ∈ part)) := by
  induction h with
  | nil => exact .nil
  | @cons placed id _ hready hleast ih =>
    by_cases hid : id ∈ part
    · rw [List.filter_cons_of_pos (by simpa using hid)]
      apply Greedy.cons ih
      · exact hready.restrict hsub hid
      · intro other hother
        apply hleast
        exact hother.of_restrict hsub hclosed
    · rw [List.filter_cons_of_neg (by simpa using hid)]
      exact ih

end GovernanceLock.InstallOrder
