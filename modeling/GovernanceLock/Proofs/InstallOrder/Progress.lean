import GovernanceLock.Proofs.Closure
import GovernanceLock.Requirement.Order

/-!
This module contains the invariant of the rounds in which packs are placed. It says what the
bookkeeping stands for: every pack waits for as many requirements as it has that are not placed, the
packs that can be placed are those all of whose requirements are, and every pack was the least of
those that could be placed when it was.
-/

namespace GovernanceLock.InstallOrder

/--
The pack `id` can be placed next: all its requirements among `packs` have been.
-/
structure Ready (catalog : Catalog) (packs placed : List PackId) (id : PackId) : Prop where
  mem : id ∈ packs
  notMem : id ∉ placed
  requires : ∀ q ∈ catalog.requires id, q ∈ packs → q ∈ placed

/--
The packs of a list, the last one first, have been placed one after the other, each as the least of
those that were ready.
-/
inductive Greedy (catalog : Catalog) (packs : List PackId) : List PackId → Prop where
  | nil : Greedy catalog packs []
  | cons {placed : List PackId} {id : PackId} :
      Greedy catalog packs placed → Ready catalog packs placed id →
        (∀ other, Ready catalog packs placed other → id ≤ other) → Greedy catalog packs (id :: placed)

def unplaced (catalog : Catalog) (packs placed : List PackId) (id : PackId) : List PackId :=
  (inside catalog packs id).filter (· ∉ placed)

variable {catalog : Catalog} {packs placed : List PackId}

theorem mem_inside {p q : PackId} :
    q ∈ inside catalog packs p ↔ q ∈ catalog.requires p ∧ q ∈ packs := by
  unfold inside
  simp

theorem unplaced_eq_nil_iff {id : PackId} :
    unplaced catalog packs placed id = [] ↔
      ∀ q ∈ catalog.requires id, q ∈ packs → q ∈ placed := by
  unfold unplaced
  simp only [List.filter_eq_nil_iff, mem_inside]
  simp

theorem ready_iff {id : PackId} :
    Ready catalog packs placed id ↔
      id ∈ packs ∧ id ∉ placed ∧ unplaced catalog packs placed id = [] := by
  rw [unplaced_eq_nil_iff]
  constructor
  · intro h
    exact ⟨h.mem, h.notMem, h.requires⟩
  · intro h
    exact ⟨h.1, h.2.1, h.2.2⟩

theorem Ready.not_requires_self {id : PackId} (h : Ready catalog packs placed id) :
    id ∉ catalog.requires id := by
  intro hself
  exact h.notMem (h.requires id hself h.mem)

namespace Greedy

theorem subset (h : Greedy catalog packs placed) : placed ⊆ packs := by
  induction h with
  | nil => simp
  | cons _ hready _ ih => exact List.cons_subset.2 ⟨hready.mem, ih⟩

theorem nodup (h : Greedy catalog packs placed) : placed.Nodup := by
  induction h with
  | nil => simp
  | cons _ hready _ ih => exact List.nodup_cons.2 ⟨hready.notMem, ih⟩

theorem requires {p q : PackId} (h : Greedy catalog packs placed) (hp : p ∈ placed)
    (hq : q ∈ catalog.requires p) (hmem : q ∈ packs) : q ∈ placed := by
  induction h with
  | nil => cases hp
  | cons _ hready _ ih =>
    apply List.mem_cons_of_mem
    rcases List.mem_cons.1 hp with rfl | hp
    · exact hready.requires q hq hmem
    · exact ih hp

theorem of_append {later : List PackId} (h : Greedy catalog packs (later ++ placed)) :
    Greedy catalog packs placed := by
  induction later with
  | nil => exact h
  | cons p later ih =>
    cases h with
    | cons h _ _ => exact ih h

theorem eq_of_length_eq {other : List PackId} (h : Greedy catalog packs placed)
    (hother : Greedy catalog packs other) (hlen : placed.length = other.length) :
    placed = other := by
  induction h generalizing other with
  | nil =>
    symm
    rw [← List.length_eq_zero_iff, ← hlen]
    rfl
  | cons h hready hleast ih =>
    cases hother with
    | nil => cases hlen
    | cons hother hready' hleast' =>
      have htail := ih hother (Nat.succ.inj hlen)
      subst htail
      rw [String.le_antisymm (hleast _ hready') (hleast' _ hready)]

end Greedy

theorem count_unplaced {id p : PackId} (hmem : id ∈ packs) (hnot : id ∉ placed) :
    (unplaced catalog packs placed p).count id = (catalog.requires p).count id := by
  unfold unplaced inside
  rw [List.count_filter (by simpa using hnot)]
  rw [List.count_filter (by simpa using hmem)]

theorem length_unplaced_cons {id p : PackId} (hmem : id ∈ packs) (hnot : id ∉ placed) :
    (unplaced catalog packs (id :: placed) p).length
      = (unplaced catalog packs placed p).length - (catalog.requires p).count id := by
  -- A requirement that is listed twice is waited for twice, and both end when it is placed.
  have hsplit : unplaced catalog packs (id :: placed) p
      = (unplaced catalog packs placed p).filter (¬ · == id) := by
    unfold unplaced
    rw [List.filter_filter]
    apply List.filter_congr
    intro q _
    simp
  have hlen := List.length_eq_countP_add_countP (· == id) (l := unplaced catalog packs placed p)
  rw [hsplit, ← List.countP_eq_length_filter, ← count_unplaced hmem hnot, List.count]
  simp only [decide_not, Bool.decide_eq_true] at hlen ⊢
  omega

/--
The bookkeeping of the rounds is exact.
-/
structure Exact (catalog : Catalog) (packs : List PackId) (p : Progress) : Prop where
  greedy : Greedy catalog packs p.placed
  waiting : p.waiting = packs.map fun id => (id, (unplaced catalog packs p.placed id).length)
  ascending : Ascending p.ready
  mem_ready : ∀ id, id ∈ p.ready ↔ Ready catalog packs p.placed id

theorem unplaced_nil {id : PackId} : unplaced catalog packs [] id = inside catalog packs id := by
  unfold unplaced
  simp

theorem map_fst_filter_map {f : PackId → Nat} {g : PackId × Nat → Bool} {l : List PackId} :
    ((l.map fun id => (id, f id)).filter g).map (·.1) = l.filter fun id => g (id, f id) := by
  rw [List.filter_map, List.map_map]
  simp [Function.comp_def]

theorem start_exact (hpacks : Ascending packs) : Exact catalog packs (start catalog packs) where
  greedy := .nil
  waiting := by
    simp [start, unplaced_nil]
  ascending := by
    dsimp only [start]
    rw [map_fst_filter_map]
    exact List.Pairwise.filter _ hpacks
  mem_ready := by
    intro id
    rw [ready_iff]
    dsimp only [start]
    rw [map_fst_filter_map, List.mem_filter, unplaced_nil]
    simp

namespace Exact

variable {p : Progress} {id : PackId} {rest : List PackId}

theorem ready (h : Exact catalog packs p) (hready : p.ready = id :: rest) :
    Ready catalog packs p.placed id := by
  rw [← h.mem_ready, hready]
  apply List.mem_cons_self

theorem least (h : Exact catalog packs p) (hready : p.ready = id :: rest) {other : PackId}
    (hother : Ready catalog packs p.placed other) : id ≤ other := by
  have hasc := h.ascending
  rw [← h.mem_ready] at hother
  rw [hready] at hasc hother
  exact hasc.head_le hother

theorem mem_rest_iff (h : Exact catalog packs p) (hready : p.ready = id :: rest) {q : PackId} :
    q ∈ rest ↔ Ready catalog packs p.placed q ∧ q ≠ id := by
  have hasc := h.ascending
  rw [hready] at hasc
  rw [hasc.mem_tail_iff, ← hready, h.mem_ready]

theorem mem_freed_iff (h : Exact catalog packs p) (hready : p.ready = id :: rest) {q : PackId} :
    q ∈ (p.waiting.filter (frees catalog id)).map (·.1) ↔
      q ∈ packs ∧ id ∈ catalog.requires q ∧ unplaced catalog packs (id :: p.placed) q = [] := by
  have hid := h.ready hready
  rw [h.waiting, map_fst_filter_map, List.mem_filter, ← List.length_eq_zero_iff,
    length_unplaced_cons hid.mem hid.notMem]
  unfold frees
  rw [Bool.and_eq_true, decide_eq_true_iff, decide_eq_true_iff]
  rfl

theorem ready_cons_iff (h : Exact catalog packs p) (hready : p.ready = id :: rest) {q : PackId} :
    Ready catalog packs (id :: p.placed) q ↔
      (q ∈ packs ∧ id ∈ catalog.requires q ∧ unplaced catalog packs (id :: p.placed) q = []) ∨
        (Ready catalog packs p.placed q ∧ q ≠ id) := by
  have hid := h.ready hready
  constructor
  · intro hq
    have hne : q ≠ id := by
      intro heq
      exact hq.notMem (heq ▸ List.mem_cons_self ..)
    -- A pack that does not require `id` was ready before.
    by_cases hreq : id ∈ catalog.requires q
    · left
      exact ⟨hq.mem, hreq, unplaced_eq_nil_iff.2 hq.requires⟩
    · right
      refine ⟨⟨hq.mem, fun hm => hq.notMem (List.mem_cons_of_mem _ hm), ?_⟩, hne⟩
      intro r hr hmem
      rcases List.mem_cons.1 (hq.requires r hr hmem) with heq | hmem
      · exact absurd (heq ▸ hr) hreq
      · exact hmem
  · intro hq
    rcases hq with ⟨hmem, hreq, hnil⟩ | ⟨hq, hne⟩
    · -- A pack that waited for `id` is neither `id` nor placed: both have all they require.
      refine ⟨hmem, ?_, unplaced_eq_nil_iff.1 hnil⟩
      intro hm
      rcases List.mem_cons.1 hm with heq | hm
      · exact hid.not_requires_self (heq ▸ hreq)
      · exact hid.notMem (h.greedy.requires hm hreq hid.mem)
    · refine ⟨hq.mem, ?_, ?_⟩
      · intro hm
        rcases List.mem_cons.1 hm with heq | hm
        · exact hne heq
        · exact hq.notMem hm
      · intro r hr hmem
        exact List.mem_cons_of_mem _ (hq.requires r hr hmem)

theorem next (h : Exact catalog packs p) : Exact catalog packs (p.next catalog) := by
  unfold Progress.next
  split
  · exact h
  · next id rest hready =>
    have hid := h.ready hready
    constructor
    · exact .cons h.greedy hid fun other hother => h.least hready hother
    · dsimp only
      rw [h.waiting, List.map_map]
      apply List.map_congr_left
      intro q _
      dsimp only [Function.comp_apply, release]
      rw [length_unplaced_cons hid.mem hid.notMem]
    · apply Ascending.foldr_insert_ascending
      have hasc := h.ascending
      rw [hready] at hasc
      exact (List.pairwise_cons.1 hasc).2
    · intro q
      dsimp only
      rw [Ascending.mem_foldr_insert, h.mem_freed_iff hready, h.mem_rest_iff hready,
        h.ready_cons_iff hready]

end Exact

theorem after_exact (catalog : Catalog) (hpacks : Ascending packs) (rounds : Nat) :
    Exact catalog packs (after catalog packs rounds) := by
  induction rounds with
  | zero => exact start_exact hpacks
  | succ rounds ih => exact ih.next

theorem next_placed_length {p : Progress} (h : p.ready ≠ []) :
    (p.next catalog).placed.length = p.placed.length + 1 := by
  unfold Progress.next
  split
  · contradiction
  · rfl

theorem next_of_ready_eq_nil {p : Progress} (h : p.ready = []) : p.next catalog = p := by
  unfold Progress.next
  rw [h]

/--
Every round places a pack until none is ready.
-/
theorem after_placed_length (catalog : Catalog) (packs : List PackId) (rounds : Nat) :
    (after catalog packs rounds).placed.length = rounds ∨
      (after catalog packs rounds).ready = [] := by
  induction rounds with
  | zero =>
    left
    rfl
  | succ rounds ih =>
    unfold after
    by_cases hready : (after catalog packs rounds).ready = []
    · right
      rw [next_of_ready_eq_nil hready]
      exact hready
    · left
      rw [next_placed_length hready, ih.resolve_right hready]

end GovernanceLock.InstallOrder
