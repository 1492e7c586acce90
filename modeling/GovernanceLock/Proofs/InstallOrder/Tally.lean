import GovernanceLock.Proofs.InstallOrder.Cycle
import GovernanceLock.Proofs.InstallOrder.Ledger
import Mathlib.Data.Set.Card

/-!
This module contains the placing of packs with one counter per pack. When a pack is placed, the
counters of its dependents are lowered one after the other, and a pack whose counter gets to zero
becomes ready. Between any two of these steps a counter is the number of requirements that have not
been placed, together with how often it is still going to be lowered, so that no counter that is
zero is ever lowered. Round by round, this is the placing of packs that installation orders are
made by.
-/

namespace GovernanceLock.InstallOrder

structure Tally where
  counts : KeyMap Nat
  ready : List PackId
  /-- The packs that have been placed, the last one first. -/
  placed : List PackId
  /-- The packs that have become ready, the last one first, once for every time. -/
  entered : List PackId

namespace Tally

def start (l : Ledger) : Tally :=
  let free := (l.counts.entries.filter (·.2 = 0)).map (·.1)
  { counts := l.counts, ready := free, placed := [], entered := free }

def lower (s : Tally) (id : PackId) : Option Tally :=
  match s.counts.get? id with
  | none => some s
  | some 0 => none
  | some (count + 1) =>
    let counts := s.counts.insert id count
    if count = 0 then
      some { s with counts, ready := Ascending.insert id s.ready, entered := id :: s.entered }
    else some { s with counts }

/--
Place the least pack that is ready.
-/
def next (l : Ledger) (s : Tally) : Option Tally :=
  match s.ready with
  | [] => some s
  | id :: rest =>
    (l.dependentsOf id).foldlM lower { s with ready := rest, placed := id :: s.placed }

def afterRounds (l : Ledger) : (rounds : Nat) → Option Tally
  | 0 => some (start l)
  | rounds + 1 => (afterRounds l rounds).bind (next l)

end Tally

variable {catalog : Catalog} {packs : List PackId}

theorem length_unplaced_eq_ncard {placed : List PackId} {id : PackId}
    (h : (catalog.requires id).Nodup) :
    (unplaced catalog packs placed id).length =
      {q | q ∈ catalog.requires id ∧ q ∈ packs ∧ q ∉ placed}.ncard := by
  have hnodup : (unplaced catalog packs placed id).Nodup := (h.filter _).filter _
  rw [← List.toFinset_card_of_nodup hnodup, ← Set.ncard_coe_finset]
  congr 1
  ext q
  unfold unplaced
  simp [mem_inside, and_assoc]

theorem length_unplaced_eq_add {placed : List PackId} {id p : PackId} (hmem : id ∈ packs)
    (hnot : id ∉ placed) :
    (unplaced catalog packs placed p).length =
      (unplaced catalog packs (id :: placed) p).length + (inside catalog packs p).count id := by
  have hcount : (inside catalog packs p).count id = (catalog.requires p).count id := by
    rw [← unplaced_nil, count_unplaced hmem List.not_mem_nil]
  have hle : (catalog.requires p).count id ≤ (unplaced catalog packs placed p).length := by
    rw [← count_unplaced hmem hnot]
    exact List.count_le_length
  rw [length_unplaced_cons hmem hnot, hcount]
  omega

/--
What holds while the counters of `pending` are still to be lowered.
-/
structure Tally.Sound (catalog : Catalog) (packs pending : List PackId) (s : Tally) : Prop where
  greedy : Greedy catalog packs s.placed
  counts : ∀ p, s.counts.get? p =
    if p ∈ packs then some ((unplaced catalog packs s.placed p).length + pending.count p) else none
  ascending : Ascending s.ready
  mem_ready : ∀ p, p ∈ s.ready ↔ s.counts.get? p = some 0 ∧ p ∉ s.placed
  get?_of_placed : ∀ p ∈ s.placed, s.counts.get? p = some 0
  nodup : s.entered.Nodup
  mem_entered : ∀ p, p ∈ s.entered ↔ p ∈ s.ready ∨ p ∈ s.placed

namespace Tally

variable {s : Tally} {pending : List PackId} {id : PackId}

theorem start_sound (catalog : Catalog) (hpacks : Ascending packs) :
    Sound catalog packs [] (start (.ofPacks catalog packs)) := by
  have hmem : ∀ p, p ∈ (start (.ofPacks catalog packs)).ready ↔
      (Ledger.ofPacks catalog packs).counts.get? p = some 0 := by
    intro p
    unfold start
    simp [KeyMap.mem_entries_iff]
  have hasc : Ascending (start (.ofPacks catalog packs)).ready := by
    apply List.Pairwise.sublist _ (Ledger.ofPacks catalog packs).counts.keys_ascending
    exact List.filter_sublist.map _
  constructor
  · exact .nil
  · intro p
    dsimp only [start]
    rw [unplaced_nil]
    exact Ledger.get?_counts_ofPacks catalog hpacks p
  · exact hasc
  · intro p
    rw [hmem]
    simp [start]
  · intro p hp
    cases hp
  · exact hasc.nodup
  · intro p
    simp [start]

namespace Sound

theorem get?_eq_some_iff (h : Sound catalog packs pending s) {p : PackId} {count : Nat} :
    s.counts.get? p = some count ↔
      p ∈ packs ∧ (unplaced catalog packs s.placed p).length + pending.count p = count := by
  rw [h.counts]
  by_cases hp : p ∈ packs
  · simp [hp]
  · simp [hp]

theorem get?_counts_insert (h : Sound catalog packs (id :: pending) s) {count : Nat}
    (hcount : s.counts.get? id = some (count + 1)) (p : PackId) :
    (s.counts.insert id count).get? p =
      if p ∈ packs then some ((unplaced catalog packs s.placed p).length + pending.count p)
      else none := by
  rcases h.get?_eq_some_iff.1 hcount with ⟨hmem, heq⟩
  rw [KeyMap.get?_insert]
  by_cases hp : p = id
  · subst hp
    rw [List.count_cons_self] at heq
    rw [if_pos rfl, if_pos hmem, Option.some.injEq]
    omega
  · rw [if_neg hp, h.counts, List.count_cons_of_ne (Ne.symm hp)]

theorem notMem_placed (h : Sound catalog packs pending s) {count : Nat}
    (hcount : s.counts.get? id = some (count + 1)) : id ∉ s.placed := by
  intro hplaced
  have hzero := h.get?_of_placed id hplaced
  rw [hcount] at hzero
  cases hzero

theorem get?_insert_of_placed (h : Sound catalog packs pending s) {count : Nat}
    (hcount : s.counts.get? id = some (count + 1)) :
    ∀ p ∈ s.placed, (s.counts.insert id count).get? p = some 0 := by
  intro p hp
  rw [KeyMap.get?_insert, if_neg (ne_of_mem_of_not_mem hp (h.notMem_placed hcount))]
  exact h.get?_of_placed p hp

theorem notMem_ready (h : Sound catalog packs pending s) {count : Nat}
    (hcount : s.counts.get? id = some (count + 1)) : id ∉ s.ready := by
  rw [h.mem_ready, hcount]
  simp

theorem enter (h : Sound catalog packs (id :: pending) s)
    (hcount : s.counts.get? id = some (0 + 1)) :
    Sound catalog packs pending
      { s with
        counts := s.counts.insert id 0
        ready := Ascending.insert id s.ready
        entered := id :: s.entered } where
  greedy := h.greedy
  counts := h.get?_counts_insert hcount
  ascending := Ascending.insert_ascending h.ascending
  mem_ready := by
    intro p
    rw [Ascending.mem_insert, KeyMap.get?_insert]
    by_cases hp : p = id
    · subst hp
      simp [h.notMem_placed hcount]
    · simp [hp, h.mem_ready]
  get?_of_placed := h.get?_insert_of_placed hcount
  nodup := by
    rw [List.nodup_cons, h.mem_entered, not_or]
    exact ⟨⟨h.notMem_ready hcount, h.notMem_placed hcount⟩, h.nodup⟩
  mem_entered := by
    intro p
    rw [List.mem_cons, Ascending.mem_insert, h.mem_entered, or_assoc]

theorem wait (h : Sound catalog packs (id :: pending) s) {count : Nat}
    (hcount : s.counts.get? id = some (count + 1)) (hpos : count ≠ 0) :
    Sound catalog packs pending { s with counts := s.counts.insert id count } where
  greedy := h.greedy
  counts := h.get?_counts_insert hcount
  ascending := h.ascending
  mem_ready := by
    intro p
    rw [KeyMap.get?_insert]
    by_cases hp : p = id
    · subst hp
      simp [h.notMem_ready hcount, hpos]
    · rw [if_neg hp, h.mem_ready]
  get?_of_placed := h.get?_insert_of_placed hcount
  nodup := h.nodup
  mem_entered := h.mem_entered

theorem of_get?_eq_none (h : Sound catalog packs (id :: pending) s)
    (hnone : s.counts.get? id = none) : Sound catalog packs pending s := by
  refine { h with counts := ?_ }
  intro p
  rw [h.counts]
  split
  · next hp =>
    have hne : id ≠ p := by
      intro heq
      rw [h.counts, if_pos (heq ▸ hp)] at hnone
      cases hnone
    rw [List.count_cons_of_ne hne]
  · rfl

theorem lower (h : Sound catalog packs (id :: pending) s) :
    ∃ s', s.lower id = some s' ∧ Sound catalog packs pending s' ∧ s'.placed = s.placed := by
  unfold Tally.lower
  split
  · next hnone => exact ⟨s, rfl, h.of_get?_eq_none hnone, rfl⟩
  · next hzero =>
    -- The counter still has in it that it is going to be lowered.
    have heq := (h.get?_eq_some_iff.1 hzero).2
    rw [List.count_cons_self] at heq
    omega
  · next count hcount =>
    dsimp only
    split
    · next hzero =>
      subst hzero
      exact ⟨_, rfl, h.enter hcount, rfl⟩
    · next hpos => exact ⟨_, rfl, h.wait hcount hpos, rfl⟩

theorem foldlM_lower (h : Sound catalog packs pending s) :
    ∃ s', pending.foldlM Tally.lower s = some s' ∧ Sound catalog packs [] s' ∧
      s'.placed = s.placed := by
  induction pending generalizing s with
  | nil => exact ⟨s, rfl, h, rfl⟩
  | cons id pending ih =>
    rcases h.lower with ⟨s₁, hlower, h₁, hplaced₁⟩
    rcases ih h₁ with ⟨s₂, hfold, h₂, hplaced₂⟩
    refine ⟨s₂, ?_, h₂, hplaced₂.trans hplaced₁⟩
    rw [List.foldlM_cons, hlower]
    exact hfold

theorem mem_ready_iff (h : Sound catalog packs [] s) {p : PackId} :
    p ∈ s.ready ↔ Ready catalog packs s.placed p := by
  rw [h.mem_ready, h.get?_eq_some_iff, ready_iff, ← List.length_eq_zero_iff, List.count_nil,
    Nat.add_zero]
  tauto

theorem place (h : Sound catalog packs [] s) (hpacks : Ascending packs) {rest : List PackId}
    (hready : s.ready = id :: rest) :
    Sound catalog packs ((Ledger.ofPacks catalog packs).dependentsOf id)
      { s with ready := rest, placed := id :: s.placed } := by
  have hasc := h.ascending
  rw [hready] at hasc
  have hmem : id ∈ s.ready := by
    rw [hready]
    apply List.mem_cons_self
  have hid := h.mem_ready_iff.1 hmem
  constructor
  · refine .cons h.greedy hid ?_
    intro other hother
    rw [← h.mem_ready_iff, hready] at hother
    exact hasc.head_le hother
  · -- What has been required of `id` is not waited for, but is still to be taken off the counters.
    intro p
    dsimp only
    rw [h.counts, Ledger.count_dependentsOf_ofPacks catalog hpacks, List.count_nil,
      length_unplaced_eq_add hid.mem hid.notMem]
    split
    · rfl
    · rfl
  · exact (List.pairwise_cons.1 hasc).2
  · intro p
    dsimp only
    rw [hasc.mem_tail_iff, ← hready, h.mem_ready, List.mem_cons]
    tauto
  · intro p hp
    rcases List.mem_cons.1 hp with rfl | hp
    · exact ((h.mem_ready p).1 hmem).1
    · exact h.get?_of_placed p hp
  · exact h.nodup
  · intro p
    dsimp only
    rw [h.mem_entered, hready, List.mem_cons, List.mem_cons]
    tauto

theorem next (h : Sound catalog packs [] s) (hpacks : Ascending packs) :
    ∃ s', s.next (.ofPacks catalog packs) = some s' ∧ Sound catalog packs [] s' ∧
      s'.placed = s.ready.head?.toList ++ s.placed := by
  unfold Tally.next
  split
  · next hready => exact ⟨s, rfl, h, by rw [hready]; rfl⟩
  · next id rest hready =>
    rw [hready]
    exact (h.place hpacks hready).foldlM_lower

/--
The counters stand for the progress that has placed the same packs.
-/
theorem agrees (h : Sound catalog packs [] s) (hpacks : Ascending packs) {p : Progress}
    (hp : Exact catalog packs p) (hplaced : s.placed = p.placed) :
    s.counts.entries = p.waiting ∧ s.ready = p.ready := by
  constructor
  · rw [hp.waiting, ← hplaced]
    have hcounts : s.counts =
        .ofList (packs.map fun id => (id, (unplaced catalog packs s.placed id).length)) := by
      apply KeyMap.ext_get?
      intro id
      rw [h.counts, KeyMap.get?_ofList_map, List.count_nil, Nat.add_zero]
    rw [hcounts, KeyMap.entries_ofList_map hpacks]
  · apply Ascending.eq_of_mem_iff h.ascending hp.ascending
    intro id
    rw [h.mem_ready_iff, hp.mem_ready, hplaced]

end Sound

theorem afterRounds_sound (catalog : Catalog) (hpacks : Ascending packs) (rounds : Nat) :
    ∃ s, afterRounds (.ofPacks catalog packs) rounds = some s ∧ Sound catalog packs [] s ∧
      s.placed = (after catalog packs rounds).placed := by
  induction rounds with
  | zero => exact ⟨_, rfl, start_sound catalog hpacks, rfl⟩
  | succ rounds ih =>
    rcases ih with ⟨s, hs, hsound, hplaced⟩
    rcases hsound.next hpacks with ⟨s', hs', hsound', hplaced'⟩
    refine ⟨s', ?_, hsound', ?_⟩
    · rw [afterRounds, hs]
      exact hs'
    · rw [hplaced', (hsound.agrees hpacks (after_exact catalog hpacks rounds) hplaced).2, hplaced,
        after, Progress.next]
      split
      · next hready => rw [hready]; rfl
      · next hready => rw [hready]; rfl

theorem Sound.length_lt (h : Sound catalog packs [] s) (hready : s.ready ≠ []) :
    s.placed.length < packs.length := by
  rcases List.exists_mem_of_ne_nil _ hready with ⟨id, hid⟩
  rw [h.mem_ready_iff] at hid
  have hnodup : (id :: s.placed).Nodup := List.nodup_cons.2 ⟨hid.notMem, h.greedy.nodup⟩
  exact (hnodup.subperm (List.cons_subset.2 ⟨hid.mem, h.greedy.subset⟩)).length_le

/--
The counters can be kept for any number of rounds without one that is zero being lowered. Before
every round the counter of a pack is the number of its requirements that have not been placed, the
packs that are ready are those with a counter of zero that have not been placed, and no pack has
become ready twice. At most as many rounds as there are packs place one. The counters, and the packs
that are ready and that have been placed, are the ones of installation orders.
-/
theorem counters_exact (catalog : Catalog) {packs : List PackId} (hpacks : Ascending packs)
    (rounds : Nat) :
    ∃ s, afterRounds (.ofPacks catalog packs) rounds = some s ∧
      (∀ p ∈ packs, s.counts.get? p = some (unplaced catalog packs s.placed p).length ∧
        ((catalog.requires p).Nodup → (unplaced catalog packs s.placed p).length =
          {q | q ∈ catalog.requires p ∧ q ∈ packs ∧ q ∉ s.placed}.ncard)) ∧
      (∀ p, p ∈ s.ready ↔ s.counts.get? p = some 0 ∧ p ∉ s.placed) ∧
      (s.entered.Nodup ∧ ∀ p, p ∈ s.entered ↔ p ∈ s.ready ∨ p ∈ s.placed) ∧
      (s.ready ≠ [] → rounds < packs.length) ∧
      s.counts.entries = (after catalog packs rounds).waiting ∧
      s.ready = (after catalog packs rounds).ready ∧
      s.placed = (after catalog packs rounds).placed := by
  rcases afterRounds_sound catalog hpacks rounds with ⟨s, hs, hsound, hplaced⟩
  rcases hsound.agrees hpacks (after_exact catalog hpacks rounds) hplaced with ⟨hcounts, hready⟩
  refine ⟨s, hs, ?_, hsound.mem_ready, ⟨hsound.nodup, hsound.mem_entered⟩, ?_, hcounts, hready,
    hplaced⟩
  · intro p hp
    exact ⟨hsound.get?_eq_some_iff.2 ⟨hp, rfl⟩, length_unplaced_eq_ncard⟩
  · intro hne
    have hlt := hsound.length_lt hne
    rw [hready] at hne
    rw [hplaced, (after_placed_length catalog packs rounds).resolve_right hne] at hlt
    exact hlt

/--
The one pack that waited only for `f` is ready now. A pack that requires itself goes on waiting.
-/
theorem loopPacks_counters_exact :
    Ascending ["a", "b", "c", "d", "e", "f"] ∧
      ∃ s, afterRounds (.ofPacks loopPacks ["a", "b", "c", "d", "e", "f"]) 1 = some s ∧
        s.placed = ["f"] ∧ s.ready = ["e"] ∧ s.counts.get? "c" = some 2 ∧
        s.counts.get? "d" = some 1 := by
  have hpacks : Ascending ["a", "b", "c", "d", "e", "f"] := by decide
  rcases counters_exact loopPacks hpacks 1 with ⟨s, hs, hcounts, _, _, _, _, hready, hplaced⟩
  have hplaced : s.placed = ["f"] := hplaced.trans (by decide)
  rw [hplaced] at hcounts
  refine ⟨hpacks, s, hs, hplaced, hready.trans (by decide), ?_, ?_⟩
  · exact (hcounts "c" (by decide)).1.trans (by decide)
  · exact (hcounts "d" (by decide)).1.trans (by decide)

end Tally

end GovernanceLock.InstallOrder
