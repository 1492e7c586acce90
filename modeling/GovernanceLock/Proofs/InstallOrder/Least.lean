import GovernanceLock.Proofs.InstallOrder.Acyclic
import Mathlib.Data.List.Perm.Subperm

/-!
This module contains the correctness of the installation order: packs without a cycle of
requirements have one, it lists every pack after its requirements, and it is the least list that
does, compared id by id.
-/

namespace GovernanceLock

/--
A list of exactly the given packs, each after those of its requirements that are among them.
-/
structure IsInstallOrder (catalog : Catalog) (packs order : List PackId) : Prop where
  perm : order.Perm packs
  requiresFirst : ∀ before p after, order = before ++ p :: after →
    ∀ q ∈ catalog.requires p, q ∈ packs → q ∈ before

theorem notMem_of_nodup_append_cons {before after : List α} {p : α}
    (h : (before ++ p :: after).Nodup) : p ∉ before := by
  rw [List.nodup_append] at h
  intro hp
  exact h.2.2 p hp p (List.mem_cons_self ..) rfl

namespace IsInstallOrder

variable {catalog : Catalog} {packs order : List PackId}

theorem acyclic (h : IsInstallOrder catalog packs order) (hnodup : packs.Nodup) :
    catalog.Acyclic (· ∈ packs) := by
  apply Catalog.Acyclic.of_rank order.idxOf
  intro p q hpq
  rcases List.append_of_mem (h.perm.mem_iff.2 hpq.left) with ⟨before, after, heq⟩
  have hq := h.requiresFirst before p after heq q hpq.requires hpq.right
  have hp : p ∉ before := by
    apply notMem_of_nodup_append_cons
    rw [← heq, h.perm.nodup_iff]
    exact hnodup
  rw [heq, List.idxOf_append_of_mem hq, List.idxOf_append_of_notMem hp]
  have := List.idxOf_lt_length_of_mem hq
  omega

end IsInstallOrder

namespace InstallOrder

variable {catalog : Catalog} {packs placed : List PackId}

theorem Greedy.perm (h : Greedy catalog packs placed) (hlen : packs.length ≤ placed.length) :
    placed.Perm packs := by
  apply List.Subperm.perm_of_length_le _ hlen
  exact h.nodup.subperm h.subset

theorem Greedy.exists_ready {more : List PackId} (h : Greedy catalog packs placed)
    (hmore : Greedy catalog packs more) (hlt : placed.length < more.length) :
    ∃ id, Ready catalog packs placed id := by
  induction hmore with
  | nil => cases hlt
  | cons hmore hready _ ih =>
    rcases Nat.lt_or_eq_of_le (Nat.le_of_lt_succ hlt) with hlt | heq
    · exact ih hlt
    · rw [h.eq_of_length_eq hmore heq]
      exact ⟨_, hready⟩

theorem after_ready (hpacks : Ascending packs) : (after catalog packs packs.length).ready = [] := by
  have hexact := after_exact catalog hpacks packs.length
  rcases after_placed_length catalog packs packs.length with hlen | hready
  · -- All packs have been placed.
    rw [List.eq_nil_iff_forall_not_mem]
    intro id hid
    have hid := (hexact.mem_ready id).1 hid
    have hperm := hexact.greedy.perm (Nat.le_of_eq hlen.symm)
    exact hid.notMem (hperm.mem_iff.2 hid.mem)
  · exact hready

theorem not_ready_after (hpacks : Ascending packs) (id : PackId) :
    ¬ Ready catalog packs (after catalog packs packs.length).placed id := by
  rw [← (after_exact catalog hpacks packs.length).mem_ready, after_ready hpacks]
  exact List.not_mem_nil

end InstallOrder

open InstallOrder

theorem Catalog.installOrder_of_known {catalog : Catalog} {packs : List PackId}
    (hknown : ∀ id ∈ packs, catalog.contains id = true) :
    catalog.installOrder packs =
      if (after catalog packs packs.length).placed.length < packs.length then
        .error (.cycle (((after catalog packs packs.length).waiting.filter (0 < ·.2)).map (·.1)))
      else .ok (after catalog packs packs.length).placed.reverse := by
  have hfind : packs.find? (!catalog.contains ·) = none := by
    rw [List.find?_eq_none]
    intro id hid
    rw [hknown id hid]
    decide
  unfold installOrder
  rw [hfind]

/--
The installation order is the one that places the least pack that is ready, again and again.
-/
theorem Catalog.installOrder_eq_ok_iff {catalog : Catalog} {packs order : List PackId}
    (hpacks : Ascending packs) (hknown : ∀ id ∈ packs, catalog.contains id = true) :
    catalog.installOrder packs = .ok order ↔
      order.Perm packs ∧ Greedy catalog packs order.reverse := by
  have hexact := after_exact catalog hpacks packs.length
  rw [installOrder_of_known hknown]
  constructor
  · intro h
    split at h
    · cases h
    · next hlen =>
      cases h
      rw [List.reverse_reverse]
      refine ⟨?_, hexact.greedy⟩
      apply List.Perm.trans (List.reverse_perm _)
      exact hexact.greedy.perm (Nat.not_lt.1 hlen)
  · rintro ⟨hperm, hgreedy⟩
    have hlen : order.reverse.length = packs.length := by
      rw [List.length_reverse, hperm.length_eq]
    -- Where the rounds stop early, `order` would still go on.
    have hnot : ¬ (after catalog packs packs.length).placed.length < packs.length := by
      intro hlt
      rcases hexact.greedy.exists_ready hgreedy (hlen ▸ hlt) with ⟨id, hid⟩
      exact not_ready_after hpacks id hid
    rw [if_neg hnot]
    have hall := (hexact.greedy.perm (Nat.not_lt.1 hnot)).length_eq
    rw [hexact.greedy.eq_of_length_eq hgreedy (hall.trans hlen.symm), List.reverse_reverse]

theorem Catalog.exists_installOrder {catalog : Catalog} {packs : List PackId}
    (hpacks : Ascending packs) (hknown : ∀ id ∈ packs, catalog.contains id = true)
    (hacyclic : catalog.Acyclic (· ∈ packs)) : ∃ order, catalog.installOrder packs = .ok order := by
  have hexact := after_exact catalog hpacks packs.length
  have hsub : packs ⊆ (after catalog packs packs.length).placed := by
    intro p hp
    by_contra hnot
    rcases exists_ready hacyclic hp hnot with ⟨q, hq⟩
    exact not_ready_after hpacks q hq
  have hlen := (hpacks.nodup.subperm hsub).length_le
  rw [installOrder_of_known hknown, if_neg (Nat.not_lt.2 hlen)]
  exact ⟨_, rfl⟩

namespace InstallOrder

variable {catalog : Catalog} {packs order other : List PackId}

theorem Greedy.of_reverse {before after : List PackId} {p : PackId}
    (h : Greedy catalog packs (before ++ p :: after).reverse) :
    Ready catalog packs before.reverse p ∧
      ∀ q, Ready catalog packs before.reverse q → p ≤ q := by
  rw [List.reverse_append, List.reverse_cons, List.append_assoc] at h
  cases h.of_append with
  | cons _ hready hleast => exact ⟨hready, hleast⟩

theorem Greedy.isInstallOrder (h : Greedy catalog packs order.reverse) (hperm : order.Perm packs) :
    IsInstallOrder catalog packs order where
  perm := hperm
  requiresFirst := by
    intro before p after heq q hq hmem
    rw [heq] at h
    exact List.mem_reverse.1 (h.of_reverse.1.requires q hq hmem)

theorem ready_of_isInstallOrder (h : IsInstallOrder catalog packs other) (hnodup : packs.Nodup)
    {before after : List PackId} {p : PackId} (heq : other = before ++ p :: after) :
    Ready catalog packs before.reverse p where
  mem := by
    rw [← h.perm.mem_iff, heq]
    simp
  notMem := by
    rw [List.mem_reverse]
    apply notMem_of_nodup_append_cons
    rw [← heq, h.perm.nodup_iff]
    exact hnodup
  requires := by
    intro q hq hmem
    rw [List.mem_reverse]
    exact h.requiresFirst before p after heq q hq hmem

theorem eq_or_lex_of_forall_le {l k : List String} (hlen : l.length = k.length)
    (h : ∀ before x y after after', l = before ++ x :: after → k = before ++ y :: after' → x ≤ y) :
    l = k ∨ List.Lex (· < ·) l k := by
  induction l generalizing k with
  | nil =>
    cases k with
    | nil =>
      left
      rfl
    | cons y k => cases hlen
  | cons x l ih =>
    cases k with
    | nil => cases hlen
    | cons y k =>
      have hle := h [] x y l k rfl rfl
      by_cases heq : x = y
      · -- The first difference is further on.
        subst heq
        have htail := ih (Nat.succ.inj hlen) fun before a b after after' ha hb =>
          h (x :: before) a b after after' (congrArg (x :: ·) ha) (congrArg (x :: ·) hb)
        rcases htail with heq | hlex
        · left
          rw [heq]
        · right
          exact .cons hlex
      · right
        apply List.Lex.rel
        apply Decidable.byContradiction
        intro hlt
        exact heq (String.le_antisymm hle (String.not_lt.1 hlt))

theorem Greedy.eq_or_lex (h : Greedy catalog packs order.reverse) (hperm : order.Perm packs)
    (hnodup : packs.Nodup) (hother : IsInstallOrder catalog packs other) :
    order = other ∨ List.Lex (· < ·) order other := by
  apply eq_or_lex_of_forall_le
  · rw [hperm.length_eq, hother.perm.length_eq]
  · intro before x y after after' hx hy
    rw [hx] at h
    exact h.of_reverse.2 y (ready_of_isInstallOrder hother hnodup hy)

end InstallOrder

/--
Packs without a cycle of requirements have an installation order, and of all lists that name each
pack after its requirements it is the least.
-/
theorem Catalog.installOrder_isLeast {catalog : Catalog} {packs : List PackId}
    (hpacks : Ascending packs) (hknown : ∀ id ∈ packs, catalog.contains id = true)
    (hacyclic : catalog.Acyclic (· ∈ packs)) :
    ∃ order, catalog.installOrder packs = .ok order ∧ IsInstallOrder catalog packs order ∧
      ∀ other, IsInstallOrder catalog packs other →
        order = other ∨ List.Lex (· < ·) order other := by
  rcases exists_installOrder hpacks hknown hacyclic with ⟨order, horder⟩
  rcases (installOrder_eq_ok_iff hpacks hknown).1 horder with ⟨hperm, hgreedy⟩
  refine ⟨order, horder, hgreedy.isInstallOrder hperm, ?_⟩
  intro other hother
  exact hgreedy.eq_or_lex hperm hpacks.nodup hother

def fourPacks : Catalog :=
  .ofList
    [("a", { (default : Manifest) with id := "a", requires := ["q", "z"] }),
     ("m", { (default : Manifest) with id := "m" }),
     ("q", { (default : Manifest) with id := "q" }),
     ("z", { (default : Manifest) with id := "z" })]

theorem fourPacks_acyclic : fourPacks.Acyclic (· ∈ ["a", "m", "z"]) := by
  have h : ∀ p ∈ ["a", "m", "z"], ∀ q ∈ fourPacks.requires p, q ∈ ["a", "m", "z"] →
      ["m", "z", "a"].idxOf q < ["m", "z", "a"].idxOf p := by
    decide
  apply Catalog.Acyclic.of_rank ["m", "z", "a"].idxOf
  intro p q hpq
  exact h p hpq.left q hpq.requires hpq.right

theorem fourPacks_installOrder :
    Ascending ["a", "m", "z"] ∧ (∀ id ∈ ["a", "m", "z"], fourPacks.contains id = true) ∧
      fourPacks.Acyclic (· ∈ ["a", "m", "z"]) ∧
      ∃ order, fourPacks.installOrder ["a", "m", "z"] = .ok order ∧
        IsInstallOrder fourPacks ["a", "m", "z"] order ∧
        ∀ other, IsInstallOrder fourPacks ["a", "m", "z"] other →
          order = other ∨ List.Lex (· < ·) order other := by
  have hpacks : Ascending ["a", "m", "z"] := by decide
  have hknown : ∀ id ∈ ["a", "m", "z"], fourPacks.contains id = true := by decide
  exact ⟨hpacks, hknown, fourPacks_acyclic,
    Catalog.installOrder_isLeast hpacks hknown fourPacks_acyclic⟩

example : fourPacks.installOrder ["a", "m", "z"] = .ok ["m", "z", "a"] := by decide

end GovernanceLock
