import GovernanceLock.Proofs.InstallOrder.Progress

/-!
This module contains the ledger that is kept of requirements before any pack is placed: how many
requirements every pack has among the packs, and for every pack those that require it. The two sides
agree, since every requirement is entered once on each.
-/

namespace GovernanceLock

theorem KeyMap.entries_ofList_map {l : List String} (h : Ascending l) (f : String → α) :
    (ofList (l.map fun x => (x, f x))).entries = l.map fun x => (x, f x) :=
  entries_ofList (List.pairwise_map.2 h)

theorem KeyMap.get?_ofList_map (l : List String) (f : String → α) (k : String) :
    (ofList (l.map fun x => (x, f x))).get? k = if k ∈ l then some (f k) else none := by
  have hmem : ∀ k value, (k, value) ∈ l.map (fun x => (x, f x)) ↔ k ∈ l ∧ f k = value := by
    intro k value
    simp only [List.mem_map, Prod.mk.injEq]
    constructor
    · rintro ⟨x, hx, rfl, rfl⟩
      exact ⟨hx, rfl⟩
    · rintro ⟨hk, hvalue⟩
      exact ⟨k, hk, rfl, hvalue⟩
  apply Option.ext
  intro value
  rw [get?_ofList_eq_some_iff, hmem, Option.ite_none_right_eq_some, Option.some.injEq]
  intro key value value' h h'
  rw [hmem] at h h'
  exact h.2.symm.trans h'.2

namespace InstallOrder

structure Ledger where
  /-- How many requirements of each pack have been entered. -/
  counts : KeyMap Nat
  /-- The packs that require a pack, once for every time that they do. -/
  dependents : KeyMap (List PackId)

namespace Ledger

def dependentsOf (l : Ledger) (id : PackId) : List PackId :=
  (l.dependents.get? id).getD []

def blank (packs : List PackId) : Ledger where
  counts := .ofList (packs.map fun id => (id, 0))
  dependents := .empty

def enter (id : PackId) (l : Ledger) (q : PackId) : Ledger where
  counts :=
    match l.counts.get? id with
    | some count => l.counts.insert id (count + 1)
    | none => l.counts
  dependents := l.dependents.insert q (l.dependentsOf q ++ [id])

def enterPack (catalog : Catalog) (packs : List PackId) (l : Ledger) (id : PackId) : Ledger :=
  (inside catalog packs id).foldl (enter id) l

def ofPacks (catalog : Catalog) (packs : List PackId) : Ledger :=
  packs.foldl (enterPack catalog packs) (blank packs)

variable {catalog : Catalog} {packs : List PackId}

theorem get?_counts_enter (l : Ledger) (id q p : PackId) :
    (enter id l q).counts.get? p = (l.counts.get? p).map (· + if p = id then 1 else 0) := by
  unfold enter
  dsimp only
  by_cases hp : p = id
  · subst hp
    cases h : l.counts.get? p with
    | none => simp [h]
    | some count => simp [KeyMap.get?_insert]
  · cases h : l.counts.get? id with
    | none => simp [hp]
    | some count => simp [KeyMap.get?_insert, hp]

theorem count_dependentsOf_enter (l : Ledger) (id q p r : PackId) :
    ((enter id l q).dependentsOf r).count p =
      (l.dependentsOf r).count p + if p = id ∧ q = r then 1 else 0 := by
  unfold enter
  rw [dependentsOf, KeyMap.get?_insert]
  by_cases hr : r = q
  · subst hr
    simp [List.count_singleton, beq_iff_eq, eq_comm (a := id)]
  · rw [if_neg hr, if_neg fun h => hr h.2.symm]
    rfl

theorem get?_counts_foldl_enter (l : Ledger) (id p : PackId) (qs : List PackId) :
    (qs.foldl (enter id) l).counts.get? p =
      (l.counts.get? p).map (· + if p = id then qs.length else 0) := by
  induction qs generalizing l with
  | nil => simp
  | cons q qs ih =>
    rw [List.foldl_cons, ih, get?_counts_enter, Option.map_map]
    congr 1
    funext count
    dsimp only [Function.comp_apply, List.length_cons]
    split
    · omega
    · omega

theorem count_dependentsOf_foldl_enter (l : Ledger) (id p r : PackId) (qs : List PackId) :
    ((qs.foldl (enter id) l).dependentsOf r).count p =
      (l.dependentsOf r).count p + if p = id then qs.count r else 0 := by
  induction qs generalizing l with
  | nil => simp
  | cons q qs ih =>
    rw [List.foldl_cons, ih, count_dependentsOf_enter, List.count_cons]
    by_cases hp : p = id
    · simp only [hp, if_true, true_and, beq_iff_eq]
      omega
    · simp [hp]

theorem get?_counts_foldl_enterPack (l : Ledger) (p : PackId) {ids : List PackId}
    (hids : ids.Nodup) :
    (ids.foldl (enterPack catalog packs) l).counts.get? p =
      (l.counts.get? p).map (· + if p ∈ ids then (inside catalog packs p).length else 0) := by
  induction ids generalizing l with
  | nil => simp
  | cons id ids ih =>
    rw [List.nodup_cons] at hids
    rw [List.foldl_cons, ih _ hids.2, enterPack, get?_counts_foldl_enter, Option.map_map]
    congr 1
    funext count
    by_cases hp : p = id
    · subst hp
      simp [hids.1]
    · simp [hp]

theorem count_dependentsOf_foldl_enterPack (l : Ledger) (p r : PackId) {ids : List PackId}
    (hids : ids.Nodup) :
    ((ids.foldl (enterPack catalog packs) l).dependentsOf r).count p =
      (l.dependentsOf r).count p + if p ∈ ids then (inside catalog packs p).count r else 0 := by
  induction ids generalizing l with
  | nil => simp
  | cons id ids ih =>
    rw [List.nodup_cons] at hids
    rw [List.foldl_cons, ih _ hids.2, enterPack, count_dependentsOf_foldl_enter]
    by_cases hp : p = id
    · subst hp
      simp [hids.1]
    · simp [hp]

theorem get?_counts_ofPacks (catalog : Catalog) (hpacks : Ascending packs) (p : PackId) :
    (ofPacks catalog packs).counts.get? p =
      if p ∈ packs then some (inside catalog packs p).length else none := by
  unfold ofPacks
  rw [get?_counts_foldl_enterPack _ _ hpacks.nodup, blank, KeyMap.get?_ofList_map]
  by_cases hp : p ∈ packs
  · simp [hp]
  · simp [hp]

theorem count_dependentsOf_ofPacks (catalog : Catalog) (hpacks : Ascending packs) (p r : PackId) :
    ((ofPacks catalog packs).dependentsOf r).count p =
      if p ∈ packs then (inside catalog packs p).count r else 0 := by
  unfold ofPacks
  rw [count_dependentsOf_foldl_enterPack _ _ _ hpacks.nodup]
  unfold blank dependentsOf
  simp

end Ledger

end InstallOrder

end GovernanceLock
