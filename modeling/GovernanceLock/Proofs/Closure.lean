import GovernanceLock.Proofs.Except
import GovernanceLock.Requirement.Closure

/-!
This module contains the correctness of the closure of a selection: it exists iff the catalog has
every pack that the selection leads to, and then it consists of exactly those packs.

The search keeps its visited packs divided into those that it is done with and those that wait in
the queue. A pack that it is done with is known, and so are its requirements, which have all been
visited.
-/

namespace GovernanceLock

namespace Catalog

theorem requires_eq {catalog : Catalog} {p : PackId} {m : Manifest}
    (h : catalog.get? p = some m) : catalog.requires p = m.requires := by
  unfold requires
  rw [h]

theorem Reaches.refl {catalog : Catalog} (p : PackId) : catalog.Reaches p p :=
  ⟨0, .refl p⟩

theorem Reaches.tail {catalog : Catalog} {p q r : PackId} (hq : catalog.Reaches p q)
    (hr : r ∈ catalog.requires q) : catalog.Reaches p r := by
  rcases hq with ⟨n, hn⟩
  exact ⟨n + 1, .step hn hr⟩

/--
One of the packs of `start` leads to `p`.
-/
def ReachesFrom (catalog : Catalog) (start : PackId → Prop) (p : PackId) : Prop :=
  ∃ s, start s ∧ catalog.Reaches s p

namespace ReachesFrom

variable {catalog : Catalog} {start : PackId → Prop} {p q : PackId}

theorem of_start (h : start p) : catalog.ReachesFrom start p :=
  ⟨p, h, .refl p⟩

theorem tail (hp : catalog.ReachesFrom start p) (hq : q ∈ catalog.requires p) :
    catalog.ReachesFrom start q := by
  rcases hp with ⟨s, hs, hp⟩
  exact ⟨s, hs, hp.tail hq⟩

theorem cases_tail (h : catalog.ReachesFrom start p) :
    start p ∨ ∃ q, catalog.ReachesFrom start q ∧ p ∈ catalog.requires q := by
  rcases h with ⟨s, hs, n, hn⟩
  cases hn with
  | refl => exact .inl hs
  | step hq hp => exact .inr ⟨_, ⟨s, hs, _, hq⟩, hp⟩

theorem preserves {P : PackId → Prop} (hstart : ∀ s, start s → P s)
    (hstep : ∀ p, P p → ∀ q ∈ catalog.requires p, P q) (h : catalog.ReachesFrom start p) :
    P p := by
  rcases h with ⟨s, hs, n, hn⟩
  induction hn with
  | refl => exact hstart _ hs
  | step _ hr ih => exact hstep _ (ih hs) _ hr

end ReachesFrom

end Catalog

namespace Closure

open Catalog (ReachesFrom)

/--
The catalog has the packs of `done` and all their requirements, which are among the packs of
`visited`.
-/
def Scanned (catalog : Catalog) (done visited : List PackId) : Prop :=
  ∀ p ∈ done, ∃ m, catalog.get? p = some m ∧
    ∀ q ∈ m.requires, catalog.contains q = true ∧ q ∈ visited

theorem Scanned.mono {catalog : Catalog} {done visited more : List PackId}
    (h : Scanned catalog done visited) (hsub : visited ⊆ more) : Scanned catalog done more := by
  intro p hp
  rcases h p hp with ⟨m, hm, hreq⟩
  refine ⟨m, hm, ?_⟩
  intro q hq
  exact ⟨(hreq q hq).1, hsub (hreq q hq).2⟩

theorem mem_visited_or_fresh {m : Manifest} {visited : List PackId} {q : PackId}
    (hq : q ∈ m.requires) : q ∈ visited ++ fresh m visited := by
  unfold fresh
  by_cases hv : q ∈ visited
  · simp [hv]
  · simp [hv, hq]

theorem contains_of_absent?_eq_none {catalog : Catalog} {m : Manifest} {q : PackId}
    (habsent : absent? catalog m = none) (hq : q ∈ m.requires) : catalog.contains q = true := by
  unfold absent? at habsent
  have := List.find?_eq_none.1 habsent q hq
  simpa using this

theorem Scanned.init {catalog : Catalog} {visited : List PackId} : Scanned catalog [] visited := by
  intro p hp
  cases hp

theorem Scanned.step {catalog : Catalog} {done visited : List PackId} {id : PackId} {m : Manifest}
    (h : Scanned catalog done visited) (hm : catalog.get? id = some m)
    (habsent : absent? catalog m = none) :
    Scanned catalog (done ++ [id]) (visited ++ fresh m visited) := by
  intro p hp
  rcases List.mem_append.1 hp with hp | hp
  · exact h.mono (List.subset_append_left ..) p hp
  · rw [List.mem_singleton] at hp
    subst hp
    refine ⟨m, hm, ?_⟩
    intro q hq
    exact ⟨contains_of_absent?_eq_none habsent hq, mem_visited_or_fresh hq⟩

theorem search_nil {catalog : Catalog} {visited : List PackId} :
    search catalog visited [] = .ok visited := by
  rw [search]

theorem search_unknown {catalog : Catalog} {visited queue : List PackId} {id : PackId}
    (hid : catalog.get? id = none) :
    search catalog visited (id :: queue) = .error (.unknown id) := by
  rw [search]
  simp only [hid]

theorem search_missing {catalog : Catalog} {visited queue : List PackId} {id dependency : PackId}
    {m : Manifest} (hm : catalog.get? id = some m) (habsent : absent? catalog m = some dependency) :
    search catalog visited (id :: queue) = .error (.missing id dependency) := by
  rw [search]
  simp only [hm]
  split
  · next h => rw [habsent] at h; cases h; rfl
  · next h => rw [habsent] at h; cases h

theorem search_scan {catalog : Catalog} {visited queue : List PackId} {id : PackId} {m : Manifest}
    (hm : catalog.get? id = some m) (habsent : absent? catalog m = none) :
    search catalog visited (id :: queue)
      = search catalog (visited ++ fresh m visited) (queue ++ fresh m visited) := by
  rw [search]
  simp only [hm]
  split
  · next h => rw [habsent] at h; cases h
  · rfl

theorem scanned_of_search_eq_ok {catalog : Catalog} {done visited queue packs : List PackId}
    (hv : visited = done ++ queue) (hdone : Scanned catalog done visited)
    (h : search catalog visited queue = .ok packs) :
    visited ⊆ packs ∧ Scanned catalog packs packs := by
  induction visited, queue using search.induct catalog generalizing done with
  | case1 visited =>
    rw [search_nil] at h
    cases h
    rw [List.append_nil] at hv
    subst hv
    exact ⟨List.Subset.refl _, hdone⟩
  | case2 visited id queue hid =>
    rw [search_unknown hid] at h
    cases h
  | case3 visited id queue m hm dependency habsent =>
    rw [search_missing hm habsent] at h
    cases h
  | case4 visited id queue m hm habsent ih =>
    rw [search_scan hm habsent] at h
    -- The search is done with `id` as well now, and what it found waits at the end of the queue.
    have hv' : visited ++ fresh m visited = (done ++ [id]) ++ (queue ++ fresh m visited) := by
      rw [hv]
      simp
    rcases ih hv' (hdone.step hm habsent) h with ⟨hsub, hscanned⟩
    exact ⟨fun p hp => hsub (List.mem_append_left _ hp), hscanned⟩

/--
The start leads to every visited pack, and what waits in the queue has been visited.
-/
structure Discovered (catalog : Catalog) (start : PackId → Prop) (visited queue : List PackId) :
    Prop where
  reached : ∀ p ∈ visited, catalog.ReachesFrom start p
  queued : queue ⊆ visited

theorem Discovered.init {catalog : Catalog} {ids : List PackId} :
    Discovered catalog (· ∈ ids) ids ids where
  reached _ hp := .of_start hp
  queued := List.Subset.refl _

theorem Discovered.head {catalog : Catalog} {start : PackId → Prop} {visited queue : List PackId}
    {id : PackId} (h : Discovered catalog start visited (id :: queue)) :
    catalog.ReachesFrom start id := by
  apply h.reached
  apply h.queued
  apply List.mem_cons_self

theorem Discovered.step {catalog : Catalog} {start : PackId → Prop} {visited queue : List PackId}
    {id : PackId} {m : Manifest} (h : Discovered catalog start visited (id :: queue))
    (hm : catalog.get? id = some m) :
    Discovered catalog start (visited ++ fresh m visited) (queue ++ fresh m visited) where
  reached := by
    intro p hp
    rcases List.mem_append.1 hp with hp | hp
    · exact h.reached p hp
    · apply h.head.tail
      rw [Catalog.requires_eq hm]
      exact (List.mem_filter.1 hp).1
  queued := by
    apply List.append_subset.2
    constructor
    · intro p hp
      apply List.mem_append_left
      apply h.queued
      exact List.mem_cons_of_mem _ hp
    · apply List.subset_append_right

theorem reachesFrom_of_search_eq_ok {catalog : Catalog} {start : PackId → Prop}
    {visited queue packs : List PackId} (hd : Discovered catalog start visited queue)
    (h : search catalog visited queue = .ok packs) :
    ∀ p ∈ packs, catalog.ReachesFrom start p := by
  induction visited, queue using search.induct catalog with
  | case1 visited =>
    rw [search_nil] at h
    cases h
    exact hd.reached
  | case2 visited id queue hid =>
    rw [search_unknown hid] at h
    cases h
  | case3 visited id queue m hm dependency habsent =>
    rw [search_missing hm habsent] at h
    cases h
  | case4 visited id queue m hm habsent ih =>
    rw [search_scan hm habsent] at h
    exact ih (hd.step hm) h

theorem exists_absent_of_search_eq_error {catalog : Catalog} {start : PackId → Prop}
    {visited queue : List PackId} {e : Error} (hd : Discovered catalog start visited queue)
    (h : search catalog visited queue = .error e) :
    ∃ p, catalog.ReachesFrom start p ∧ catalog.contains p = false := by
  induction visited, queue using search.induct catalog with
  | case1 visited =>
    rw [search_nil] at h
    cases h
  | case2 visited id queue hid =>
    refine ⟨id, hd.head, ?_⟩
    rw [KeyMap.contains_eq_false_iff]
    exact hid
  | case3 visited id queue m hm dependency habsent =>
    refine ⟨dependency, hd.head.tail ?_, ?_⟩
    · rw [Catalog.requires_eq hm]
      exact List.mem_of_find?_eq_some habsent
    · simpa using List.find?_some habsent
  | case4 visited id queue m hm habsent ih =>
    rw [search_scan hm habsent] at h
    exact ih (hd.step hm) h

theorem exists_missing_of_search_eq_error {catalog : Catalog} {start : PackId → Prop}
    {visited queue : List PackId} {e : Error} (hd : Discovered catalog start visited queue)
    (hknown : ∀ p ∈ queue, catalog.contains p = true)
    (h : search catalog visited queue = .error e) :
    ∃ p m q, catalog.ReachesFrom start p ∧ catalog.get? p = some m ∧
      absent? catalog m = some q ∧ e = .missing p q := by
  induction visited, queue using search.induct catalog with
  | case1 visited =>
    rw [search_nil] at h
    cases h
  | case2 visited id queue hid =>
    rw [← KeyMap.contains_eq_false_iff, hknown id List.mem_cons_self] at hid
    cases hid
  | case3 visited id queue m hm dependency habsent =>
    rw [search_missing hm habsent] at h
    cases h
    exact ⟨id, m, dependency, hd.head, hm, habsent, rfl⟩
  | case4 visited id queue m hm habsent ih =>
    rw [search_scan hm habsent] at h
    apply ih (hd.step hm) _ h
    intro p hp
    rcases List.mem_append.1 hp with hp | hp
    · exact hknown p (List.mem_cons_of_mem _ hp)
    · exact contains_of_absent?_eq_none habsent (List.mem_filter.1 hp).1

theorem mem_search_iff {catalog : Catalog} {ids packs : List PackId}
    (h : search catalog ids ids = .ok packs) :
    (∀ p, p ∈ packs ↔ catalog.ReachesFrom (· ∈ ids) p) ∧
      ∀ p ∈ packs, catalog.contains p = true := by
  have hscanned := scanned_of_search_eq_ok (List.nil_append ids).symm .init h
  constructor
  · intro p
    constructor
    · exact reachesFrom_of_search_eq_ok .init h p
    · apply Catalog.ReachesFrom.preserves
      · exact fun s hs => hscanned.1 hs
      · intro p hp q hq
        rcases hscanned.2 p hp with ⟨m, hm, hreq⟩
        rw [Catalog.requires_eq hm] at hq
        exact (hreq q hq).2
  · intro p hp
    rcases hscanned.2 p hp with ⟨m, hm, _⟩
    exact KeyMap.contains_iff.2 ⟨m, hm⟩

end Closure

theorem Catalog.exists_closure {catalog : Catalog} {ids : List PackId}
    (h : ∀ p, catalog.ReachesFrom (· ∈ ids) p → catalog.contains p = true) :
    ∃ packs, catalog.closure ids = .ok packs := by
  unfold closure
  cases hs : Closure.search catalog ids ids with
  | error e =>
    rcases Closure.exists_absent_of_search_eq_error .init hs with ⟨p, hp, habsent⟩
    rw [h p hp] at habsent
    cases habsent
  | ok visited => exact ⟨_, rfl⟩

/--
The closure exists iff the catalog has every pack that the selection leads to, and it consists of
exactly those.
-/
theorem Catalog.closure_eq_ok_iff {catalog : Catalog} {ids packs : List PackId} :
    catalog.closure ids = .ok packs ↔
      (∀ p, catalog.ReachesFrom (· ∈ ids) p → catalog.contains p = true) ∧ Ascending packs ∧
        ∀ p, p ∈ packs ↔ catalog.ReachesFrom (· ∈ ids) p := by
  constructor
  · intro h
    unfold closure at h
    rw [Except.map_eq_ok_iff] at h
    rcases h with ⟨visited, hs, rfl⟩
    rcases Closure.mem_search_iff hs with ⟨hmem, hknown⟩
    refine ⟨?_, Ascending.ofList_ascending visited, ?_⟩
    · intro p hp
      exact hknown p ((hmem p).2 hp)
    · intro p
      rw [Ascending.mem_ofList, hmem]
  · rintro ⟨hcontains, hasc, hmem⟩
    rcases exists_closure hcontains with ⟨found, hfound⟩
    have h := hfound
    unfold closure at h
    rw [Except.map_eq_ok_iff] at h
    rcases h with ⟨visited, hs, rfl⟩
    have : Ascending.ofList visited = packs := by
      apply Ascending.eq_of_mem_iff (Ascending.ofList_ascending visited) hasc
      intro p
      rw [Ascending.mem_ofList, (Closure.mem_search_iff hs).1, hmem]
    rw [hfound, this]

end GovernanceLock
