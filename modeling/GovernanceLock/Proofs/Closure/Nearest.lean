import GovernanceLock.Proofs.Closure.Rounds
import GovernanceLock.Proofs.Order.First

/-!
This module contains the statement that the closure of a selection is the least set of packs that is
closed under requirements, and that it is refused for a pack that is as near to the selection as any
pack with an absent requirement.

The queue of the search holds packs of two distances at most, the nearer ones in front. What is
nearer than its first pack has been scanned, and nothing of that was absent.
-/

namespace GovernanceLock

namespace Catalog

variable {catalog : Catalog} {start P : PackId → Prop} {p q : PackId} {n : Nat}

def ReachesFromIn (catalog : Catalog) (start : PackId → Prop) (n : Nat) (p : PackId) : Prop :=
  ∃ s, start s ∧ catalog.ReachesIn n s p

theorem reachesFrom_iff_exists :
    catalog.ReachesFrom start p ↔ ∃ n, catalog.ReachesFromIn start n p := by
  constructor
  · rintro ⟨s, hs, n, hn⟩
    exact ⟨n, s, hs, hn⟩
  · rintro ⟨n, s, hs, hn⟩
    exact ⟨s, hs, n, hn⟩

theorem reachesFromIn_zero_iff : catalog.ReachesFromIn start 0 p ↔ start p := by
  constructor
  · rintro ⟨s, hs, hp⟩
    cases hp with
    | refl => exact hs
  · intro hp
    exact ⟨p, hp, .refl p⟩

theorem reachesFromIn_succ_iff :
    catalog.ReachesFromIn start (n + 1) p ↔
      ∃ q, catalog.ReachesFromIn start n q ∧ p ∈ catalog.requires q := by
  constructor
  · rintro ⟨s, hs, hp⟩
    cases hp with
    | step hq hp => exact ⟨_, ⟨s, hs, hq⟩, hp⟩
  · rintro ⟨q, ⟨s, hs, hq⟩, hp⟩
    exact ⟨s, hs, .step hq hp⟩

/--
The catalog does not have everything that the pack requires.
-/
def Incomplete (catalog : Catalog) (p : PackId) : Prop :=
  ∃ q ∈ catalog.requires p, catalog.contains q = false

instance (catalog : Catalog) (p : PackId) : Decidable (catalog.Incomplete p) :=
  inferInstanceAs (Decidable (∃ q ∈ catalog.requires p, catalog.contains q = false))

/--
The pack has the property, and no pack with it is fewer requirements away from `start`.
-/
structure Nearest (catalog : Catalog) (start P : PackId → Prop) (p : PackId) : Prop where
  holds : P p
  near : ∃ n, catalog.ReachesFromIn start n p ∧
    ∀ q k, P q → catalog.ReachesFromIn start k q → n ≤ k

end Catalog

namespace Closure

variable {catalog : Catalog} {start : PackId → Prop} {done front back : List PackId} {n : Nat}

/--
The search is done with all packs that are less than `n` requirements away, and the rest of those
that are `n` requirements away stand in front of the queue.
-/
structure Levelled (catalog : Catalog) (start : PackId → Prop) (n : Nat)
    (done front back : List PackId) : Prop where
  here : ∀ p ∈ front, catalog.ReachesFromIn start n p
  next : ∀ p ∈ back, catalog.ReachesFromIn start (n + 1) p
  nearer : ∀ k < n, ∀ p, catalog.ReachesFromIn start k p → p ∈ done
  level : ∀ p, catalog.ReachesFromIn start n p → p ∈ done ++ front

namespace Levelled

theorem init (ids : List PackId) : Levelled catalog (· ∈ ids) 0 [] ids [] where
  here := by
    intro p hp
    exact Catalog.reachesFromIn_zero_iff.2 hp
  next := by
    intro p hp
    cases hp
  nearer := by
    intro k hk
    cases hk
  level := by
    intro p hp
    exact Catalog.reachesFromIn_zero_iff.1 hp

theorem advance (h : Levelled catalog start n done [] back)
    (hscanned : Scanned catalog done (done ++ back)) :
    Levelled catalog start (n + 1) done back [] where
  here := h.next
  next := by
    intro p hp
    cases hp
  nearer := by
    intro k hk p hp
    rcases Nat.lt_or_eq_of_le (Nat.le_of_lt_succ hk) with hlt | rfl
    · exact h.nearer k hlt p hp
    · simpa using h.level p hp
  level := by
    intro p hp
    rcases Catalog.reachesFromIn_succ_iff.1 hp with ⟨q, hq, hpq⟩
    have hdone : q ∈ done := by simpa using h.level q hq
    rcases hscanned q hdone with ⟨m, hm, hreq⟩
    rw [Catalog.requires_eq hm] at hpq
    exact (hreq p hpq).2

theorem exists_head {queue : List PackId} {id : PackId}
    (h : Levelled catalog start n done front back) (hqueue : id :: queue = front ++ back)
    (hscanned : Scanned catalog done (done ++ id :: queue)) :
    ∃ k front' back', queue = front' ++ back' ∧
      Levelled catalog start k done (id :: front') back' := by
  cases front with
  | nil =>
    rw [List.nil_append] at hqueue
    rw [hqueue] at hscanned
    refine ⟨n + 1, queue, [], (List.append_nil queue).symm, ?_⟩
    rw [hqueue]
    exact h.advance hscanned
  | cons p front =>
    rw [List.cons_append, List.cons.injEq] at hqueue
    rcases hqueue with ⟨rfl, hqueue⟩
    exact ⟨n, front, back, hqueue, h⟩

theorem scan {id : PackId} {m : Manifest} (h : Levelled catalog start n done (id :: front) back)
    (hm : catalog.get? id = some m) (visited : List PackId) :
    Levelled catalog start n (done ++ [id]) front (back ++ fresh m visited) where
  here := by
    intro p hp
    exact h.here p (List.mem_cons_of_mem _ hp)
  next := by
    intro p hp
    rcases List.mem_append.1 hp with hp | hp
    · exact h.next p hp
    · rw [Catalog.reachesFromIn_succ_iff]
      refine ⟨id, h.here id List.mem_cons_self, ?_⟩
      rw [Catalog.requires_eq hm]
      exact (List.mem_filter.1 hp).1
  nearer := by
    intro k hk p hp
    exact List.mem_append_left _ (h.nearer k hk p hp)
  level := by
    intro p hp
    rw [List.append_assoc]
    exact h.level p hp

end Levelled

theorem Scanned.not_incomplete {visited : List PackId} (h : Scanned catalog done visited)
    {p : PackId} (hp : p ∈ done) : ¬ catalog.Incomplete p := by
  rintro ⟨q, hq, habsent⟩
  rcases h p hp with ⟨m, hm, hreq⟩
  rw [Catalog.requires_eq hm] at hq
  rw [(hreq q hq).1] at habsent
  cases habsent

/--
A search that fails for an absent requirement fails for a pack than which no pack with one is
nearer.
-/
theorem near_of_search_eq_error {visited queue : List PackId} {p q : PackId}
    (hvisited : visited = done ++ queue) (hqueue : queue = front ++ back)
    (hlevelled : Levelled catalog start n done front back) (hscanned : Scanned catalog done visited)
    (h : search catalog visited queue = .error (.missing p q)) :
    ∃ n, catalog.ReachesFromIn start n p ∧
      ∀ r k, catalog.Incomplete r → catalog.ReachesFromIn start k r → n ≤ k := by
  induction visited, queue using search.induct catalog generalizing done front back n with
  | case1 visited =>
    rw [search_nil] at h
    cases h
  | case2 visited id queue hid =>
    rw [search_unknown hid] at h
    cases h
  | case3 visited id queue m hm dependency habsent =>
    rw [search_missing hm habsent] at h
    cases h
    rw [hvisited] at hscanned
    rcases hlevelled.exists_head hqueue hscanned with ⟨k, front', back', _, hlevelled⟩
    refine ⟨k, hlevelled.here p List.mem_cons_self, ?_⟩
    intro r j hr hreached
    by_contra hlt
    exact hscanned.not_incomplete (hlevelled.nearer j (Nat.not_le.1 hlt) r hreached) hr
  | case4 visited id queue m hm habsent ih =>
    rw [search_scan hm habsent] at h
    have hstep := hscanned.step hm habsent
    rw [hvisited] at hscanned
    rcases hlevelled.exists_head hqueue hscanned with ⟨k, front', back', rfl, hlevelled⟩
    apply ih _ _ (hlevelled.scan hm visited) hstep h
    · rw [hvisited]
      simp
    · rw [List.append_assoc]

end Closure

namespace Catalog

variable {catalog : Catalog} {ids packs : List PackId}

theorem exists_missing_of_incomplete (hknown : ∀ id ∈ ids, catalog.contains id = true)
    (h : ∃ p, catalog.ReachesFrom (· ∈ ids) p ∧ catalog.Incomplete p) :
    ∃ p m q, catalog.closure ids = .error (.missing p q) ∧ catalog.get? p = some m ∧
      Closure.absent? catalog m = some q ∧
      catalog.Nearest (· ∈ ids) catalog.Incomplete p := by
  rcases h with ⟨p, hp, d, hd, habsent⟩
  have hclosure : ∀ packs, catalog.closure ids ≠ .ok packs := by
    intro packs hpacks
    rw [closure_eq_ok_iff] at hpacks
    rw [hpacks.1 d (hp.tail hd)] at habsent
    cases habsent
  unfold closure at hclosure ⊢
  rcases Except.eq_ok_or_exists_error (Closure.search catalog ids ids) with ⟨found, hs⟩ | ⟨e, hs⟩
  · rw [hs] at hclosure
    exact absurd rfl (hclosure _)
  · rcases Closure.exists_missing_of_search_eq_error .init hknown hs with ⟨r, m, q, _, hm, hq, rfl⟩
    have hincomplete : catalog.Incomplete r := by
      refine ⟨q, ?_, by simpa using List.find?_some hq⟩
      rw [requires_eq hm]
      exact List.mem_of_find?_eq_some hq
    refine ⟨r, m, q, by rw [hs]; rfl, hm, hq, hincomplete, ?_⟩
    exact Closure.near_of_search_eq_error (List.nil_append ids).symm (List.append_nil ids).symm
      (.init ids) .init hs

/--
The search for a closure ends, and finds exactly the packs that the selection leads to if the
catalog has all of them. If only requirements are absent, the least absent one is reported of a pack
that is as near to the selection as any with one.
-/
theorem closure_least_or_nearest (hordered : catalog.Ordered) (ids : List PackId) :
    (∃ n ≤ ids.length + (Closure.unvisited catalog ids).length, ∃ result,
      Closure.EndsAfter catalog n ids ids result ∧
        catalog.closure ids = result.map Ascending.ofList) ∧
    ((∃ packs, catalog.closure ids = .ok packs) ↔
      ∀ p, catalog.ReachesFrom (· ∈ ids) p → catalog.contains p = true) ∧
    (∀ packs, catalog.closure ids = .ok packs →
      Ascending packs ∧ ∀ p, p ∈ packs ↔ catalog.ReachesFrom (· ∈ ids) p) ∧
    ((∀ id ∈ ids, catalog.contains id = true) →
      (∃ p, catalog.ReachesFrom (· ∈ ids) p ∧ catalog.Incomplete p) →
      ∃ p dependency, catalog.closure ids = .error (.missing p dependency) ∧
        catalog.Nearest (· ∈ ids) catalog.Incomplete p ∧
        Least (fun q => q ∈ catalog.requires p ∧ catalog.contains q = false) dependency) := by
  refine ⟨?_, ⟨?_, exists_closure⟩, ?_, ?_⟩
  · rcases Closure.exists_endsAfter hordered ids ids with ⟨n, hn, hends⟩
    exact ⟨n, hn, _, hends, rfl⟩
  · rintro ⟨packs, hpacks⟩
    exact (closure_eq_ok_iff.1 hpacks).1
  · intro packs hpacks
    exact (closure_eq_ok_iff.1 hpacks).2
  · intro hknown h
    rcases exists_missing_of_incomplete hknown h with ⟨p, m, q, hclosure, hm, hq, hnearest⟩
    refine ⟨p, q, hclosure, hnearest, ?_⟩
    have hleast := (hordered p m hm).requires.find?_eq_some_iff.1 hq
    apply hleast.congr
    intro d
    rw [requires_eq hm, Bool.not_eq_eq_eq_not, Bool.not_true]

section

/-!
Four packs with a cycle of requirements, in which one pack with an absent requirement is found
behind another that is farther away from the selection.
-/

def brokenPacks : Catalog :=
  .ofList
    [("app", { (default : Manifest) with requires := ["base", "lib"] }),
     ("base", { (default : Manifest) with requires := ["app", "core"] }),
     ("core", { (default : Manifest) with requires := ["gone"] }),
     ("lib", { (default : Manifest) with requires := ["base", "lost", "missing"] })]

theorem brokenPacks_ordered : brokenPacks.Ordered := by
  have hentries : ∀ e ∈ brokenPacks.entries, Ascending e.2.requires ∧ e.2.conflictsWith = [] ∧
      e.2.ownsSurfaces = [] ∧ e.2.touchesSurfaces = [] ∧ e.2.artifacts = [] := by
    decide
  intro id m hm
  rcases hentries (id, m) (KeyMap.mem_entries_iff.2 hm) with ⟨hrequires, h₁, h₂, h₃, h₄⟩
  constructor
  · exact hrequires
  · rw [h₁]
    exact .nil
  · rw [h₂]
    exact .nil
  · rw [h₃]
    exact .nil
  · rw [h₄]
    exact .nil

theorem brokenPacks_lib : brokenPacks.ReachesFromIn (· ∈ ["app", "app"]) 1 "lib" := by
  rw [reachesFromIn_succ_iff]
  exact ⟨"app", reachesFromIn_zero_iff.2 (by decide), by decide⟩

theorem eq_lib_of_nearest {p : PackId}
    (h : brokenPacks.Nearest (· ∈ ["app", "app"]) brokenPacks.Incomplete p) : p = "lib" := by
  rcases h.near with ⟨n, hn, hleast⟩
  have hle : n ≤ 1 := hleast "lib" 1 (by decide) brokenPacks_lib
  have hp := h.holds
  rcases Nat.le_one_iff_eq_zero_or_eq_one.1 hle with rfl | rfl
  · rw [reachesFromIn_zero_iff] at hn
    have : ∀ p ∈ ["app", "app"], ¬ brokenPacks.Incomplete p := by decide
    exact absurd hp (this p hn)
  · rcases reachesFromIn_succ_iff.1 hn with ⟨q, hq, hpq⟩
    rw [reachesFromIn_zero_iff] at hq
    have : ∀ q ∈ ["app", "app"], ∀ p ∈ brokenPacks.requires q, brokenPacks.Incomplete p →
        p = "lib" := by
      decide
    exact this q hq p hpq hp

theorem brokenPacks_closure :
    brokenPacks.Ordered ∧ (∀ id ∈ ["app", "app"], brokenPacks.contains id = true) ∧
      (∃ p, brokenPacks.ReachesFrom (· ∈ ["app", "app"]) p ∧ brokenPacks.Incomplete p) ∧
      brokenPacks.closure ["app", "app"] = .error (.missing "lib" "lost") := by
  have hknown : ∀ id ∈ ["app", "app"], brokenPacks.contains id = true := by decide
  have hbroken : ∃ p, brokenPacks.ReachesFrom (· ∈ ["app", "app"]) p ∧ brokenPacks.Incomplete p :=
    ⟨"lib", reachesFrom_iff_exists.2 ⟨1, brokenPacks_lib⟩, by decide⟩
  refine ⟨brokenPacks_ordered, hknown, hbroken, ?_⟩
  rcases (closure_least_or_nearest brokenPacks_ordered ["app", "app"]).2.2.2 hknown hbroken with
    ⟨p, dependency, hclosure, hnearest, hdependency⟩
  have hp := eq_lib_of_nearest hnearest
  subst hp
  have hlost : dependency ≤ "lost" := hdependency.le "lost" (by decide)
  have hcases : ∀ q ∈ brokenPacks.requires "lib", brokenPacks.contains q = false → q ≤ "lost" →
      q = "lost" := by
    decide
  rw [hclosure, hcases dependency hdependency.holds.1 hdependency.holds.2 hlost]

end

end Catalog

end GovernanceLock
