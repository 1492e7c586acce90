import GovernanceLock.Proofs.Closure
import GovernanceLock.Proofs.Manifest.Normalize
import Mathlib.Data.List.Nodup
import Mathlib.Data.List.Perm.Subperm

/-!
This module contains the proof that the search for a closure ends, cycles of requirements or not.
Every round takes a pack from the queue, and apart from the selection no pack is put there twice,
nor one that the catalog does not have.
-/

namespace GovernanceLock

/--
Every manifest of the catalog has ascending lists, as normalization makes them.
-/
def Catalog.Ordered (catalog : Catalog) : Prop :=
  ∀ id m, catalog.get? id = some m → m.Ordered

namespace Closure

/--
The search ends with `result` after `n` rounds, each of which takes the next pack from the queue.
-/
inductive EndsAfter (catalog : Catalog) :
    (n : Nat) → (visited queue : List PackId) → (result : Except Error (List PackId)) → Prop where
  | done (visited : List PackId) : EndsAfter catalog 0 visited [] (.ok visited)
  | unknown {visited queue : List PackId} {id : PackId} :
      catalog.get? id = none → EndsAfter catalog 1 visited (id :: queue) (.error (.unknown id))
  | missing {visited queue : List PackId} {id dependency : PackId} {m : Manifest} :
      catalog.get? id = some m → absent? catalog m = some dependency →
        EndsAfter catalog 1 visited (id :: queue) (.error (.missing id dependency))
  | scan {n : Nat} {visited queue : List PackId} {id : PackId} {m : Manifest}
      {result : Except Error (List PackId)} :
      catalog.get? id = some m → absent? catalog m = none →
        EndsAfter catalog n (visited ++ fresh m visited) (queue ++ fresh m visited) result →
        EndsAfter catalog (n + 1) visited (id :: queue) result

variable {catalog : Catalog}

theorem fresh_subset_unvisited {visited : List PackId} {m : Manifest}
    (habsent : absent? catalog m = none) : fresh m visited ⊆ unvisited catalog visited := by
  intro p hp
  unfold fresh at hp
  rw [List.mem_filter] at hp
  refine List.mem_filter.2 ⟨?_, hp.2⟩
  rw [KeyMap.mem_keys_iff, ← KeyMap.contains]
  exact contains_of_absent?_eq_none habsent hp.1

theorem length_fresh_add_unvisited_le (visited : List PackId) {m : Manifest} (hm : m.Ordered)
    (habsent : absent? catalog m = none) :
    (fresh m visited).length + (unvisited catalog (visited ++ fresh m visited)).length
      ≤ (unvisited catalog visited).length := by
  rw [unvisited_append, ← List.length_append]
  apply List.Subperm.length_le
  apply List.Nodup.subperm
  · have hkeys : catalog.keys.Nodup := Ascending.nodup catalog.keys_ascending
    apply List.Nodup.append
    · exact hm.requires.nodup.filter _
    · exact (hkeys.filter _).filter _
    · intro p hp hmem
      rw [List.mem_filter] at hmem
      simpa [hp] using hmem.2
  · apply List.append_subset.2
    constructor
    · exact fresh_subset_unvisited habsent
    · exact List.filter_sublist.subset

/--
The search takes no more rounds than there are packs in its queue and packs left to be visited.
-/
theorem exists_endsAfter (hordered : catalog.Ordered) (visited queue : List PackId) :
    ∃ n ≤ queue.length + (unvisited catalog visited).length,
      EndsAfter catalog n visited queue (search catalog visited queue) := by
  induction visited, queue using search.induct catalog with
  | case1 visited =>
    rw [search_nil]
    exact ⟨0, Nat.zero_le _, .done visited⟩
  | case2 visited id queue hid =>
    rw [search_unknown hid]
    refine ⟨1, ?_, .unknown hid⟩
    rw [List.length_cons]
    omega
  | case3 visited id queue m hm dependency habsent =>
    rw [search_missing hm habsent]
    refine ⟨1, ?_, .missing hm habsent⟩
    rw [List.length_cons]
    omega
  | case4 visited id queue m hm habsent ih =>
    rw [search_scan hm habsent]
    rcases ih with ⟨n, hn, hends⟩
    refine ⟨n + 1, ?_, .scan hm habsent hends⟩
    have := length_fresh_add_unvisited_le visited (hordered id m hm) habsent
    rw [List.length_append] at hn
    rw [List.length_cons]
    omega

end Closure

end GovernanceLock
