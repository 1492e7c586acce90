import GovernanceLock.Manifest.Basic
import GovernanceLock.Order.Ascending

/-!
This module contains the closure of a selection of packs under their requirements, found breadth
first, so that of several packs with an absent requirement one nearest to the selection is blamed.
`Reaches` says which packs the closure is about.
-/

namespace GovernanceLock

/--
Normalized manifests under their pack ids.
-/
abbrev Catalog := KeyMap Manifest

def Catalog.requires (catalog : Catalog) (id : PackId) : List PackId :=
  match catalog.get? id with
  | some m => m.requires
  | none => []

/--
There is a chain of `n` requirements from `p` to `q`.
-/
inductive Catalog.ReachesIn (catalog : Catalog) : Nat → PackId → PackId → Prop where
  | refl (p : PackId) : ReachesIn catalog 0 p p
  | step {n : Nat} {p q r : PackId} :
      ReachesIn catalog n p q → r ∈ catalog.requires q → ReachesIn catalog (n + 1) p r

/--
There is a chain of requirements, possibly of none, from `p` to `q`.
-/
def Catalog.Reaches (catalog : Catalog) (p q : PackId) : Prop :=
  ∃ n, catalog.ReachesIn n p q

namespace Closure

inductive Error where
  | unknown (id : PackId)
  | missing (id dependency : PackId)
  deriving DecidableEq

def unvisited (catalog : Catalog) (visited : List PackId) : List PackId :=
  catalog.keys.filter (· ∉ visited)

def fresh (m : Manifest) (visited : List PackId) : List PackId :=
  m.requires.filter (· ∉ visited)

def absent? (catalog : Catalog) (m : Manifest) : Option PackId :=
  m.requires.find? (!catalog.contains ·)

theorem unvisited_append (catalog : Catalog) (visited more : List PackId) :
    unvisited catalog (visited ++ more) = (unvisited catalog visited).filter (· ∉ more) := by
  simp only [unvisited, List.filter_filter]
  apply List.filter_congr
  intro x _
  simp [Bool.and_comm]

theorem unvisited_append_length_lt {catalog : Catalog} {visited more : List PackId} {id : PackId}
    (hid : id ∈ more) (hcat : id ∈ catalog.keys) (hnew : id ∉ visited) :
    (unvisited catalog (visited ++ more)).length < (unvisited catalog visited).length := by
  rw [unvisited_append]
  exact List.length_filter_lt_length_iff_exists.2
    ⟨id, List.mem_filter.2 ⟨hcat, by simpa using hnew⟩, by simpa using hid⟩

theorem unvisited_fresh_length_lt {catalog : Catalog} {visited : List PackId} {m : Manifest}
    (hm : absent? catalog m = none) (hne : fresh m visited ≠ []) :
    (unvisited catalog (visited ++ fresh m visited)).length
      < (unvisited catalog visited).length := by
  obtain ⟨x, hx⟩ := List.exists_mem_of_ne_nil _ hne
  have hx' := List.mem_filter.1 hx
  refine unvisited_append_length_lt hx ?_ (by simpa using hx'.2)
  simpa [KeyMap.contains, KeyMap.mem_keys_iff, Option.isSome_iff_ne_none]
    using List.find?_eq_none.1 hm x hx'.1

/--
Visit the packs of `queue` and what they require, in order of discovery. Every pack of the queue has
already been put into `visited`.
-/
def search (catalog : Catalog) (visited : List PackId) :
    (queue : List PackId) → Except Error (List PackId)
  | [] => .ok visited
  | id :: queue =>
    match catalog.get? id with
    | none => .error (.unknown id)
    | some m =>
      match _h : absent? catalog m with
      | some dependency => .error (.missing id dependency)
      | none => search catalog (visited ++ fresh m visited) (queue ++ fresh m visited)
termination_by queue => ((unvisited catalog visited).length, queue.length)
decreasing_by
  by_cases hne : fresh m visited = []
  · rw [hne]
    simpa using Prod.Lex.right _ (Nat.lt_succ_self _)
  · exact Prod.Lex.left _ _ (unvisited_fresh_length_lt _h hne)

end Closure

/--
The packs that the selection leads to along requirements, ascending.
-/
def Catalog.closure (catalog : Catalog) (selection : List PackId) :
    Except Closure.Error (List PackId) :=
  (Closure.search catalog selection selection).map Ascending.ofList

end GovernanceLock
