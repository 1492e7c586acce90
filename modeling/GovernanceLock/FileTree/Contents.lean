import GovernanceLock.FileTree.Lookup
import GovernanceLock.Order.KeyMap

/-!
This module contains the files of a directory and of the directories inside it, under their paths
from the directory. Links are passed over, and all else has to be open.
-/

namespace GovernanceLock

namespace FileTree

def inside (t : FileTree) (directory : Location) : List (Location × Node) :=
  t.nodes.filter fun e => directory.isPrefixOf e.1 && e.1.length > directory.length

theorem inside_length_lt {t : FileTree} {directory : Location} {name : String} {node : Node}
    (h : t.get? (directory ++ [name]) = some node) :
    (t.inside (directory ++ [name])).length < (t.inside directory).length := by
  have hm : (directory ++ [name], node) ∈ t.nodes := by
    rw [get?, if_neg (by simp)] at h
    exact mem_of_find? h
  have hsub : ∀ e : Location × Node,
      ((directory ++ [name]).isPrefixOf e.1 && e.1.length > (directory ++ [name]).length) = true →
      (directory.isPrefixOf e.1 && e.1.length > directory.length) = true := by
    intro e he
    simp only [Bool.and_eq_true, List.isPrefixOf_iff_prefix, decide_eq_true_eq,
      List.length_append, List.length_singleton] at he ⊢
    exact ⟨(List.prefix_append directory [name]).trans he.1, by omega⟩
  have hin : inside t (directory ++ [name]) = (inside t directory).filter fun e =>
      (directory ++ [name]).isPrefixOf e.1 && e.1.length > (directory ++ [name]).length := by
    rw [inside, inside, List.filter_filter]
    refine List.filter_congr fun e _ => ?_
    have := hsub e
    revert this
    cases (directory ++ [name]).isPrefixOf e.1 && decide (e.1.length > (directory ++ [name]).length)
      <;> simp
  rw [hin]
  refine List.length_filter_lt_length_iff_exists.2 ⟨(directory ++ [name], node), ?_, by simp⟩
  refine List.mem_filter.2 ⟨hm, ?_⟩
  simp

mutual

/--
The files inside a directory, with their paths from it and their texts. `path` is what the directory
is opened by, and `above` is its path from the one where this began. Whatever is opened is opened by
its whole path.
-/
def collect (t : FileTree) (directory : Location) (path : Path) (above : String) :
    Except Error (List (String × String)) := do
  accept path
  if t.get? directory = some .closedDirectory then throw .denied
  let found ← (t.names directory).mapM (collectAt t directory path above)
  return found.flatten
  termination_by ((t.inside directory).length, 1)
  decreasing_by exact .right _ Nat.zero_lt_one

def collectAt (t : FileTree) (directory : Location) (path : Path) (above name : String) :
    Except Error (List (String × String)) :=
  let place := path.join ⟨false, [name]⟩
  let key := if above.isEmpty then name else above ++ "/" ++ name
  match _h : t.get? (directory ++ [name]) with
  | some .directory | some .closedDirectory => collect t (directory ++ [name]) place key
  | some (.file bytes) => do
    accept place
    return [(key, Text.decodeLossy bytes)]
  | some .closedFile => do
    accept place
    throw .denied
  | some (.link _) | none => return []
  termination_by ((t.inside directory).length, 0)
  decreasing_by all_goals exact .left _ _ (inside_length_lt _h)

end

def texts (t : FileTree) (directory : Location) (path : Path) : Except Error (KeyMap String) :=
  (t.collect directory path "").map KeyMap.ofList

end FileTree

end GovernanceLock
