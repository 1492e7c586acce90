import GovernanceLock.Proofs.Json.Tree

/-!
This module contains the proof that the fields of a structure are found in the tree of the object
that tells them.
-/

namespace GovernanceLock.Json.Tree

theorem only?_eq_lookup {members : List (String × Tree)}
    (h : members.Pairwise fun a b => a.1 < b.1) (key : String) :
    only? members key = KeyMap.lookup key members := by
  induction members with
  | nil => rfl
  | cons e rest ih =>
    rcases e with ⟨k, t⟩
    have hk := List.pairwise_cons.1 h
    rw [KeyMap.lookup]
    by_cases hkey : k = key
    · subst hkey
      have hrest : rest.filter (·.1 = k) = [] := by
        rw [List.filter_eq_nil_iff]
        intro e he heq
        simp only [decide_eq_true_eq] at heq
        have hlt := hk.1 e he
        rw [heq] at hlt
        exact String.lt_irrefl k hlt
      rw [only?, List.filter_cons_of_pos (by simp), hrest, if_pos rfl]
    · rw [if_neg (Ne.symm hkey), ← ih hk.2, only?, List.filter_cons_of_neg (by simpa using hkey),
        only?]

theorem fields?_tree_object (ascii : Bool) {members : List (String × Json)}
    (h : (Json.object members).Ordered) (names : List String) :
    (tree ascii (.object members)).fields? names
      = names.mapM fun name => (KeyMap.lookup name members).map (tree ascii) := by
  have hordered : (members.map fun e => (e.1, tree ascii e.2)).Pairwise fun a b => a.1 < b.1 :=
    List.pairwise_map.2 h.1
  rw [tree, fields?, keyed?_treeMembers, Option.bind_some]
  congr
  funext name
  rw [only?_eq_lookup hordered, KeyMap.lookup_map]

theorem text?_tree_string (ascii : Bool) (s : String) : (tree ascii (.string s)).text? = some s :=
  textOfUnits?_textUnits ascii s

theorem mapM_map_eq_some {f : α → β} {g : β → Option α} {l : List α}
    (h : ∀ a ∈ l, g (f a) = some a) : (l.map f).mapM g = some l := by
  induction l with
  | nil => rfl
  | cons a l ih =>
    rw [List.forall_mem_cons] at h
    rw [List.map_cons, List.mapM_cons, h.1, ih h.2]
    rfl

theorem texts?_tree_strings (ascii : Bool) (l : List String) :
    (tree ascii (.strings l)).texts? = some l := by
  rw [strings, tree, treeItems_eq_map, List.map_map, texts?]
  exact mapM_map_eq_some fun s _ => text?_tree_string ascii s

end GovernanceLock.Json.Tree
