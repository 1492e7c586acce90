import GovernanceLock.Proofs.FileTree.Walk

/-!
This module contains what is there in a file tree, whether or not it can be looked up. A walk finds
what is there, unless a closed directory or a limit is in its way.
-/

namespace GovernanceLock.FileTree

open Except (bind_eq_ok_iff)
open GovernanceLock.Path (IsName enter)

/--
The pieces lead from the directory `here` to a location where something stands. Directories are
entered also where they are closed, and links followed however many there are.
-/
inductive Leads (t : FileTree) : Location → List String → Location → Prop where
  | done {here : Location} : t.get? here ≠ none → Leads t here [] here
  | pass {here location : Location} {piece : String} {rest : List String} : ¬ IsName piece →
      Leads t (enter here piece) rest location → Leads t here (piece :: rest) location
  | directory {here location : Location} {name : String} {rest : List String} : IsName name →
      t.holdsDirectory (here ++ [name]) = true → Leads t (here ++ [name]) rest location →
      Leads t here (name :: rest) location
  | file {here : Location} {name : String} {n : Node} : IsName name →
      t.get? (here ++ [name]) = some n → n.isFile = true → Leads t here [name] (here ++ [name])
  | link {here location : Location} {name target : String} {rest : List String} : IsName name →
      t.get? (here ++ [name]) = some (.link target) →
      Leads t (if (Path.ofString target).rooted then [] else here)
        ((Path.ofString target).pieces ++ rest) location →
      Leads t here (name :: rest) location

/--
Something is there under the path.
-/
def IsThere (t : FileTree) (here : Location) (path : Path) : Prop :=
  path.isEmpty = false ∧
    ∃ location, t.Leads (if path.rooted then [] else here) path.pieces location

/--
What keeps something that is there from being looked up.
-/
inductive Obstacle : Error → Prop where
  | denied : Obstacle .denied
  | tooManyLinks : Obstacle .tooManyLinks
  | nameTooLong : Obstacle .nameTooLong
  | nulInName : Obstacle .nulInName

/--
Something is there under the path, but cannot be looked up.
-/
def Hidden (t : FileTree) (here : Location) (path : Path) : Prop :=
  t.IsThere here path ∧ ∃ e, Obstacle e ∧ t.locate .target here path = .error e

variable {t : FileTree} {links : Nat} {here location : Location} {pieces : List String}
  {path : Path}

theorem Leads.get?_ne_none (h : t.Leads here pieces location) : t.get? location ≠ none := by
  induction h with
  | done h => exact h
  | pass _ _ ih => exact ih
  | directory _ _ _ ih => exact ih
  | file _ hget _ => simp [hget]
  | link _ _ _ ih => exact ih

theorem leads_of_walk_eq_ok (h : t.walk .target links here pieces = .ok location)
    (hsome : t.get? location ≠ none) : t.Leads here pieces location := by
  induction links using Nat.strongRecOn generalizing here pieces with
  | ind links ihlinks =>
    induction pieces generalizing here with
    | nil =>
      rw [walk] at h
      cases h
      exact .done hsome
    | cons piece rest ih =>
      have hsearch := searchable_of_walk_eq_ok h
      by_cases hname : IsName piece
      · rw [walk, if_neg hsearch, if_neg (by simp [hname.1]), if_neg hname.2,
          if_neg (by simp)] at h
        split at h
        · cases h
        split at h
        · next hget => exact .directory hname (holdsDirectory_of_get? hget) (ih h)
        · next hget => exact .directory hname (holdsDirectory_of_get? hget) (ih h)
        · next hget =>
          rcases Except.ite_eq_ok_iff.1 h with ⟨hends, rfl⟩
          rw [List.isEmpty_iff.1 hends]
          exact .file hname hget rfl
        · next hget =>
          rcases Except.ite_eq_ok_iff.1 h with ⟨hends, rfl⟩
          rw [List.isEmpty_iff.1 hends]
          exact .file hname hget rfl
        · next hget =>
          rw [if_neg (by simp)] at h
          cases links with
          | zero => cases h
          | succ links => exact .link hname hget (ihlinks links (Nat.lt_succ_self links) h)
        · next hget =>
          rcases Except.ite_eq_ok_iff.1 h with ⟨_, rfl⟩
          exact absurd hget hsome
      · rw [walk_of_not_isName hname hsearch] at h
        exact .pass hname (ih h)

theorem walk_of_not_isName_or_obstacle {piece : String} {rest : List String}
    (hname : ¬ IsName piece) :
    t.walk .target links here (piece :: rest) = t.walk .target links (enter here piece) rest ∨
      ∃ e, Obstacle e ∧ t.walk .target links here (piece :: rest) = .error e := by
  by_cases hsearch : t.Searchable here piece
  · exact .inl (walk_of_not_isName hname hsearch)
  · right
    refine ⟨_, .denied, ?_⟩
    rw [walk, if_pos (Decidable.not_not.1 hsearch)]

/--
How a walk goes on at what stands under a name.
-/
def walkOn (t : FileTree) (links : Nat) (here : Location) (name : String) (rest : List String) :
    Node → Except Error Location
  | .directory | .closedDirectory => t.walk .target links (here ++ [name]) rest
  | .file _ | .closedFile => if rest = [] then .ok (here ++ [name]) else .error .notADirectory
  | .link target =>
    match links with
    | 0 => .error .tooManyLinks
    | links + 1 =>
      t.walk .target links (if (Path.ofString target).rooted then [] else here)
        ((Path.ofString target).pieces ++ rest)

theorem walk_of_isName_or_obstacle {name : String} {rest : List String} {n : Node}
    (hname : IsName name) (hget : t.get? (here ++ [name]) = some n) :
    t.walk .target links here (name :: rest) = t.walkOn links here name rest n ∨
      ∃ e, Obstacle e ∧ t.walk .target links here (name :: rest) = .error e := by
  rw [walk, if_neg (c := Path.isIdle name) (by simp [hname.1]), if_neg (c := name = "..") hname.2,
    if_neg (c := Purpose.target = .file ∧ _) (by simp)]
  split
  · exact .inr ⟨_, .denied, rfl⟩
  split
  · exact .inr ⟨_, .nameTooLong, rfl⟩
  left
  rw [hget]
  cases n with
  | link target => cases links <;> rfl
  | directory | closedDirectory | file | closedFile => simp [walkOn, Purpose.endsBefore]

theorem walk_of_leads (h : t.Leads here pieces location) :
    t.walk .target links here pieces = .ok location ∨
      ∃ e, Obstacle e ∧ t.walk .target links here pieces = .error e := by
  induction h generalizing links with
  | done =>
    left
    rw [walk]
  | pass hname _ ih =>
    rcases walk_of_not_isName_or_obstacle hname with hstep | hstep
    · rw [hstep]
      exact ih
    · exact .inr hstep
  | directory hname hget _ ih =>
    rcases holdsDirectory_iff.1 hget with hget | hget
    all_goals
      rcases walk_of_isName_or_obstacle hname hget with hstep | hstep
      · rw [hstep]
        exact ih
      · exact .inr hstep
  | @file _ _ n hname hget hn =>
    rcases walk_of_isName_or_obstacle hname hget with hstep | hstep
    · rw [hstep]
      left
      cases n with
      | file | closedFile => rfl
      | directory | closedDirectory | link => cases hn
    · exact .inr hstep
  | link hname hget _ ih =>
    rcases walk_of_isName_or_obstacle hname hget with hstep | hstep
    · rw [hstep]
      cases links with
      | zero => exact .inr ⟨_, .tooManyLinks, rfl⟩
      | succ links => exact ih
    · exact .inr hstep

theorem obstacle_of_accept {e : Error} (hpath : path.isEmpty = false) (h : accept path = .error e) :
    Obstacle e := by
  unfold accept at h
  split at h
  · cases h
    exact .nulInName
  rw [if_neg (by simp [hpath])] at h
  split at h
  · cases h
    exact .nameTooLong
  · cases h

theorem isEmpty_of_accept (h : accept path = .ok ()) : path.isEmpty = false := by
  unfold accept at h
  split at h
  · cases h
  split at h
  · cases h
  · next hpath => simpa using hpath

theorem IsThere.at?_ne_none_or_hidden (h : t.IsThere here path) :
    t.at? here path ≠ none ∨ t.Hidden here path := by
  rcases h with ⟨hpath, location, hleads⟩
  cases haccept : accept path with
  | error e =>
    refine .inr ⟨⟨hpath, location, hleads⟩, e, obstacle_of_accept hpath haccept, ?_⟩
    rw [locate, haccept]
    rfl
  | ok =>
    rcases walk_of_leads hleads with hwalk | ⟨e, he, hwalk⟩
    · left
      unfold at?
      rw [locate_eq_ok_iff.2 ⟨haccept, hwalk⟩]
      exact hleads.get?_ne_none
    · refine .inr ⟨⟨hpath, location, hleads⟩, e, he, ?_⟩
      rw [locate, haccept]
      exact hwalk

/--
Something is found under a path if it is there and not hidden.
-/
theorem at?_ne_none_iff :
    t.at? here path ≠ none ↔ t.IsThere here path ∧ ¬ t.Hidden here path := by
  constructor
  · intro h
    rcases Option.ne_none_iff_exists'.1 h with ⟨n, hat⟩
    rcases at?_eq_some_iff.1 hat with ⟨location, hlocate, hget⟩
    rcases locate_eq_ok_iff.1 hlocate with ⟨haccept, hwalk⟩
    have hleads := leads_of_walk_eq_ok hwalk (by simp [hget])
    refine ⟨⟨isEmpty_of_accept haccept, location, hleads⟩, ?_⟩
    rintro ⟨_, e, _, herror⟩
    rw [hlocate] at herror
    cases herror
  · rintro ⟨hthere, hvisible⟩
    exact hthere.at?_ne_none_or_hidden.resolve_right hvisible

theorem at?_eq_none_iff :
    t.at? here path = none ↔ ¬ t.IsThere here path ∨ t.Hidden here path := by
  rw [← Decidable.not_not (p := t.at? here path = none), ← ne_eq, at?_ne_none_iff,
    Classical.not_and_iff_not_or_not, Classical.not_not]

end GovernanceLock.FileTree
