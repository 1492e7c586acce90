import GovernanceLock.Proofs.FileTree.Components
import GovernanceLock.Proofs.FileTree.Walk

/-!
This module contains what holds of a path to a name whatever links stand in its way: idle pieces
before the name do not change where the path leads, and the place that it leads to has that name.
-/

namespace GovernanceLock.FileTree

open GovernanceLock.Path (isIdle IsName)

variable {t : FileTree} {purpose : Purpose} {links : Nat} {here location : Location} {name : String}

theorem all_concat (h : IsName name) (above : List String) :
    (above ++ [name]).all (· == "") = false := by
  simp [h.ne_empty]

theorem Purpose.endsBefore_concat (h : IsName name) (above : List String) :
    purpose.endsBefore (above ++ [name]) = false := by
  unfold endsBefore
  split
  · exact all_concat h above
  · simp

theorem walk_cons_concat {piece : String} (hidle : isIdle piece = false) (h : IsName name)
    (above : List String) :
    t.walk purpose links here (piece :: (above ++ [name])) =
      if t.get? here = some .closedDirectory then .error .denied
      else if piece = ".." then t.walk purpose links here.dropLast (above ++ [name])
      else if nameLimit < piece.utf8ByteSize then .error .nameTooLong
      else
        match t.get? (here ++ [piece]), links with
        | some .directory, _ | some .closedDirectory, _ =>
          t.walk purpose links (here ++ [piece]) (above ++ [name])
        | some (.file _), _ | some .closedFile, _ => .error .notADirectory
        | some (.link _), 0 => .error .tooManyLinks
        | some (.link target), links + 1 =>
          t.walk purpose links (if (Path.ofString target).rooted then [] else here)
            ((Path.ofString target).pieces ++ above ++ [name])
        | none, _ => .error .notFound := by
  have hne : piece ≠ "" := by
    rintro rfl
    cases hidle
  have hfile : ¬ (purpose = .file ∧ above ++ [name] ≠ [] ∧
      (above ++ [name]).all (· == "") = true) := by
    rw [all_concat h]
    simp
  rw [walk, if_neg (c := isIdle piece) (by simp [hidle])]
  by_cases hclosed : t.get? here = some .closedDirectory
  · rw [if_pos hclosed, if_pos ⟨hne, hclosed⟩]
  rw [if_neg hclosed, if_neg fun h => hclosed h.2]
  by_cases hparent : piece = ".."
  · rw [if_pos hparent, if_pos hparent]
  · rw [if_neg hparent, if_neg hparent, if_neg hfile, Purpose.endsBefore_concat h]
    by_cases hlong : nameLimit < piece.utf8ByteSize
    · rw [if_pos hlong, if_pos hlong]
    · rw [if_neg hlong, if_neg hlong]
      rcases t.get? (here ++ [piece]) with _ | _ | _ | bytes | _ | target
      · simp
      · rfl
      · rfl
      · simp
      · simp
      · cases links with
        | zero => simp
        | succ links => simp

theorem walk_of_closed (hclosed : t.get? here = some .closedDirectory) (h : IsName name)
    (above : List String) : t.walk purpose links here (above ++ [name]) = .error .denied := by
  induction above with
  | nil => rw [List.nil_append, walk, if_pos ⟨h.ne_empty, hclosed⟩]
  | cons piece above ih =>
    rw [List.cons_append, walk]
    by_cases hne : piece = ""
    · rw [if_neg fun h => h.1 hne, if_pos (by simp [isIdle, hne])]
      exact ih
    · rw [if_pos ⟨hne, hclosed⟩]

/--
Only links can make what is left of a walk longer, so the induction is on how many may follow, and
on the pieces in between.
-/
theorem walk_filter_append (h : IsName name) (above : List String) :
    t.walk purpose links here (above ++ [name])
      = t.walk purpose links here (above.filter (!isIdle ·) ++ [name]) := by
  induction links using Nat.strongRecOn generalizing here above with
  | ind links ihlinks =>
    induction above generalizing here with
    | nil => rfl
    | cons piece above ih =>
      by_cases hclosed : t.get? here = some .closedDirectory
      · rw [walk_of_closed hclosed h, walk_of_closed hclosed h]
      cases hidle : isIdle piece with
      | true =>
        rw [List.filter_cons_of_neg (by simp [hidle]), List.cons_append, walk,
          if_neg fun h => hclosed h.2, if_pos hidle]
        exact ih
      | false =>
        rw [List.filter_cons_of_pos (by simp [hidle]), List.cons_append, List.cons_append,
          walk_cons_concat hidle h, walk_cons_concat hidle h, if_neg hclosed, if_neg hclosed, ih, ih]
        split
        · rfl
        · split
          · rfl
          · split
            · rfl
            · rfl
            · rfl
            · rfl
            · rfl
            · next target links _ =>
              have hlt : links < links + 1 := Nat.lt_succ_self links
              have hfilter : ((Path.ofString target).pieces ++ above).filter (!isIdle ·)
                  = ((Path.ofString target).pieces ++ above.filter (!isIdle ·)).filter
                    (!isIdle ·) := by
                simp [List.filter_append]
              rw [ihlinks links hlt (_ ++ above), hfilter, ← ihlinks links hlt]
            · rfl

theorem walk_filter (h : IsName name) (above : List String) :
    t.walk purpose links here (above ++ [name])
      = t.walk purpose links here ((above ++ [name]).filter (!isIdle ·)) := by
  have hlast : [name].filter (!isIdle ·) = [name] := List.filter_cons_of_pos (by simp [h.1])
  rw [List.filter_append, hlast]
  exact walk_filter_append h above

theorem exists_of_walk_place (h : IsName name) (above : List String)
    (hwalk : t.walk .place links here (above ++ [name]) = .ok location) :
    ∃ directory, location = directory ++ [name] := by
  induction links using Nat.strongRecOn generalizing here above with
  | ind links ihlinks =>
    induction above generalizing here with
    | nil =>
      have hends : Purpose.place.endsBefore [] = true := rfl
      rw [List.nil_append, walk, if_neg (c := isIdle name) (by simp [h.1]),
        if_neg (c := name = "..") h.2, if_neg (c := _ ∧ _ ∧ _) (by simp), hends] at hwalk
      split at hwalk
      · cases hwalk
      split at hwalk
      · cases hwalk
      · refine ⟨here, ?_⟩
        split at hwalk
        · rw [walk] at hwalk
          cases hwalk
          rfl
        · rw [walk] at hwalk
          cases hwalk
          rfl
        all_goals
          cases hwalk
          rfl
    | cons piece above ih =>
      rw [List.cons_append] at hwalk
      cases hidle : isIdle piece with
      | true =>
        have hsearch := searchable_of_walk_eq_ok hwalk
        rw [walk, if_neg hsearch, if_pos hidle] at hwalk
        exact ih hwalk
      | false =>
        rw [walk_cons_concat hidle h] at hwalk
        split at hwalk
        · cases hwalk
        split at hwalk
        · exact ih hwalk
        · split at hwalk
          · cases hwalk
          · split at hwalk
            · exact ih hwalk
            · exact ih hwalk
            · cases hwalk
            · cases hwalk
            · cases hwalk
            · exact ihlinks _ (Nat.lt_succ_self _) _ hwalk
            · cases hwalk

/--
Paths that are equal lead to one location if they end in a name and lead anywhere.
-/
theorem locate_unique {p q : Path} {above above' : List String} {name' : String}
    {location' : Location} (h : p.components = q.components)
    (hp : p.pieces = above ++ [name]) (hname : IsName name)
    (hq : q.pieces = above' ++ [name']) (hname' : IsName name')
    (hlocate : t.locate purpose here p = .ok location)
    (hlocate' : t.locate purpose here q = .ok location') : location = location' := by
  have hwalk := (locate_eq_ok_iff.1 hlocate).2
  have hwalk' := (locate_eq_ok_iff.1 hlocate').2
  have hpieces := Path.filter_pieces_eq_of_components_eq h
  rw [hp, walk_filter hname, ← hp, hpieces, Path.rooted_eq_of_components_eq h] at hwalk
  rw [hq, walk_filter hname', ← hq] at hwalk'
  exact Except.ok.inj (hwalk.symm.trans hwalk')

end GovernanceLock.FileTree
