import GovernanceLock.Proofs.FileTree.Walk

/-!
This module contains the proof that a path leads to the same in a tree to which directories have been
added, as long as it does not step back out of one of them. Such a path may lead nowhere at first and
to something afterwards, though that had been there all the time.
-/

namespace GovernanceLock.FileTree

open GovernanceLock.Path (IsName enter follow)

/--
Whatever stands in the tree stands in a directory.
-/
def Grounded (t : FileTree) : Prop :=
  ∀ location name, t.get? (location ++ [name]) ≠ none → t.holdsDirectory location = true

/--
The directories of `t` are directories of `t'`, and its files are none.
-/
structure Extends (t t' : FileTree) : Prop where
  keepsDirectories : t.KeepsDirectories t'
  directory : ∀ location, t'.holdsDirectory location = true → t.get? location ≠ none →
    t.holdsDirectory location = true

def NoDetour (t t' : FileTree) (here : Location) (pieces : List String) : Prop :=
  ∀ before after, pieces = before ++ ".." :: after →
    t'.get? (follow here before) = some .directory → t.get? (follow here before) ≠ none

variable {t t' : FileTree} {purpose : Purpose} {links : Nat} {here location : Location}

theorem Grounded.dropLast (h : t.Grounded) (hsome : t.get? location ≠ none) :
    t.holdsDirectory location.dropLast = true := by
  rcases List.eq_nil_or_concat location with rfl | ⟨above, name, rfl⟩
  · rfl
  · rw [List.concat_eq_append, List.dropLast_concat]
    rw [List.concat_eq_append] at hsome
    exact h above name hsome

theorem NoDetour.tail {piece : String} {rest : List String}
    (h : t.NoDetour t' here (piece :: rest)) : t.NoDetour t' (enter here piece) rest := by
  intro before after heq
  exact h (piece :: before) after (by rw [heq, List.cons_append])

theorem Extends.searchable {piece : String} (h : t.Extends t')
    (hsearch : t'.Searchable here piece) : t.Searchable here piece := by
  rintro ⟨hne, hclosed⟩
  exact hsearch ⟨hne, (h.keepsDirectories.closed here).2 hclosed⟩

theorem walk_eq_ok_of_extends (hlinks : t.LinkFree) (hlinks' : t'.LinkFree)
    (hgrounded : t.Grounded) (hextends : t.Extends t') (hsome : t.get? location ≠ none)
    (hsame : t'.get? location = t.get? location) {pieces : List String}
    (hdetour : t.NoDetour t' here pieces) (hhere : t'.holdsDirectory here = true)
    (h : t'.walk purpose links here pieces = .ok location) :
    t.get? here ≠ none ∧ t.walk purpose links here pieces = .ok location := by
  induction pieces generalizing here with
  | nil =>
    rw [walk] at h ⊢
    cases h
    exact ⟨hsome, rfl⟩
  | cons piece rest ih =>
    have hsearch := searchable_of_walk_eq_ok h
    by_cases hname : IsName piece
    · have henter : enter here piece = here ++ [piece] := Path.enter_of_isName hname
      rw [walk_eq_ok_iff_of_isName hlinks hname]
      rcases (walk_eq_ok_iff_of_isName hlinks' hname).1 h with
        ⟨_, hfile, hshort, ⟨hdir, hrest⟩ | ⟨hdir, hends, rfl⟩⟩
      · rcases ih (henter ▸ hdetour.tail) hdir hrest with ⟨hpiece, hwalk⟩
        refine ⟨ne_none_of_holdsDirectory (hgrounded here piece hpiece), hextends.searchable hsearch,
          hfile, hshort, .inl ⟨hextends.directory _ hdir hpiece, hwalk⟩⟩
      · refine ⟨ne_none_of_holdsDirectory (hgrounded here piece hsome), hextends.searchable hsearch,
          hfile, hshort, .inr ⟨?_, hends, rfl⟩⟩
        unfold holdsDirectory at hdir ⊢
        rw [← hsame, hdir]
    · rw [walk_of_not_isName hname hsearch] at h
      rw [walk_of_not_isName hname (hextends.searchable hsearch)]
      have hdetour' := hdetour.tail
      unfold enter at h hdetour' ⊢
      split at h
      · next hidle =>
        rw [if_pos hidle] at hdetour' ⊢
        exact ih hdetour' hhere h
      · next hidle =>
        have hparent : piece = ".." := by
          apply Decidable.byContradiction
          intro hne
          exact hname ⟨by simpa using hidle, hne⟩
        subst hparent
        rw [if_neg hidle, if_pos rfl] at hdetour'
        rw [if_pos rfl] at h
        rw [if_neg hidle, if_pos rfl]
        -- The place that is left is not new, so the one above it is not either.
        have hleft : t.get? here ≠ none := by
          rcases holdsDirectory_iff.1 hhere with hdir | hclosed
          · exact hdetour [] rest rfl hdir
          · rw [(hextends.keepsDirectories.closed here).1 hclosed]
            exact Option.some_ne_none _
        have habove := hextends.keepsDirectories.holdsDirectory (hgrounded.dropLast hleft)
        exact ⟨hleft, (ih hdetour' habove h).2⟩

/--
What a path leads to in `t`, it leads to in `t'`, and if it leads to nothing there, it still does.
-/
theorem at?_eq_of_extends (hlinks : t.LinkFree) (hlinks' : t'.LinkFree) (hgrounded : t.Grounded)
    (hextends : t.Extends t') (hhere : t.holdsDirectory here = true) {path : Path}
    (hsame : t'.get? (path.location here) = t.get? (path.location here))
    (hdetour : ∀ before after, path.pieces = before ++ ".." :: after →
      t'.get? (Path.location here { path with pieces := before }) = some .directory →
        t.get? (Path.location here { path with pieces := before }) ≠ none) :
    t'.at? here path = t.at? here path := by
  have hstart : t'.holdsDirectory (if path.rooted then [] else here) = true := by
    split
    · rfl
    · exact hextends.keepsDirectories.holdsDirectory hhere
  cases hat : t.at? here path with
  | some n =>
    rcases at?_eq_some_iff.1 hat with ⟨location, hlocate, hget⟩
    apply at?_eq_some_of_keepsDirectories hlinks hlinks' hextends.keepsDirectories hat
    rw [hsame, ← eq_location_of_locate_eq_ok hlinks hlocate, hget]
  | none =>
    rw [Option.eq_none_iff_forall_ne_some]
    intro n hn
    rcases at?_eq_some_iff.1 hn with ⟨location, hlocate, hget⟩
    rw [← eq_location_of_locate_eq_ok hlinks' hlocate] at hsame
    rcases locate_eq_ok_iff.1 hlocate with ⟨haccept, hwalk⟩
    have hsome : t.get? location = some n := by
      rw [← hsame, hget]
    have hforward : t.NoDetour t' (if path.rooted then [] else here) path.pieces := hdetour
    have hwalk := (walk_eq_ok_of_extends hlinks hlinks' hgrounded hextends (by simp [hsome]) hsame
      hforward hstart hwalk).2
    rw [at?_eq_some_iff.2 ⟨location, locate_eq_ok_iff.2 ⟨haccept, hwalk⟩, hsome⟩] at hat
    cases hat

end GovernanceLock.FileTree
