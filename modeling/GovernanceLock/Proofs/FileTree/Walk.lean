import GovernanceLock.Proofs.Except
import GovernanceLock.Proofs.FileTree.Path

/-!
This module contains the characterization of where paths lead in trees without links: to the
locations that they name, through directories only.
-/

namespace GovernanceLock.FileTree

open Except (bind_eq_ok_iff)
open GovernanceLock.Path (IsName enter follow)

/--
No symbolic link stands in the tree.
-/
def LinkFree (t : FileTree) : Prop :=
  ∀ location target, t.get? location ≠ some (.link target)

theorem linkFree_of_forall {t : FileTree} (h : ∀ e ∈ t.nodes, ∀ target, e.2 ≠ .link target) :
    t.LinkFree := by
  intro location target hget
  unfold get? at hget
  split at hget
  · cases hget
  · exact h _ (mem_of_find? hget) target rfl

/--
Every directory of `t` stands in `t'` as it is, and no other directory is closed there.
-/
structure KeepsDirectories (t t' : FileTree) : Prop where
  directory : ∀ location, t.get? location = some .directory → t'.get? location = some .directory
  closed : ∀ location,
    t'.get? location = some .closedDirectory ↔ t.get? location = some .closedDirectory

/--
The piece may be looked up in the directory. Nothing is looked up for an empty one.
-/
abbrev Searchable (t : FileTree) (here : Location) (piece : String) : Prop :=
  ¬ (piece ≠ "" ∧ t.get? here = some .closedDirectory)

/--
Every piece may be looked up, every name in them is that of a directory, and no name is too long.
-/
def Passable (t : FileTree) (here : Location) : List String → Prop
  | [] => True
  | piece :: rest =>
    t.Searchable here piece ∧
    (IsName piece →
      piece.utf8ByteSize ≤ nameLimit ∧ t.holdsDirectory (here ++ [piece]) = true) ∧
    Passable t (enter here piece) rest

instance decidablePassable (t : FileTree) :
    (here : Location) → (pieces : List String) → Decidable (t.Passable here pieces)
  | _, [] => inferInstanceAs (Decidable True)
  | here, piece :: rest =>
    have := decidablePassable t (enter here piece) rest
    inferInstanceAs (Decidable (_ ∧ _ ∧ _))

variable {t t' : FileTree} {purpose : Purpose} {links : Nat} {here location : Location}
  {piece : String} {rest : List String}

namespace KeepsDirectories

theorem holdsDirectory (h : t.KeepsDirectories t') (hget : t.holdsDirectory location = true) :
    t'.holdsDirectory location = true := by
  rw [holdsDirectory_iff] at hget ⊢
  exact hget.imp (h.directory location) (h.closed location).2

theorem searchable (h : t.KeepsDirectories t') (hsearch : t.Searchable here piece) :
    t'.Searchable here piece := by
  rintro ⟨hne, hclosed⟩
  exact hsearch ⟨hne, (h.closed here).1 hclosed⟩

theorem refl : t.KeepsDirectories t where
  directory _ h := h
  closed _ := Iff.rfl

theorem trans {t'' : FileTree} (h : t.KeepsDirectories t') (h' : t'.KeepsDirectories t'') :
    t.KeepsDirectories t'' where
  directory location hget := h'.directory location (h.directory location hget)
  closed location := (h'.closed location).trans (h.closed location)

end KeepsDirectories

theorem Passable.mono {pieces : List String} (h : t.Passable here pieces)
    (hkeeps : t.KeepsDirectories t') : t'.Passable here pieces := by
  induction pieces generalizing here with
  | nil => trivial
  | cons piece rest ih =>
    refine ⟨hkeeps.searchable h.1, ?_, ih h.2.2⟩
    intro hname
    exact ⟨(h.2.1 hname).1, hkeeps.holdsDirectory (h.2.1 hname).2⟩

theorem Purpose.all_of_endsBefore (h : purpose.endsBefore rest = true) :
    rest.all (· == "") = true := by
  unfold endsBefore at h
  split at h
  · exact h
  · rw [List.isEmpty_iff] at h
    rw [h]
    rfl

theorem forall_isIdle_of_all (h : rest.all (· == "") = true) :
    ∀ piece ∈ rest, Path.isIdle piece = true := by
  intro piece hpiece
  have := List.all_eq_true.1 h piece hpiece
  unfold Path.isIdle
  rw [this, Bool.true_or]

theorem passable_of_all {pieces : List String} (h : pieces.all (· == "") = true) :
    t.Passable here pieces := by
  induction pieces generalizing here with
  | nil => trivial
  | cons piece rest ih =>
    rw [List.all_cons, Bool.and_eq_true, beq_iff_eq] at h
    refine ⟨fun hsearch => hsearch.1 h.1, ?_, ih h.2⟩
    intro hname
    exact absurd h.1 hname.ne_empty

theorem searchable_of_walk_eq_ok (h : t.walk purpose links here (piece :: rest) = .ok location) :
    t.Searchable here piece := by
  intro hclosed
  rw [walk, if_pos hclosed] at h
  cases h

theorem walk_of_not_isName (h : ¬ IsName piece) (hsearch : t.Searchable here piece) :
    t.walk purpose links here (piece :: rest) = t.walk purpose links (enter here piece) rest := by
  rw [walk, if_neg hsearch]
  unfold enter
  split
  · rfl
  · next hidle =>
    have hparent : piece = ".." := by
      apply Decidable.byContradiction
      intro hne
      exact h ⟨by simpa using hidle, hne⟩
    rw [if_pos hparent, if_pos hparent]

theorem walk_of_directory (h : IsName piece) (hsearch : t.Searchable here piece)
    (hfile : purpose = .file → ¬ rest.all (· == "") = true)
    (hshort : piece.utf8ByteSize ≤ nameLimit)
    (hget : t.holdsDirectory (here ++ [piece]) = true) :
    t.walk purpose links here (piece :: rest) = t.walk purpose links (enter here piece) rest := by
  rw [walk, if_neg hsearch, if_neg (by simp [h.1]), if_neg h.2, if_neg,
    if_neg (Nat.not_lt.2 hshort), Path.enter_of_isName h]
  · rcases holdsDirectory_iff.1 hget with hget | hget
    · rw [hget]
    · rw [hget]
  · rintro ⟨hpurpose, _, hall⟩
    exact hfile hpurpose hall

theorem walk_eq_ok_iff_of_isName (hlinks : t.LinkFree) (h : IsName piece) :
    t.walk purpose links here (piece :: rest) = .ok location ↔
      t.Searchable here piece ∧ ¬ (purpose = .file ∧ rest ≠ [] ∧ rest.all (· == "") = true) ∧
        piece.utf8ByteSize ≤ nameLimit ∧
        (t.holdsDirectory (here ++ [piece]) = true ∧
            t.walk purpose links (here ++ [piece]) rest = .ok location ∨
          t.holdsDirectory (here ++ [piece]) = false ∧ purpose.endsBefore rest = true ∧
            location = here ++ [piece]) := by
  rw [walk, if_neg (c := Path.isIdle piece) (by simp [h.1]), if_neg (c := piece = "..") h.2]
  split
  · next hclosed => simp [hclosed]
  next hsearch =>
  split
  · next hfile => simp [hfile]
  next hfile =>
  split
  · next hlong => simp [Nat.not_le.2 hlong]
  next hshort =>
  rw [and_iff_right hsearch, and_iff_right hfile, and_iff_right (Nat.not_lt.1 hshort)]
  split
  · next hget => simp [holdsDirectory_of_get? hget, Node.isDirectory]
  · next hget => simp [holdsDirectory_of_get? hget, Node.isDirectory]
  · next hget => simp [holdsDirectory_of_get? hget, Node.isDirectory, Except.ite_eq_ok_iff]
  · next hget => simp [holdsDirectory_of_get? hget, Node.isDirectory, Except.ite_eq_ok_iff]
  · next hget => exact absurd hget (hlinks _ _)
  · next hget => simp [holdsDirectory, hget, Except.ite_eq_ok_iff]

theorem walk_append (above rest : List String) (h : t.Passable here above)
    (hfile : purpose = .file → ¬ rest.all (· == "") = true) :
    t.walk purpose links here (above ++ rest) = t.walk purpose links (follow here above) rest := by
  induction above generalizing here with
  | nil => rfl
  | cons piece above ih =>
    have hrest : t.walk purpose links (enter here piece) (above ++ rest)
        = t.walk purpose links (follow here (piece :: above)) rest := ih h.2.2
    rw [List.cons_append, ← hrest]
    by_cases hname : IsName piece
    · apply walk_of_directory hname h.1 _ (h.2.1 hname).1 (h.2.1 hname).2
      intro hpurpose hall
      rw [List.all_append, Bool.and_eq_true] at hall
      exact hfile hpurpose hall.2
    · exact walk_of_not_isName hname h.1

theorem walk_of_passable {pieces : List String} (h : t.Passable here pieces)
    (hpurpose : purpose ≠ .file) :
    t.walk purpose links here pieces = .ok (follow here pieces) :=
  calc
    t.walk purpose links here pieces = t.walk purpose links here (pieces ++ []) := by
      rw [List.append_nil]
    _ = t.walk purpose links (follow here pieces) [] :=
      walk_append pieces [] h fun h => absurd h hpurpose
    _ = .ok (follow here pieces) := by
      rw [walk]

theorem eq_follow_of_walk_eq_ok (hlinks : t.LinkFree) {pieces : List String}
    (h : t.walk purpose links here pieces = .ok location) : location = follow here pieces := by
  induction pieces generalizing here with
  | nil =>
    rw [walk] at h
    cases h
    rfl
  | cons piece rest ih =>
    by_cases hname : IsName piece
    · rw [follow, List.foldl_cons, Path.enter_of_isName hname]
      rcases ((walk_eq_ok_iff_of_isName hlinks hname).1 h).2.2.2 with ⟨_, hrest⟩ | ⟨_, hends, rfl⟩
      · exact ih hrest
      · have hidle := forall_isIdle_of_all (Purpose.all_of_endsBefore hends)
        exact (Path.follow_of_forall_isIdle hidle).symm
    · rw [walk_of_not_isName hname (searchable_of_walk_eq_ok h)] at h
      exact ih h

theorem passable_of_walk_eq_ok (hlinks : t.LinkFree) {pieces : List String}
    (h : t.walk purpose links here pieces = .ok location) (hkeeps : t.KeepsDirectories t')
    (hget : t'.holdsDirectory location = true) : t'.Passable here pieces := by
  induction pieces generalizing here with
  | nil => trivial
  | cons piece rest ih =>
    have hsearch := searchable_of_walk_eq_ok h
    refine ⟨hkeeps.searchable hsearch, ?_⟩
    by_cases hname : IsName piece
    · rw [Path.enter_of_isName hname]
      rcases (walk_eq_ok_iff_of_isName hlinks hname).1 h with
        ⟨_, _, hshort, ⟨hdir, hrest⟩ | ⟨_, hends, rfl⟩⟩
      · exact ⟨fun _ => ⟨hshort, hkeeps.holdsDirectory hdir⟩, ih hrest⟩
      · exact ⟨fun _ => ⟨hshort, hget⟩, passable_of_all (Purpose.all_of_endsBefore hends)⟩
    · rw [walk_of_not_isName hname hsearch] at h
      exact ⟨fun h => absurd h hname, ih h⟩

theorem passable_of_walk_append_eq_ok (hlinks : t.LinkFree) {above : List String} {last : String}
    (hlast : last ≠ "") (h : t.walk purpose links here (above ++ [last]) = .ok location) :
    t.Passable here above := by
  induction above generalizing here with
  | nil => trivial
  | cons piece above ih =>
    rw [List.cons_append] at h
    have hsearch := searchable_of_walk_eq_ok h
    refine ⟨hsearch, ?_⟩
    by_cases hname : IsName piece
    · rw [Path.enter_of_isName hname]
      rcases (walk_eq_ok_iff_of_isName hlinks hname).1 h with
        ⟨_, _, hshort, ⟨hdir, hrest⟩ | ⟨_, hends, _⟩⟩
      · exact ⟨fun _ => ⟨hshort, hdir⟩, ih hrest⟩
      · have hall := Purpose.all_of_endsBefore hends
        rw [List.all_append, Bool.and_eq_true] at hall
        exact absurd (by simpa using hall.2) hlast
    · rw [walk_of_not_isName hname hsearch] at h
      exact ⟨fun h => absurd h hname, ih h⟩

theorem walk_congr (hsame : ∀ location, t'.get? location = t.get? location)
    (pieces : List String) :
    t'.walk purpose links here pieces = t.walk purpose links here pieces := by
  induction links using Nat.strongRecOn generalizing here pieces with
  | ind links ihlinks =>
    induction pieces generalizing here with
    | nil => rw [walk, walk]
    | cons piece rest ih =>
      rw [walk, walk]
      simp only [hsame, ih]
      cases links with
      | zero => rfl
      | succ links => simp only [ihlinks links (Nat.lt_succ_self links)]

theorem locate_congr (hsame : ∀ location, t'.get? location = t.get? location) (path : Path) :
    t'.locate purpose here path = t.locate purpose here path := by
  unfold locate
  rw [walk_congr hsame]

theorem locate_eq_ok_iff {path : Path} :
    t.locate purpose here path = .ok location ↔ accept path = .ok () ∧
      t.walk purpose linkLimit (if path.rooted then [] else here) path.pieces = .ok location := by
  unfold locate
  rw [bind_eq_ok_iff]
  constructor
  · rintro ⟨_, haccept, hwalk⟩
    exact ⟨haccept, hwalk⟩
  · rintro ⟨haccept, hwalk⟩
    exact ⟨(), haccept, hwalk⟩

theorem eq_location_of_locate_eq_ok (hlinks : t.LinkFree) {path : Path}
    (h : t.locate purpose here path = .ok location) : location = path.location here :=
  eq_follow_of_walk_eq_ok hlinks (locate_eq_ok_iff.1 h).2

theorem at?_eq_some_iff {path : Path} {n : Node} :
    t.at? here path = some n ↔
      ∃ location, t.locate .target here path = .ok location ∧ t.get? location = some n := by
  unfold at?
  cases t.locate .target here path with
  | error e => simp
  | ok location => simp

theorem isDirectory_iff (hlinks : t.LinkFree) {path : Path} :
    t.isDirectory here path = true ↔
      accept path = .ok () ∧ t.Passable (if path.rooted then [] else here) path.pieces ∧
        t.holdsDirectory (path.location here) = true := by
  unfold isDirectory
  rw [Option.any_eq_true]
  constructor
  · rintro ⟨n, hat, hn⟩
    rcases at?_eq_some_iff.1 hat with ⟨location, hlocate, hget⟩
    have heq := eq_location_of_locate_eq_ok hlinks hlocate
    have hdirectory : t.holdsDirectory location = true := by
      rw [holdsDirectory_of_get? hget, hn]
    rcases locate_eq_ok_iff.1 hlocate with ⟨haccept, hwalk⟩
    rw [← heq]
    exact ⟨haccept, passable_of_walk_eq_ok hlinks hwalk .refl hdirectory, hdirectory⟩
  · rintro ⟨haccept, hpassable, hget⟩
    have hlocate : t.locate .target here path = .ok (path.location here) := by
      rw [locate_eq_ok_iff]
      exact ⟨haccept, walk_of_passable hpassable (by decide)⟩
    unfold holdsDirectory at hget
    rw [Option.any_eq_true] at hget
    rcases hget with ⟨n, hget, hn⟩
    exact ⟨n, at?_eq_some_iff.2 ⟨_, hlocate, hget⟩, hn⟩

theorem isDirectory_of_keepsDirectories (hlinks : t.LinkFree) (hlinks' : t'.LinkFree)
    (hkeeps : t.KeepsDirectories t') {path : Path} (h : t.isDirectory here path = true) :
    t'.isDirectory here path = true := by
  rw [isDirectory_iff hlinks] at h
  rw [isDirectory_iff hlinks']
  exact ⟨h.1, h.2.1.mono hkeeps, hkeeps.holdsDirectory h.2.2⟩

theorem walk_eq_ok_of_keepsDirectories (hlinks : t.LinkFree) (hlinks' : t'.LinkFree)
    (hkeeps : t.KeepsDirectories t') {pieces : List String}
    (h : t.walk purpose links here pieces = .ok location)
    (hsome : t.get? location ≠ none) (hsame : t'.get? location = t.get? location) :
    t'.walk purpose links here pieces = .ok location := by
  induction pieces generalizing here with
  | nil =>
    rw [walk] at h ⊢
    exact h
  | cons piece rest ih =>
    by_cases hname : IsName piece
    · rcases (walk_eq_ok_iff_of_isName hlinks hname).1 h with
        ⟨hsearch, hfile, hshort, ⟨hdir, hrest⟩ | ⟨hdir, hends, rfl⟩⟩
      all_goals
        refine (walk_eq_ok_iff_of_isName hlinks' hname).2
          ⟨hkeeps.searchable hsearch, hfile, hshort, ?_⟩
      · exact .inl ⟨hkeeps.holdsDirectory hdir, ih hrest⟩
      · refine .inr ⟨?_, hends, rfl⟩
        unfold holdsDirectory at hdir ⊢
        rw [hsame, hdir]
    · have hsearch := searchable_of_walk_eq_ok h
      rw [walk_of_not_isName hname hsearch] at h
      rw [walk_of_not_isName hname (hkeeps.searchable hsearch)]
      exact ih h

theorem at?_eq_some_of_keepsDirectories (hlinks : t.LinkFree) (hlinks' : t'.LinkFree)
    (hkeeps : t.KeepsDirectories t') {path : Path} {n : Node} (h : t.at? here path = some n)
    (hn : t'.get? (path.location here) = some n) : t'.at? here path = some n := by
  rw [at?_eq_some_iff] at h ⊢
  rcases h with ⟨location, hlocate, hget⟩
  rw [← eq_location_of_locate_eq_ok hlinks hlocate] at hn
  rcases locate_eq_ok_iff.1 hlocate with ⟨haccept, hwalk⟩
  refine ⟨location, ?_, hn⟩
  rw [locate_eq_ok_iff]
  exact ⟨haccept, walk_eq_ok_of_keepsDirectories hlinks hlinks' hkeeps hwalk (by simp [hget])
    (by rw [hn, hget])⟩

theorem readText_of_read_eq_ok {path : Path} {text : String}
    (h : t.read here path = .ok text.toUTF8) : t.readText here path = .ok text := by
  unfold readText
  rw [bind_eq_ok_iff]
  refine ⟨_, h, ?_⟩
  rw [Text.ofUtf8?_toUTF8]
  rfl

end GovernanceLock.FileTree
