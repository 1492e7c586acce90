import GovernanceLock.Proofs.FileTree.Growth

/-!
This module contains the proofs that a guard is only added to a tree, and that a file is replaced
as a whole or not at all, without a draft left behind. Doing either once more changes nothing.
-/

namespace GovernanceLock.FileTree

open Except (bind_eq_ok_iff mapError_eq_ok_iff pure_eq_ok_iff)
open GovernanceLock.Path (IsName follow)

variable {t t' : FileTree} {here : Location} {path : Path}

/--
The path leads through directories up to a name that something can have.
-/
structure IsPlace (t : FileTree) (here : Location) (path : Path) (above : List String)
    (name : String) : Prop where
  pieces : path.pieces = above ++ [name]
  accepted : accept path = .ok ()
  passable : t.Passable (if path.rooted then [] else here) above
  searchable : t.Searchable (follow (if path.rooted then [] else here) above) name
  isName : IsName name
  short : name.utf8ByteSize ≤ nameLimit

theorem isPlace_iff {above : List String} {name : String} :
    t.IsPlace here path above name ↔
      path.pieces = above ++ [name] ∧ accept path = .ok () ∧
        t.Passable (if path.rooted then [] else here) above ∧
        t.Searchable (follow (if path.rooted then [] else here) above) name ∧
        IsName name ∧ name.utf8ByteSize ≤ nameLimit := by
  constructor
  · rintro ⟨hpieces, haccepted, hpassable, hsearchable, hname, hshort⟩
    exact ⟨hpieces, haccepted, hpassable, hsearchable, hname, hshort⟩
  · rintro ⟨hpieces, haccepted, hpassable, hsearchable, hname, hshort⟩
    exact ⟨hpieces, haccepted, hpassable, hsearchable, hname, hshort⟩

instance (above : List String) (name : String) : Decidable (t.IsPlace here path above name) :=
  decidable_of_iff _ isPlace_iff.symm

namespace IsPlace

variable {above : List String} {name : String}

theorem mono (h : t.IsPlace here path above name) (hkeeps : t.KeepsDirectories t') :
    t'.IsPlace here path above name :=
  { h with
    passable := h.passable.mono hkeeps
    searchable := hkeeps.searchable h.searchable }

theorem location_eq (h : t.IsPlace here path above name) :
    path.location here = follow (if path.rooted then [] else here) above ++ [name] := by
  unfold Path.location
  rw [h.pieces, Path.follow_of_isName h.isName]

theorem location_ne_nil (h : t.IsPlace here path above name) : path.location here ≠ [] := by
  rw [h.location_eq]
  simp

theorem not_isEmpty (h : t.IsPlace here path above name) : ¬ path.isEmpty = true := by
  intro hempty
  have haccepted := h.accepted
  unfold accept at haccepted
  rw [if_pos hempty] at haccepted
  split at haccepted <;> cases haccepted

theorem locate_eq (h : t.IsPlace here path above name) (hlinks : t.LinkFree) (purpose : Purpose) :
    t.locate purpose here path = .ok (path.location here) := by
  have hends : purpose.endsBefore [] = true := by
    cases purpose <;> rfl
  rw [locate_eq_ok_iff, h.pieces,
    walk_append above [name] h.passable fun _ => by simp [h.isName.ne_empty],
    walk_eq_ok_iff_of_isName hlinks h.isName, h.location_eq, walk]
  refine ⟨h.accepted, h.searchable, by simp, h.short, ?_⟩
  cases t.holdsDirectory (follow (if path.rooted then [] else here) above ++ [name])
  · exact .inr ⟨rfl, hends, rfl⟩
  · exact .inl ⟨rfl, rfl⟩

theorem at?_eq (h : t.IsPlace here path above name) (hlinks : t.LinkFree) {n : Node}
    (hget : t.get? (path.location here) = some n) : t.at? here path = some n :=
  at?_eq_some_iff.2 ⟨_, h.locate_eq hlinks .target, hget⟩

theorem read_eq (h : t.IsPlace here path above name) (hlinks : t.LinkFree) {bytes : ByteArray}
    (hfile : t.get? (path.location here) = some (.file bytes)) :
    t.read here path = .ok bytes := by
  unfold read
  rw [h.locate_eq hlinks, bind_eq_ok_iff]
  refine ⟨_, rfl, ?_⟩
  rw [hfile]
  rfl

end IsPlace

theorem isPlace_of_locate_eq_ok (hlinks : t.LinkFree) {purpose : Purpose} {location : Location}
    {above : List String} {name : String} (hpieces : path.pieces = above ++ [name])
    (hname : IsName name) (h : t.locate purpose here path = .ok location) :
    t.IsPlace here path above name := by
  rcases locate_eq_ok_iff.1 h with ⟨haccept, hwalk⟩
  rw [hpieces] at hwalk
  have hpassable := passable_of_walk_append_eq_ok hlinks hname.ne_empty hwalk
  rw [walk_append above [name] hpassable fun _ => by simp [hname.ne_empty]] at hwalk
  rcases (walk_eq_ok_iff_of_isName hlinks hname).1 hwalk with ⟨hsearch, _, hshort, _⟩
  exact ⟨hpieces, haccept, hpassable, hsearch, hname, hshort⟩

def IsNewFile (here : Location) (path : Path) (location : Location) (n : Node) : Prop :=
  n = .file .empty ∧ location = path.location here

theorem IsNewFile.opens : Opens (IsNewFile here path) :=
  fun _ _ h => .inr ⟨_, h.1⟩

theorem ensureFile_spec (hlinks : t.LinkFree) {above : List String} {name : String}
    (hpieces : path.pieces = above ++ [name]) (hname : IsName name) {result : Except Error Unit}
    (h : (ensureFile here path).runOn t = (result, t')) :
    Grows (IsNewFile here path) t t' ∧
      (result = .ok () → t'.IsPlace here path above name ∧
        ∃ bytes, t'.get? (path.location here) = some (.file bytes)) := by
  rw [runOn_ensureFile] at h
  split at h
  · next location hlocate =>
    have heq := eq_location_of_locate_eq_ok hlinks hlocate
    have hplace := isPlace_of_locate_eq_ok hlinks hpieces hname hlocate
    subst heq
    split at h
    · next bytes hfile =>
      cases h
      exact ⟨.refl _, fun _ => ⟨hplace, bytes, hfile⟩⟩
    · cases h
      exact ⟨.refl _, by simp⟩
    · cases h
      exact ⟨.refl _, by simp⟩
    · cases h
      exact ⟨.refl _, by simp⟩
    · cases h
      exact ⟨.refl _, by simp⟩
    · next hnone =>
      cases h
      have hgrows : Grows (IsNewFile here path) t (t.put (path.location here) (.file .empty)) :=
        .put hnone ⟨rfl, rfl⟩
      refine ⟨hgrows, fun _ => ⟨hplace.mono (hgrows.keepsDirectories IsNewFile.opens), .empty, ?_⟩⟩
      rw [get?_put hplace.location_ne_nil, if_pos rfl]
  · cases h
    exact ⟨.refl _, by simp⟩

theorem ensureFile_of_isPlace (hlinks : t.LinkFree) {above : List String} {name : String}
    (hplace : t.IsPlace here path above name) {bytes : ByteArray}
    (hfile : t.get? (path.location here) = some (.file bytes)) :
    (ensureFile here path).runOn t = (.ok (), t) := by
  rw [runOn_ensureFile, hplace.locate_eq hlinks]
  dsimp only
  rw [hfile]

theorem ensureFile_of_get?_eq_none (hlinks : t.LinkFree) {above : List String} {name : String}
    (hplace : t.IsPlace here path above name) (hnone : t.get? (path.location here) = none) :
    (ensureFile here path).runOn t = (.ok (), t.put (path.location here) (.file .empty)) := by
  rw [runOn_ensureFile, hplace.locate_eq hlinks]
  dsimp only
  rw [hnone]

theorem makeDirectories_of_get?_eq_none (hlinks : t.LinkFree) {above : List String} {name : String}
    (hplace : t.IsPlace here path above name) (hnone : t.get? (path.location here) = none) :
    (makeDirectories here path).runOn t = (.ok (), t.put (path.location here) .directory) := by
  have hmake : (makeDirectory here path).runOn t
      = (.ok (), t.put (path.location here) .directory) := by
    rw [runOn_makeDirectory, hplace.locate_eq hlinks]
    dsimp only
    rw [hnone, if_neg (by simp)]
  rw [makeDirectories, if_neg hplace.not_isEmpty, Action.runOn_tryCatch, hmake]

theorem splitLast?_of_isName {rooted : Bool} {above : List String} {name : String}
    (h : IsName name) : splitLast? ⟨rooted, above ++ [name]⟩ = some (⟨rooted, above⟩, name) := by
  unfold splitLast?
  rw [List.reverse_append, List.reverse_singleton, List.singleton_append, List.dropWhile_cons,
    if_neg (by simp [h.ne_empty])]
  simp

theorem pieces_of_splitLast?_eq_some {above : Path} {last : String}
    (h : splitLast? path = some (above, last)) (hend : path.pieces.getLast? ≠ some "") :
    path = ⟨above.rooted, above.pieces ++ [last]⟩ ∧ last ≠ "" := by
  unfold splitLast? at h
  cases hreverse : path.pieces.reverse with
  | nil =>
    rw [hreverse] at h
    cases h
  | cons piece rest =>
    have hpieces : path.pieces = rest.reverse ++ [piece] := by
      rw [← List.reverse_reverse path.pieces, hreverse, List.reverse_cons]
    have hne : piece ≠ "" := by
      rintro rfl
      rw [hpieces, List.getLast?_concat] at hend
      exact hend rfl
    rw [hreverse, List.dropWhile_cons, if_neg (by simp [hne])] at h
    cases h
    cases path
    cases hpieces
    exact ⟨rfl, hne⟩

theorem walk_dot_eq_ok_iff (hlinks : t.LinkFree) {start directory : Location}
    {above : List String} :
    t.walk .target linkLimit start (above ++ ["."]) = .ok directory ↔
      t.Passable start above ∧ t.Searchable (follow start above) "." ∧
        directory = follow start above := by
  constructor
  · intro h
    have hpassable := passable_of_walk_append_eq_ok hlinks (by decide) h
    have hdirectory := eq_follow_of_walk_eq_ok hlinks h
    rw [Path.follow_append] at hdirectory
    rw [walk_append above ["."] hpassable (by simp)] at h
    exact ⟨hpassable, searchable_of_walk_eq_ok h, hdirectory⟩
  · rintro ⟨hpassable, hsearch, rfl⟩
    rw [walk_append above ["."] hpassable (by simp), walk_of_not_isName (by decide) hsearch, walk]
    rfl

theorem isPlace_of_landing_eq_ok (hlinks : t.LinkFree) {location : Location}
    (h : t.landing here path = .ok location) :
    ∃ above name, t.IsPlace here path above name ∧ location = path.location here ∧
      t.holdsDirectory location = false := by
  unfold landing at h
  rw [bind_eq_ok_iff] at h
  simp only [mapError_eq_ok_iff] at h
  rcases h with ⟨_, haccept, h⟩
  split at h
  · cases h
  next above last hsplit =>
  rw [bind_eq_ok_iff] at h
  rcases h with ⟨directory, hwalk, h⟩
  split at h
  · cases h
  next hspecial =>
  split at h
  · cases h
  next hshort =>
  split at h
  · cases h
  next hend =>
  split at h
  · cases h
  next hget =>
  rw [pure_eq_ok_iff] at h
  subst h
  rcases pieces_of_splitLast?_eq_some hsplit (by simpa using hend) with ⟨hpath, hne⟩
  rcases (walk_dot_eq_ok_iff hlinks).1 hwalk with ⟨hpassable, hsearch, rfl⟩
  simp only [Bool.or_eq_true, beq_iff_eq, not_or] at hspecial
  have hplace : t.IsPlace here path above.pieces last :=
    { pieces := congrArg Path.pieces hpath
      accepted := haccept
      passable := hpassable
      searchable := fun hclosed => hsearch ⟨by decide, hclosed.2⟩
      isName := Path.isName_of_ne hne hspecial.1 hspecial.2
      short := Nat.not_lt.1 hshort }
  exact ⟨_, _, hplace, hplace.location_eq.symm, by simpa using hget⟩

theorem IsPlace.landing_eq_ok {above : List String} {name : String}
    (h : t.IsPlace here path above name) (hlinks : t.LinkFree)
    (hget : t.holdsDirectory (path.location here) = false) :
    t.landing here path = .ok (path.location here) := by
  have hsearch : t.Searchable (follow (if path.rooted then [] else here) above) "." :=
    fun hclosed => h.searchable ⟨h.isName.ne_empty, hclosed.2⟩
  have hsplit : splitLast? path = some (⟨path.rooted, above⟩, name) := by
    rw [← splitLast?_of_isName h.isName, ← h.pieces]
  unfold landing
  rw [bind_eq_ok_iff]
  simp only [mapError_eq_ok_iff]
  refine ⟨(), h.accepted, ?_⟩
  rw [hsplit]
  dsimp only
  rw [bind_eq_ok_iff]
  refine ⟨_, (walk_dot_eq_ok_iff hlinks).2 ⟨h.passable, hsearch, rfl⟩, ?_⟩
  rw [← h.location_eq, h.pieces, List.getLast?_concat,
    if_neg (by simp [h.isName.ne_dot, h.isName.2]), if_neg (Nat.not_lt.2 h.short),
    if_neg (by simp [h.isName.ne_empty]), if_neg (by simpa using hget)]
  rfl

theorem landing_eq_ok_iff (hlinks : t.LinkFree) {location : Location} :
    t.landing here path = .ok location ↔
      (∃ above name, t.IsPlace here path above name) ∧ location = path.location here ∧
        t.holdsDirectory location = false := by
  constructor
  · intro h
    rcases isPlace_of_landing_eq_ok hlinks h with ⟨above, name, hplace, hlocation, hget⟩
    exact ⟨⟨above, name, hplace⟩, hlocation, hget⟩
  · rintro ⟨⟨above, name, hplace⟩, rfl, hget⟩
    exact hplace.landing_eq_ok hlinks hget

theorem length_le_foldl_max {taken : List String} (bound : Nat) {name : String}
    (h : name ∈ taken ∨ name.length ≤ bound) :
    name.length ≤ taken.foldl (fun n name => max n name.length) bound := by
  induction taken generalizing bound with
  | nil => simpa using h
  | cons first taken ih =>
    apply ih (max bound first.length)
    rw [List.mem_cons, or_assoc] at h
    rcases h with rfl | h | h
    · exact .inr (Nat.le_max_right ..)
    · exact .inl h
    · exact .inr (Nat.le_trans h (Nat.le_max_left ..))

theorem freshName_notMem (taken : List String) : freshName taken ∉ taken := by
  intro h
  have hle := length_le_foldl_max 0 (.inl h)
  rw [freshName, String.length_ofList, List.length_cons, List.length_replicate] at hle
  exact Nat.not_succ_le_self _ hle

theorem get?_draft (t : FileTree) (place : Location) :
    t.get? (place ++ [freshName (t.names place)]) = none := by
  unfold get?
  rw [if_neg (by simp), find?_eq_none_iff]
  intro e he heq
  apply freshName_notMem (t.names place)
  unfold names
  rw [List.mem_filterMap]
  refine ⟨e, he, ?_⟩
  unfold nameIn?
  rw [heq, List.dropLast_concat, if_pos rfl, List.getLast?_concat]
  rfl

theorem landing_put_eq_ok_iff (hlinks : t.LinkFree) {draft location : Location}
    (bytes : ByteArray) (hdraft : t.get? draft = none) :
    (t.put draft (.file bytes)).landing here path = .ok location ↔
      (∃ above name, t.IsPlace here path above name) ∧ location = path.location here ∧
        t.holdsDirectory location = false := by
  have hgrows : Grows (fun _ n => n = .file bytes) t (t.put draft (.file bytes)) :=
    .put hdraft rfl
  have hopens : Opens fun _ n => n = .file bytes := fun _ _ h => .inr ⟨bytes, h⟩
  have hsame : ∀ l n, n.isDirectory = true →
      ((t.put draft (.file bytes)).get? l = some n ↔ t.get? l = some n) := by
    intro l n hn
    rw [get?_put (ne_nil_of_get?_eq_none hdraft)]
    split
    · next heq =>
      rw [heq, hdraft]
      refine ⟨?_, nofun⟩
      intro h
      cases h
      cases hn
    · rfl
  have hkeeps : (t.put draft (.file bytes)).KeepsDirectories t :=
    ⟨fun l => (hsame l _ rfl).1, fun l => (hsame l _ rfl).symm⟩
  have hholds : (t.put draft (.file bytes)).holdsDirectory location = t.holdsDirectory location := by
    rw [Bool.eq_iff_iff, holdsDirectory_iff, holdsDirectory_iff, hsame _ _ rfl, hsame _ _ rfl]
  rw [landing_eq_ok_iff (hgrows.linkFree hlinks hopens), hholds]
  constructor
  · rintro ⟨⟨above, name, hplace⟩, hrest⟩
    exact ⟨⟨above, name, hplace.mono hkeeps⟩, hrest⟩
  · rintro ⟨⟨above, name, hplace⟩, hrest⟩
    exact ⟨⟨above, name, hplace.mono (hgrows.keepsDirectories hopens)⟩, hrest⟩

/--
Either nothing changes, or the file is there and nothing else has changed.
-/
theorem replaceFile_spec (hlinks : t.LinkFree) {directory : Path} {bytes : ByteArray}
    {result : Except Error Unit}
    (h : (replaceFile here directory path bytes).runOn t = (result, t')) :
    (∃ e, result = .error e) ∧ t' = t ∨
      result = .ok () ∧ t.get? (directory.location here) = some .directory ∧
        (∃ above name, t.IsPlace here path above name) ∧
        t.holdsDirectory (path.location here) = false ∧
        t' = t.put (path.location here) (.file bytes) := by
  rw [runOn_replaceFile] at h
  split at h
  · next place hlocate =>
    split at h
    · next hopen =>
      dsimp only at h
      rw [erase_eq_self (get?_draft t place)] at h
      split at h
      · next location hlanding =>
        cases h
        rw [landing_put_eq_ok_iff hlinks bytes (get?_draft t place)] at hlanding
        rcases hlanding with ⟨hplace, rfl, hget⟩
        rw [eq_location_of_locate_eq_ok hlinks hlocate] at hopen
        exact .inr ⟨rfl, hopen, hplace, hget, rfl⟩
      · cases h
        exact .inl ⟨⟨_, rfl⟩, rfl⟩
    · cases h
      exact .inl ⟨⟨_, rfl⟩, rfl⟩
  · cases h
    exact .inl ⟨⟨_, rfl⟩, rfl⟩

theorem replaceFile_of_isPlace (hlinks : t.LinkFree) {directory : Path} {bytes : ByteArray}
    (hdirectory : t.isDirectory here directory = true)
    (hopen : t.get? (directory.location here) = some .directory) {above : List String}
    {name : String} (hplace : t.IsPlace here path above name)
    (hget : t.holdsDirectory (path.location here) = false) :
    (replaceFile here directory path bytes).runOn t =
      (.ok (), t.put (path.location here) (.file bytes)) := by
  rw [isDirectory_iff hlinks] at hdirectory
  have hlocate : t.locate .target here directory = .ok (directory.location here) := by
    rw [locate_eq_ok_iff]
    exact ⟨hdirectory.1, walk_of_passable hdirectory.2.1 (by decide)⟩
  have hdraft := get?_draft t (directory.location here)
  have hlanding := (landing_put_eq_ok_iff hlinks bytes hdraft).2 ⟨⟨above, name, hplace⟩, rfl, hget⟩
  rw [runOn_replaceFile, hlocate]
  dsimp only
  rw [if_pos hopen, hlanding]
  dsimp only
  rw [erase_eq_self hdraft]

end GovernanceLock.FileTree
