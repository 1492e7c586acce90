import GovernanceLock.Proofs.FileTree.Links
import GovernanceLock.Proofs.FileTree.Spelling

/-!
This module contains the proof that guards keep locks apart: the guard of a lock file stands beside
it, under a name that tells the lock, so that two lock files have one guard iff they are one file.
-/

namespace GovernanceLock.Guard

variable {lock other : Path} {name otherName : String}

theorem append_ne (name : String) : name ++ ".guard" ≠ name := by
  intro h
  have hlength := congrArg String.length h
  rw [String.length_append] at hlength
  exact absurd hlength (by simp)

theorem exists_path_eq (h : lock.fileName? = some name) :
    ∃ parent, lock.parent? = some parent ∧
      path lock = ⟨parent.rooted, parent.pieces ++ [name ++ ".guard"]⟩ := by
  rcases Path.exists_parent? h with ⟨parent, hparent, _⟩
  have hlast : parent.pieces.getLast? ≠ some "" := by
    rw [← Path.core_of_parent? hparent]
    rcases parent.core_cases with ⟨hcore, _⟩ | ⟨hcore, _⟩ | ⟨above, last, hcore, hidle⟩
    · simp [hcore]
    · simp [hcore]
    · rw [hcore, List.getLast?_concat]
      rintro ⟨⟩
      cases hidle
  refine ⟨parent, hparent, ?_⟩
  unfold path Path.withFileName
  rw [h, hparent, Option.isSome_some, if_pos rfl, Option.getD_some, Option.getD_some]
  unfold Path.join
  rw [if_neg Bool.false_ne_true, if_neg hlast]

theorem parent?_path (h : lock.fileName? = some name) : (path lock).parent? = lock.parent? := by
  rcases exists_path_eq h with ⟨parent, hparent, hpath⟩
  have hcore : Path.core ⟨parent.rooted, parent.pieces⟩ = parent.pieces :=
    Path.core_of_parent? hparent
  rw [hparent, hpath, Path.parent?_of_isName (isName_append name), hcore]

theorem fileName?_path (h : lock.fileName? = some name) :
    (path lock).fileName? = some (name ++ ".guard") := by
  rcases exists_path_eq h with ⟨parent, _, hpath⟩
  rw [hpath, Path.fileName?_of_isName (isName_append name)]

theorem exists_directory (h : lock.fileName? = some name) :
    ∃ directory : Path,
      (lock.components = directory.components ++ [.name name] ∧
        (path lock).components = directory.components ++ [.name (name ++ ".guard")]) ∧
      ∀ here, lock.location here = directory.location here ++ [name] ∧
        (path lock).location here = directory.location here ++ [name ++ ".guard"] := by
  rcases Path.exists_parent? h with ⟨parent, hparent, hcomponents, hlocation⟩
  rcases Path.exists_parent? (fileName?_path h) with ⟨parent', hparent', hcomponents', hlocation'⟩
  rw [parent?_path h, hparent] at hparent'
  cases hparent'
  exact ⟨parent, ⟨hcomponents, hcomponents'⟩, fun here => ⟨hlocation here, hlocation' here⟩⟩

theorem components_path_ne (h : lock.fileName? = some name) :
    (path lock).components ≠ lock.components := by
  rcases exists_directory h with ⟨directory, ⟨hlock, hpath⟩, _⟩
  rw [hlock, hpath, ne_eq, List.append_singleton_inj, not_and]
  intro _ hname
  exact append_ne name (Path.Component.name.inj hname)

theorem location_path_ne (h : lock.fileName? = some name) (here : Location) :
    (path lock).location here ≠ lock.location here := by
  rcases exists_directory h with ⟨directory, _, hlocation⟩
  rw [(hlocation here).1, (hlocation here).2, ne_eq, List.append_singleton_inj, not_and]
  intro _
  exact append_ne name

theorem components_path_eq_iff (h : lock.fileName? = some name)
    (hother : other.fileName? = some otherName) :
    (path lock).components = (path other).components ↔ lock.components = other.components := by
  rcases exists_directory h with ⟨directory, ⟨hlock, hpath⟩, _⟩
  rcases exists_directory hother with ⟨directory', ⟨hlock', hpath'⟩, _⟩
  rw [hlock, hpath, hlock', hpath', List.append_singleton_inj, List.append_singleton_inj,
    Path.Component.name.injEq, Path.Component.name.injEq, String.append_left_inj]

theorem ofString_toString_path {text : String} (h : (Path.ofString text).fileName? = some name) :
    Path.ofString (path (.ofString text)).toString = path (.ofString text) := by
  rcases exists_path_eq h with ⟨parent, hparent, hpath⟩
  rcases Path.parent?_isPrefix hparent with ⟨hrooted, hbegins⟩
  have hname : name ∈ (Path.ofString text).pieces := by
    rcases Path.fileName?_eq_some_iff_core.1 h with ⟨_, above, hcore⟩
    apply (Path.core_isPrefix _).subset
    rw [hcore]
    exact List.mem_concat_self
  have htext : text ≠ "" := by
    rintro rfl
    cases h
  rw [hpath]
  apply Path.ofString_toString
  · simp
  · intro piece hpiece
    rcases List.mem_append.1 hpiece with hpiece | hpiece
    · exact Path.slash_notMem_of_mem_pieces (hbegins.subset hpiece)
    · rw [List.mem_singleton.1 hpiece, String.toList_append, List.mem_append, not_or]
      exact ⟨Path.slash_notMem_of_mem_pieces hname, by decide⟩
  · rw [hrooted]
    refine (Path.rooted_or_head?_ne htext).imp_right fun hhead => ?_
    rcases hbegins with ⟨rest, hrest⟩
    cases hpieces : parent.pieces with
    | nil => simp [(isName_append name).ne_empty]
    | cons piece above =>
      rw [hpieces, List.cons_append] at hrest
      rw [← hrest] at hhead
      exact hhead

variable {t : FileTree} {purpose : FileTree.Purpose} {here location location' : Location}

theorem locate_path_eq (h : lock.fileName? = some name) (hother : other.fileName? = some otherName)
    (hsame : lock.components = other.components)
    (hlocate : t.locate purpose here (path lock) = .ok location)
    (hlocate' : t.locate purpose here (path other) = .ok location') : location = location' := by
  rcases exists_path_eq h with ⟨parent, _, hpath⟩
  rcases exists_path_eq hother with ⟨parent', _, hpath'⟩
  have hguards := (components_path_eq_iff h hother).2 hsame
  exact FileTree.locate_unique hguards (congrArg Path.pieces hpath) (isName_append name)
    (congrArg Path.pieces hpath') (isName_append otherName) hlocate hlocate'

theorem exists_of_locate_path (h : lock.fileName? = some name)
    (hlinks : purpose = .place ∨ t.LinkFree)
    (hlocate : t.locate purpose here (path lock) = .ok location) :
    ∃ directory, location = directory ++ [name ++ ".guard"] := by
  rcases hlinks with rfl | hlinks
  · rcases exists_path_eq h with ⟨parent, _, hpath⟩
    have hwalk := (FileTree.locate_eq_ok_iff.1 hlocate).2
    rw [hpath] at hwalk
    exact FileTree.exists_of_walk_place (isName_append name) _ hwalk
  · rcases exists_directory h with ⟨directory, _, hlocation⟩
    rw [FileTree.eq_location_of_locate_eq_ok hlinks hlocate, (hlocation here).2]
    exact ⟨_, rfl⟩

/--
The guard of a lock file has its parent, and its name with `.guard` behind it; it is never the lock
file itself. Two lock files have one guard iff they are one path, which their texts say iff they
differ in nothing but what is redundant. The guards of one lock file lead to one place, whatever
links stand in a tree; those of lock files with different names stand in different places, and lead
to them unless links stand there.
-/
theorem guards_separate_locks (hlock : lock.fileName? = some name)
    (hother : other.fileName? = some otherName) :
    (path lock).parent? = lock.parent? ∧
      (path lock).fileName? = some (name ++ ".guard") ∧
      (path lock).components ≠ lock.components ∧
      ((path lock).components = (path other).components ↔ lock.components = other.components) ∧
      (∀ text otherText, lock = .ofString text → other = .ofString otherText →
        Path.ofString (path lock).toString = path lock ∧
          (lock.components = other.components ↔ Path.Respelled text otherText)) ∧
      ∀ (t : FileTree) purpose here location location',
        t.locate purpose here (path lock) = .ok location →
        t.locate purpose here (path other) = .ok location' →
        (lock.components = other.components → location = location') ∧
          (purpose = .place ∨ t.LinkFree → name ≠ otherName → location ≠ location') := by
  refine ⟨parent?_path hlock, fileName?_path hlock, components_path_ne hlock,
    components_path_eq_iff hlock hother, ?_, ?_⟩
  · rintro text otherText rfl rfl
    exact ⟨ofString_toString_path hlock, Path.components_eq_iff_respelled⟩
  · intro t purpose here location location' hlocate hlocate'
    refine ⟨fun hsame => locate_path_eq hlock hother hsame hlocate hlocate', ?_⟩
    rintro hlinks hne rfl
    rcases exists_of_locate_path hlock hlinks hlocate with ⟨directory, rfl⟩
    rcases exists_of_locate_path hother hlinks hlocate' with ⟨directory', heq⟩
    rw [List.append_singleton_inj, String.append_left_inj] at heq
    exact hne heq.2

section

/-!
A lock file that is called what guards are called, named with slashes and points to spare, and the
lock file whose guard it would be, in a directory behind a link.
-/

def looseText : String := "srv//packs/./lock.guard/"

def tightText : String := "srv/packs/lock.guard"

def innerText : String := "srv/packs/lock"

def linkedTree : FileTree :=
  ⟨[(["data"], .directory), (["data", "packs"], .directory), (["srv"], .link "/data")]⟩

theorem linkedTree_walk :
    linkedTree.walk .place FileTree.linkLimit [] ["srv", "packs", "lock.guard.guard"]
      = .ok ["data", "packs", "lock.guard.guard"] := by
  have htarget : Path.ofString "/data" = ⟨true, ["data"]⟩ := by decide
  simp [FileTree.walk, linkedTree, FileTree.get?, FileTree.find?, Path.isIdle, FileTree.linkLimit,
    FileTree.Purpose.endsBefore, htarget, FileTree.nameLimit]
  rfl

theorem linkedTree_locate :
    linkedTree.locate .place [] (path (.ofString looseText))
      = .ok ["data", "packs", "lock.guard.guard"] := by
  have hpath : path (.ofString looseText) = ⟨false, ["srv", "", "packs", "lock.guard.guard"]⟩ := by
    decide
  have hfilter : linkedTree.walk .place FileTree.linkLimit []
      ["srv", "", "packs", "lock.guard.guard"]
        = linkedTree.walk .place FileTree.linkLimit [] ["srv", "packs", "lock.guard.guard"] :=
    FileTree.walk_filter (isName_append "lock.guard") ["srv", "", "packs"]
  rw [hpath, FileTree.locate_eq_ok_iff]
  exact ⟨rfl, hfilter.trans linkedTree_walk⟩

theorem looseText_guards_separate_locks :
    (Path.ofString looseText).fileName? = some "lock.guard" ∧
      (Path.ofString tightText).fileName? = some "lock.guard" ∧
      (Path.ofString innerText).fileName? = some "lock" ∧
      (path (.ofString looseText)).components = (path (.ofString tightText)).components ∧
      Path.Respelled looseText tightText ∧
      path (.ofString innerText) = .ofString tightText ∧
      (path (.ofString innerText)).components ≠ (path (.ofString looseText)).components ∧
      linkedTree.locate .place [] (path (.ofString looseText))
        = .ok ["data", "packs", "lock.guard.guard"] ∧
      ∀ location, linkedTree.locate .place [] (path (.ofString tightText)) = .ok location →
        location = ["data", "packs", "lock.guard.guard"] := by
  have hloose : (Path.ofString looseText).fileName? = some "lock.guard" := by decide
  have htight : (Path.ofString tightText).fileName? = some "lock.guard" := by decide
  have hinner : (Path.ofString innerText).fileName? = some "lock" := by decide
  have hsame : (Path.ofString looseText).components = (Path.ofString tightText).components := by
    decide
  have hne : (Path.ofString innerText).components ≠ (Path.ofString looseText).components := by
    decide
  rcases guards_separate_locks hloose htight with ⟨_, _, _, hguards, htexts, hplaces⟩
  rcases guards_separate_locks hinner hloose with ⟨_, _, _, hguards', _⟩
  refine ⟨hloose, htight, hinner, hguards.2 hsame, (htexts _ _ rfl rfl).2.1 hsame, by decide,
    fun h => hne (hguards'.1 h), linkedTree_locate, ?_⟩
  intro location hlocate
  exact ((hplaces _ _ _ _ _ linkedTree_locate hlocate).1 hsame).symm

end

end GovernanceLock.Guard
