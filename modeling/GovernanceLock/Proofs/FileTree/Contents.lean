import GovernanceLock.FileTree.Contents
import GovernanceLock.Order.Ascending
import GovernanceLock.Proofs.Except
import GovernanceLock.Proofs.Text.Parts
import Mathlib.Data.Set.Card

/-!
This module contains the statement of which files are collected from a directory: all those that
directories lead to from it, each under the one path that these directories and its name make.
-/

namespace GovernanceLock

namespace FileTree

open Except (bind_eq_ok_iff exists_mapM_eq_ok_iff map_eq_ok_iff mem_iff_of_mapM_eq_ok
  pure_eq_ok_iff throw_ne_ok)

/--
No name in the tree is empty or has a slash in it.
-/
def ProperlyNamed (t : FileTree) : Prop :=
  ∀ location node, t.get? location = some node → ∀ name ∈ location, name ≠ "" ∧ '/' ∉ name.toList

theorem properlyNamed_of_forall {t : FileTree}
    (h : ∀ e ∈ t.nodes, ∀ name ∈ e.1, name ≠ "" ∧ '/' ∉ name.toList) : t.ProperlyNamed := by
  intro location node hget
  unfold get? at hget
  split at hget
  · next hroot =>
    rw [hroot]
    exact nofun
  · exact h _ (mem_of_find? hget)

/--
The names lead from a directory, through directories, to something.
-/
inductive Inside (t : FileTree) : Location → List String → Node → Prop where
  | here {directory : Location} {name : String} {node : Node}
    (h : t.get? (directory ++ [name]) = some node) : Inside t directory [name] node
  | further {directory : Location} {name : String} {names : List String} {node : Node}
    (h : t.holdsDirectory (directory ++ [name]) = true)
    (hinside : Inside t (directory ++ [name]) names node) :
    Inside t directory (name :: names) node

/--
The directory that `path` leads to is open, and so is all that is inside it, but for links. No path
to any of this is too long.
-/
structure Readable (t : FileTree) (directory : Location) (path : Path) : Prop where
  accepted : accept path = .ok ()
  isOpen : t.get? directory ≠ some .closedDirectory
  inside : ∀ names node, Inside t directory names node → (∀ target, node ≠ .link target) →
    accept (path.join ⟨false, names⟩) = .ok () ∧ node ≠ .closedDirectory ∧ node ≠ .closedFile

/--
The names lead from a directory, through real directories, to a file with these bytes.
-/
inductive FileInside (t : FileTree) : Location → List String → ByteArray → Prop where
  | here {directory : Location} {name : String} {bytes : ByteArray}
    (h : t.get? (directory ++ [name]) = some (.file bytes)) : FileInside t directory [name] bytes
  | further {directory : Location} {name : String} {names : List String} {bytes : ByteArray}
    (h : t.get? (directory ++ [name]) = some .directory)
    (hinside : FileInside t (directory ++ [name]) names bytes) :
    FileInside t directory (name :: names) bytes

def pathOf (names : List String) : String :=
  Text.joinTexts "/" names

variable {t : FileTree} {directory : Location} {names : List String} {bytes : ByteArray}

namespace FileInside

theorem ne_nil (h : FileInside t directory names bytes) : names ≠ [] := by
  cases h <;> exact List.cons_ne_nil _ _

theorem get?_eq (h : FileInside t directory names bytes) :
    t.get? (directory ++ names) = some (.file bytes) := by
  induction h with
  | here h => exact h
  | further _ _ ih =>
    rw [List.append_assoc] at ih
    exact ih

theorem bytes_unique {bytes' : ByteArray} (h : FileInside t directory names bytes)
    (h' : FileInside t directory names bytes') : bytes = bytes' := by
  have heq := h.get?_eq
  rw [h'.get?_eq] at heq
  cases heq
  rfl

theorem proper (h : FileInside t directory names bytes) (hnames : t.ProperlyNamed) :
    ∀ name ∈ names, name ≠ "" ∧ '/' ∉ name.toList := by
  intro name hname
  exact hnames _ _ h.get?_eq name (List.mem_append_right _ hname)

end FileInside

theorem pathOf_inj {names' : List String} (hne : names ≠ []) (hne' : names' ≠ [])
    (hslash : ∀ name ∈ names, '/' ∉ name.toList) (hslash' : ∀ name ∈ names', '/' ∉ name.toList)
    (h : pathOf names = pathOf names') : names = names' := by
  have hjoin : Text.join ['/'] (names.map String.toList) =
      Text.join ['/'] (names'.map String.toList) :=
    String.ofList_inj.1 h
  apply List.map_injective_iff.2 fun _ _ => String.toList_injective
  refine Text.join_inj ?_ ?_ ?_ ?_ hjoin
  · simpa using hne
  · simpa using hne'
  · simpa using hslash
  · simpa using hslash'

theorem FileInside.names_unique {names' : List String} {bytes' : ByteArray}
    (hnames : t.ProperlyNamed) (h : FileInside t directory names bytes)
    (h' : FileInside t directory names' bytes') (hpath : pathOf names = pathOf names') :
    names = names' :=
  pathOf_inj h.ne_nil h'.ne_nil (fun name hname => (h.proper hnames name hname).2)
    (fun name hname => (h'.proper hnames name hname).2) hpath

theorem mem_names_iff {name : String} :
    name ∈ t.names directory ↔ ∃ node, t.get? (directory ++ [name]) = some node := by
  unfold names
  rw [List.mem_filterMap]
  constructor
  · rintro ⟨⟨location, node⟩, hmem, hname⟩
    unfold nameIn? at hname
    dsimp only at hname
    split at hname
    · next hdirectory =>
      have hlocation : location = directory ++ [name] := by
        rw [← hdirectory]
        exact (List.dropLast_append_getLast? _ hname).symm
      subst hlocation
      rw [← Option.isSome_iff_exists, Option.isSome_iff_ne_none]
      unfold get?
      rw [if_neg (by simp), ne_eq, find?_eq_none_iff]
      intro hnone
      exact hnone _ hmem rfl
    · cases hname
  · rintro ⟨node, hget⟩
    unfold get? at hget
    rw [if_neg (by simp)] at hget
    refine ⟨_, mem_of_find? hget, ?_⟩
    simp [nameIn?]

def extend (above name : String) : String :=
  if above.isEmpty then name else above ++ "/" ++ name

theorem extend_pathOf {passed : List String} (hpassed : ∀ name ∈ passed, name ≠ "")
    (name : String) : extend (pathOf passed) name = pathOf (passed ++ [name]) := by
  unfold extend pathOf
  cases passed with
  | nil => simp [Text.joinTexts, Text.join]
  | cons first rest =>
    rw [if_neg, Text.joinTexts_concat (List.cons_ne_nil _ _)]
    rw [String.isEmpty_iff]
    have hfirst : first.toList ≠ [] := by
      simpa using hpassed first (List.mem_cons_self ..)
    unfold Text.joinTexts
    rw [String.ofList_eq_empty_iff]
    cases rest with
    | nil => simpa [Text.join] using hfirst
    | cons next rest => simp [Text.join_cons_cons, hfirst]

theorem join_join (path : Path) {name : String} (h : name ≠ "") (names : List String) :
    (path.join ⟨false, [name]⟩).join ⟨false, names⟩ = path.join ⟨false, name :: names⟩ := by
  simp [Path.join, h]

theorem fileInside_cons_iff {name : String} :
    FileInside t directory (name :: names) bytes ↔
      (t.get? (directory ++ [name]) = some .directory ∧
        FileInside t (directory ++ [name]) names bytes) ∨
      (t.get? (directory ++ [name]) = some (.file bytes) ∧ names = []) := by
  constructor
  · intro h
    cases h with
    | here h => exact .inr ⟨h, rfl⟩
    | further h hinside => exact .inl ⟨h, hinside⟩
  · rintro (⟨h, hinside⟩ | ⟨h, rfl⟩)
    · exact .further h hinside
    · exact .here h

variable {path : Path} {above : String} {found : List (String × String)}

theorem induction_inside {motive : Location → Prop} (t : FileTree)
    (h : ∀ directory, (∀ name, t.holdsDirectory (directory ++ [name]) = true →
      motive (directory ++ [name])) → motive directory) (directory : Location) :
    motive directory := by
  generalize hn : (t.inside directory).length = n
  induction n using Nat.strongRecOn generalizing directory with
  | ind n ih =>
    apply h
    intro name hget
    unfold holdsDirectory at hget
    rw [Option.any_eq_true] at hget
    rcases hget with ⟨node, hget, _⟩
    exact ih _ (hn ▸ inside_length_lt hget) _ rfl

theorem readable_iff (hnames : t.ProperlyNamed) :
    t.Readable directory path ↔
      accept path = .ok () ∧ t.get? directory ≠ some .closedDirectory ∧
        ∀ name node, t.get? (directory ++ [name]) = some node →
          (node.isDirectory = true →
            t.Readable (directory ++ [name]) (path.join ⟨false, [name]⟩)) ∧
          (node.isFile = true →
            accept (path.join ⟨false, [name]⟩) = .ok () ∧ node ≠ .closedFile) := by
  constructor
  · rintro ⟨haccepted, hopen, hinside⟩
    refine ⟨haccepted, hopen, ?_⟩
    intro name node hget
    have hname := (hnames _ _ hget name (by simp)).1
    constructor
    · intro hnode
      have htop := hinside [name] node (.here hget) (Node.ne_link_of_isDirectory hnode)
      refine ⟨htop.1, ?_, ?_⟩
      · rw [hget]
        simpa using htop.2.1
      · intro names node' hinside' hlink
        rw [join_join path hname]
        refine hinside _ _ (.further ?_ hinside') hlink
        rw [holdsDirectory_of_get? hget, hnode]
    · intro hnode
      have htop := hinside [name] node (.here hget) (Node.ne_link_of_isFile hnode)
      exact ⟨htop.1, htop.2.2⟩
  · rintro ⟨haccepted, hopen, hentries⟩
    refine ⟨haccepted, hopen, ?_⟩
    intro names node hinside hlink
    cases hinside with
    | @here _ name _ hget =>
      rcases hentries _ _ hget with ⟨hdirectory, hfile⟩
      cases node with
      | directory => exact ⟨(hdirectory rfl).accepted, by simp, by simp⟩
      | closedDirectory => exact absurd hget (hdirectory rfl).isOpen
      | file => exact ⟨(hfile rfl).1, by simp, by simp⟩
      | closedFile => exact absurd rfl (hfile rfl).2
      | link target => exact absurd rfl (hlink target)
    | @further _ name names _ hget hinside =>
      unfold holdsDirectory at hget
      rw [Option.any_eq_true] at hget
      rcases hget with ⟨inner, hget, hinner⟩
      have hname := (hnames _ _ hget name (by simp)).1
      rw [← join_join path hname]
      exact ((hentries _ _ hget).1 hinner).inside _ _ hinside hlink

theorem collect_eq_ok_iff :
    t.collect directory path above = .ok found ↔
      accept path = .ok () ∧ t.get? directory ≠ some .closedDirectory ∧
        ∃ lists, (t.names directory).mapM (t.collectAt directory path above) = .ok lists ∧
          lists.flatten = found := by
  rw [collect]
  simp only [bind_eq_ok_iff]
  constructor
  · rintro ⟨_, haccepted, h⟩
    refine ⟨haccepted, ?_⟩
    split at h
    · cases h
    · next hopen =>
      rw [bind_eq_ok_iff] at h
      rcases h with ⟨lists, hlists, h⟩
      exact ⟨hopen, lists, hlists, pure_eq_ok_iff.1 h⟩
  · rintro ⟨haccepted, hopen, lists, hlists, rfl⟩
    refine ⟨(), haccepted, ?_⟩
    rw [if_neg hopen]
    exact bind_eq_ok_iff.2 ⟨lists, hlists, rfl⟩

theorem collectAt_eq_ok_iff {name : String} :
    t.collectAt directory path above name = .ok found ↔
      (t.holdsDirectory (directory ++ [name]) = true ∧
        t.collect (directory ++ [name]) (path.join ⟨false, [name]⟩) (extend above name)
          = .ok found) ∨
      (∃ bytes, t.get? (directory ++ [name]) = some (.file bytes) ∧
        accept (path.join ⟨false, [name]⟩) = .ok () ∧
        [(extend above name, Text.decodeLossy bytes)] = found) ∨
      ((∀ node, t.get? (directory ++ [name]) = some node → ∃ target, node = .link target) ∧
        [] = found) := by
  have hholds : t.holdsDirectory (directory ++ [name]) =
    (t.get? (directory ++ [name])).any Node.isDirectory := rfl
  rw [collectAt, hholds]
  split
  · next h => simp [h, Node.isDirectory, extend]
  · next h => simp [h, Node.isDirectory, extend]
  · next h =>
    rw [bind_eq_ok_iff]
    simp [h, Node.isDirectory, pure_eq_ok_iff, extend, Unique.exists_iff]
  · next h => simp [h, Node.isDirectory, bind_eq_ok_iff, throw_ne_ok]
  · next h => simp [h, Node.isDirectory, pure_eq_ok_iff]
  · next h => simp [h, pure_eq_ok_iff]

/--
The files are collected iff everything inside the directory can be read.
-/
theorem exists_collect_iff (hnames : t.ProperlyNamed) :
    (∃ found, t.collect directory path above = .ok found) ↔ t.Readable directory path := by
  induction directory using induction_inside t generalizing path above with
  | h directory ih =>
    have hcollect : (∃ found, t.collect directory path above = .ok found) ↔
        accept path = .ok () ∧ t.get? directory ≠ some .closedDirectory ∧
          ∀ name ∈ t.names directory, ∃ list, t.collectAt directory path above name = .ok list := by
      simp only [collect_eq_ok_iff, exists_and_left]
      rw [← exists_mapM_eq_ok_iff]
      simp
    rw [hcollect, readable_iff hnames]
    refine and_congr_right fun _ => and_congr_right fun _ => ?_
    refine forall_congr' fun name => ?_
    rw [mem_names_iff, forall_exists_index]
    refine forall_congr' fun node => forall_congr' fun hget => ?_
    have ih := ih name
    rw [holdsDirectory_of_get? hget] at ih
    simp only [collectAt_eq_ok_iff, exists_or, exists_and_left, holdsDirectory_of_get? hget, hget]
    cases node with
    | directory => simp [Node.isDirectory, Node.isFile, ih rfl]
    | closedDirectory => simp [Node.isDirectory, Node.isFile, ih rfl]
    | file => simp [Node.isDirectory, Node.isFile]
    | closedFile => simp [Node.isDirectory, Node.isFile]
    | link => simp [Node.isDirectory, Node.isFile]

theorem mem_collect_iff_of_names {e : String × String}
    (h : t.collect directory path above = .ok found) :
    e ∈ found ↔
      ∃ name,
        (t.get? (directory ++ [name]) = some .directory ∧
          ∃ inner, t.collect (directory ++ [name]) (path.join ⟨false, [name]⟩) (extend above name)
            = .ok inner ∧ e ∈ inner) ∨
        ∃ bytes, t.get? (directory ++ [name]) = some (.file bytes) ∧
          e = (extend above name, Text.decodeLossy bytes) := by
  rcases collect_eq_ok_iff.1 h with ⟨_, _, lists, hlists, rfl⟩
  have hall := exists_mapM_eq_ok_iff.1 ⟨_, hlists⟩
  simp only [List.mem_flatten, mem_iff_of_mapM_eq_ok hlists, collectAt_eq_ok_iff]
  constructor
  · rintro ⟨list, ⟨name, _, ⟨hdirectory, hlist⟩ | ⟨bytes, hget, _, rfl⟩ | ⟨_, rfl⟩⟩, he⟩
    · refine ⟨name, .inl ⟨?_, list, hlist, he⟩⟩
      exact (holdsDirectory_iff.1 hdirectory).resolve_right (collect_eq_ok_iff.1 hlist).2.1
    · exact ⟨name, .inr ⟨bytes, hget, List.mem_singleton.1 he⟩⟩
    · cases he
  · rintro ⟨name, ⟨hget, inner, hinner, he⟩ | ⟨bytes, hget, rfl⟩⟩
    · refine ⟨inner, ⟨name, mem_names_iff.2 ⟨_, hget⟩, .inl ⟨?_, hinner⟩⟩, he⟩
      rw [holdsDirectory_of_get? hget]
      rfl
    · have hname := mem_names_iff.2 ⟨_, hget⟩
      rcases hall name hname with ⟨list, hlist⟩
      rcases collectAt_eq_ok_iff.1 hlist with ⟨hdirectory, _⟩ | ⟨_, _, haccepted, _⟩ | ⟨hlink, _⟩
      · rw [holdsDirectory_of_get? hget] at hdirectory
        cases hdirectory
      · refine ⟨_, ⟨name, hname, .inr (.inl ⟨bytes, hget, haccepted, rfl⟩)⟩, ?_⟩
        exact List.mem_singleton.2 rfl
      · rcases hlink _ hget with ⟨_, hlink⟩
        cases hlink

theorem exists_fileInside_of_mem_collect (hnames : t.ProperlyNamed) {key text : String}
    (passed : List String) (hpassed : ∀ name ∈ passed, name ≠ "")
    (h : t.collect directory path (pathOf passed) = .ok found) (hmem : (key, text) ∈ found) :
    ∃ names bytes, FileInside t directory names bytes ∧ key = pathOf (passed ++ names) ∧
      text = Text.decodeLossy bytes := by
  induction directory using induction_inside t generalizing path passed found with
  | h directory ih =>
    rcases (mem_collect_iff_of_names h).1 hmem with
      ⟨name, ⟨hget, inner, hinner, hmem⟩ | ⟨bytes, hget, heq⟩⟩
    · have hname := (hnames _ _ hget name (by simp)).1
      have hpassed' : ∀ name' ∈ passed ++ [name], name' ≠ "" := by
        rw [List.forall_mem_append, List.forall_mem_singleton]
        exact ⟨hpassed, hname⟩
      have hdirectory : t.holdsDirectory (directory ++ [name]) = true := by
        rw [holdsDirectory_of_get? hget]
        rfl
      rw [extend_pathOf hpassed] at hinner
      rcases ih name hdirectory _ hpassed' hinner hmem with ⟨names, bytes, hinside, hkey, htext⟩
      rw [List.append_assoc] at hkey
      exact ⟨name :: names, bytes, .further hget hinside, hkey, htext⟩
    · cases heq
      exact ⟨[name], bytes, .here hget, extend_pathOf hpassed name, rfl⟩

theorem FileInside.mem_collect (hnames : t.ProperlyNamed)
    (hinside : FileInside t directory names bytes) (passed : List String)
    (hpassed : ∀ name ∈ passed, name ≠ "")
    (h : t.collect directory path (pathOf passed) = .ok found) :
    (pathOf (passed ++ names), Text.decodeLossy bytes) ∈ found := by
  induction hinside generalizing path passed found with
  | @here directory name bytes hget =>
    rw [mem_collect_iff_of_names h]
    exact ⟨name, .inr ⟨bytes, hget, by rw [extend_pathOf hpassed]⟩⟩
  | @further directory name names bytes hget hinside ih =>
    have hname := (hnames _ _ hget name (by simp)).1
    have hpassed' : ∀ name' ∈ passed ++ [name], name' ≠ "" := by
      rw [List.forall_mem_append, List.forall_mem_singleton]
      exact ⟨hpassed, hname⟩
    have hreadable : t.Readable directory path := (exists_collect_iff hnames).1 ⟨_, h⟩
    have hfurther := (((readable_iff hnames).1 hreadable).2.2 _ _ hget).1 rfl
    have hexists : ∃ inner, t.collect (directory ++ [name]) (path.join ⟨false, [name]⟩)
        (pathOf (passed ++ [name])) = .ok inner := (exists_collect_iff hnames).2 hfurther
    rcases hexists with ⟨inner, hinner⟩
    have hmem := ih _ hpassed' hinner
    rw [mem_collect_iff_of_names h]
    refine ⟨name, .inl ⟨hget, inner, ?_, ?_⟩⟩
    · rw [extend_pathOf hpassed]
      exact hinner
    · rw [List.append_assoc, List.singleton_append] at hmem
      exact hmem

variable {texts : KeyMap String}

theorem texts_eq_ok_iff :
    t.texts directory path = .ok texts ↔
      ∃ found, t.collect directory path "" = .ok found ∧ KeyMap.ofList found = texts := by
  unfold FileTree.texts
  rw [map_eq_ok_iff]

theorem exists_texts_iff (hnames : t.ProperlyNamed) :
    (∃ texts, t.texts directory path = .ok texts) ↔ t.Readable directory path := by
  have hcollect : (∃ found, t.collect directory path "" = .ok found) ↔ t.Readable directory path :=
    exists_collect_iff hnames
  rw [← hcollect]
  simp [texts_eq_ok_iff]

theorem get?_texts_eq_some_iff (hnames : t.ProperlyNamed)
    (h : t.texts directory path = .ok texts) {key text : String} :
    texts.get? key = some text ↔
      ∃ names bytes, FileInside t directory names bytes ∧ key = pathOf names ∧
        text = Text.decodeLossy bytes := by
  rcases texts_eq_ok_iff.1 h with ⟨found, hfound, rfl⟩
  have hmem : ∀ {key text}, (key, text) ∈ found ↔
      ∃ names bytes, FileInside t directory names bytes ∧ key = pathOf names ∧
        text = Text.decodeLossy bytes := by
    intro key text
    constructor
    · exact exists_fileInside_of_mem_collect hnames [] nofun hfound
    · rintro ⟨names, bytes, hinside, rfl, rfl⟩
      exact hinside.mem_collect hnames [] nofun hfound
  rw [KeyMap.get?_ofList_eq_some_iff, hmem]
  intro key text text' h h'
  rw [hmem] at h h'
  rcases h with ⟨names, bytes, hinside, rfl, rfl⟩
  rcases h' with ⟨names', bytes', hinside', hkey, rfl⟩
  obtain rfl := hinside.names_unique hnames hinside' hkey
  rw [hinside.bytes_unique hinside']

def filesInside (t : FileTree) (directory : Location) : Set (List String) :=
  {names | ∃ bytes, FileInside t directory names bytes}

theorem injOn_pathOf (hnames : t.ProperlyNamed) : Set.InjOn pathOf (t.filesInside directory) := by
  rintro names ⟨bytes, hinside⟩ names' ⟨bytes', hinside'⟩ hpath
  exact hinside.names_unique hnames hinside' hpath

theorem image_pathOf_filesInside (hnames : t.ProperlyNamed)
    (h : t.texts directory path = .ok texts) :
    pathOf '' t.filesInside directory = texts.keys.toFinset := by
  ext key
  simp only [Set.mem_image, List.coe_toFinset, Set.mem_ofPred_eq, KeyMap.mem_keys_iff,
    Option.isSome_iff_exists, get?_texts_eq_some_iff hnames h]
  constructor
  · rintro ⟨names, ⟨bytes, hinside⟩, rfl⟩
    exact ⟨_, names, bytes, hinside, rfl, rfl⟩
  · rintro ⟨_, names, bytes, hinside, rfl, rfl⟩
    exact ⟨names, ⟨bytes, hinside⟩, rfl⟩

theorem finite_filesInside (hnames : t.ProperlyNamed)
    (h : t.texts directory path = .ok texts) : (t.filesInside directory).Finite := by
  apply Set.Finite.of_finite_image _ (injOn_pathOf hnames)
  rw [image_pathOf_filesInside hnames h]
  exact Finset.finite_toSet _

theorem ncard_filesInside (hnames : t.ProperlyNamed)
    (h : t.texts directory path = .ok texts) :
    (t.filesInside directory).ncard = texts.entries.length := by
  have hnodup : texts.keys.Nodup := Ascending.nodup texts.keys_ascending
  rw [← (injOn_pathOf hnames).ncard_image, image_pathOf_filesInside hnames h, Set.ncard_coe_finset,
    List.toFinset_card_of_nodup hnodup]
  exact List.length_map _

section

variable {t' : FileTree} (hsame : ∀ location, t'.get? location = t.get? location)

include hsame

theorem ProperlyNamed.congr (hnames : t.ProperlyNamed) : t'.ProperlyNamed := by
  intro location node hget
  rw [hsame] at hget
  exact hnames location node hget

theorem fileInside_congr :
    FileInside t' directory names bytes ↔ FileInside t directory names bytes := by
  induction names generalizing directory with
  | nil => exact ⟨fun h => absurd rfl h.ne_nil, fun h => absurd rfl h.ne_nil⟩
  | cons name names ih => rw [fileInside_cons_iff, fileInside_cons_iff, hsame, ih]

theorem readable_congr (hnames : t.ProperlyNamed) :
    t'.Readable directory path ↔ t.Readable directory path := by
  have hnames' := hnames.congr hsame
  induction directory using induction_inside t generalizing path with
  | h directory ih =>
    rw [readable_iff hnames, readable_iff hnames', hsame]
    refine and_congr_right fun _ => and_congr_right fun _ => ?_
    refine forall_congr' fun name => forall_congr' fun node => ?_
    rw [hsame]
    refine forall_congr' fun hget => and_congr_left fun _ => forall_congr' fun hnode => ?_
    apply ih
    rw [holdsDirectory_of_get? hget, hnode]

theorem texts_congr (hnames : t.ProperlyNamed) (h : t.texts directory path = .ok texts) :
    t'.texts directory path = .ok texts := by
  have hnames' := hnames.congr hsame
  have hreadable := (exists_texts_iff hnames).1 ⟨_, h⟩
  rcases (exists_texts_iff hnames').2 ((readable_congr hsame hnames).2 hreadable) with
    ⟨texts', h'⟩
  rw [h']
  congr 1
  apply KeyMap.ext_get?
  intro key
  ext text
  rw [get?_texts_eq_some_iff hnames h, get?_texts_eq_some_iff hnames' h']
  simp only [fileInside_congr hsame]

end

end FileTree

end GovernanceLock
