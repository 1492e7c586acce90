import GovernanceLock.FileTree.Path

/-!
This module contains file trees: the directories, files and symbolic links below a root, each at its
location. `get?_put` says what a change of a tree does to what stands in it.
-/

namespace GovernanceLock

/--
The names of the directories from the root on, and of what stands there.
-/
abbrev Location := List String

/--
What stands at a location. What is closed is there, but nothing is looked up in it or read from it.
-/
inductive FileTree.Node where
  | directory
  | closedDirectory
  | file (bytes : ByteArray)
  | closedFile
  | link (target : String)
  deriving Inhabited

instance : DecidableEq FileTree.Node
  | .directory, .directory | .closedDirectory, .closedDirectory | .closedFile, .closedFile =>
    .isTrue rfl
  | .file a, .file b =>
    match ByteArray.decEq a b with
    | .isTrue h => .isTrue (congrArg FileTree.Node.file h)
    | .isFalse h => .isFalse fun e => h (FileTree.Node.file.inj e)
  | .link a, .link b =>
    if h : a = b then .isTrue (congrArg FileTree.Node.link h)
    else .isFalse fun e => h (FileTree.Node.link.inj e)
  | .directory, .closedDirectory | .directory, .file _ | .directory, .closedFile
  | .directory, .link _ | .closedDirectory, .directory | .closedDirectory, .file _
  | .closedDirectory, .closedFile | .closedDirectory, .link _ | .file _, .directory
  | .file _, .closedDirectory | .file _, .closedFile | .file _, .link _ | .closedFile, .directory
  | .closedFile, .closedDirectory | .closedFile, .file _ | .closedFile, .link _
  | .link _, .directory | .link _, .closedDirectory | .link _, .file _ | .link _, .closedFile =>
    .isFalse fun e => nomatch e

namespace FileTree.Node

def isDirectory : Node → Bool
  | .directory | .closedDirectory => true
  | .file _ | .closedFile | .link _ => false

def isFile : Node → Bool
  | .file _ | .closedFile => true
  | .directory | .closedDirectory | .link _ => false

theorem ne_link_of_isDirectory {n : Node} (h : n.isDirectory = true) (target : String) :
    n ≠ .link target := by
  rintro rfl
  cases h

theorem ne_link_of_isFile {n : Node} (h : n.isFile = true) (target : String) :
    n ≠ .link target := by
  rintro rfl
  cases h

end FileTree.Node

/--
A tree of files, in no particular order. The root is always a directory.
-/
structure FileTree where
  nodes : List (Location × FileTree.Node)
  deriving DecidableEq, Inhabited

namespace FileTree

def find? (location : Location) : List (Location × Node) → Option Node
  | [] => none
  | (l, n) :: rest => if location = l then some n else find? location rest

/--
What stands at a location.
-/
def get? (t : FileTree) (location : Location) : Option Node :=
  if location = [] then some .directory else find? location t.nodes

def holdsDirectory (t : FileTree) (location : Location) : Bool :=
  (t.get? location).any Node.isDirectory

def replace (location : Location) (node : Node) :
    List (Location × Node) → List (Location × Node)
  | [] => [(location, node)]
  | (l, n) :: rest =>
    if location = l then (l, node) :: rest else (l, n) :: replace location node rest

def put (t : FileTree) (location : Location) (node : Node) : FileTree :=
  ⟨replace location node t.nodes⟩

def erase (t : FileTree) (location : Location) : FileTree :=
  ⟨t.nodes.filter (·.1 ≠ location)⟩

def nameIn? (directory location : Location) : Option String :=
  if location.dropLast = directory then location.getLast? else none

def names (t : FileTree) (directory : Location) : List String :=
  t.nodes.filterMap (nameIn? directory ·.1)

theorem find?_replace {location l : Location} {node : Node} {nodes : List (Location × Node)} :
    find? l (replace location node nodes) = if l = location then some node else find? l nodes := by
  induction nodes with
  | nil => simp [replace, find?]
  | cons e rest ih =>
    obtain ⟨k, n⟩ := e
    rw [replace]
    split
    · next h => subst h; simp only [find?]; split <;> rfl
    · next hne =>
      simp only [find?, ih]
      split
      · next h => subst h; rw [if_neg (fun h => hne h.symm)]
      · rfl

theorem get?_put {t : FileTree} {location l : Location} {node : Node} (h : location ≠ []) :
    (t.put location node).get? l = if l = location then some node else t.get? l := by
  rw [get?, put, find?_replace, get?]
  split
  · next hl => subst hl; rw [if_neg (fun e => h e.symm)]
  · rfl

theorem find?_eq_none_iff {location : Location} {nodes : List (Location × Node)} :
    find? location nodes = none ↔ ∀ e ∈ nodes, e.1 ≠ location := by
  induction nodes with
  | nil => simp [find?]
  | cons e nodes ih =>
    rw [find?, List.forall_mem_cons, ← ih]
    split
    · next heq => simp [heq]
    · next hne => simp [Ne.symm hne]

theorem mem_of_find? {location : Location} {node : Node} {nodes : List (Location × Node)}
    (h : find? location nodes = some node) : (location, node) ∈ nodes := by
  induction nodes with
  | nil => cases h
  | cons e nodes ih =>
    rw [find?] at h
    split at h
    · next heq =>
      cases h
      rw [heq]
      exact List.mem_cons_self
    · exact List.mem_cons_of_mem _ (ih h)

theorem holdsDirectory_of_get? {t : FileTree} {location : Location} {n : Node}
    (h : t.get? location = some n) : t.holdsDirectory location = n.isDirectory := by
  unfold holdsDirectory
  rw [h]
  rfl

theorem holdsDirectory_iff {t : FileTree} {location : Location} :
    t.holdsDirectory location = true ↔
      t.get? location = some .directory ∨ t.get? location = some .closedDirectory := by
  unfold holdsDirectory
  rcases t.get? location with _ | _ | _ | _ | _ | _ <;> simp [Node.isDirectory]

theorem ne_none_of_holdsDirectory {t : FileTree} {location : Location}
    (h : t.holdsDirectory location = true) : t.get? location ≠ none := by
  rcases holdsDirectory_iff.1 h with h | h
  all_goals
    rw [h]
    exact nofun

theorem ne_nil_of_get?_eq_none {t : FileTree} {location : Location}
    (h : t.get? location = none) : location ≠ [] := by
  rintro rfl
  cases h

theorem erase_eq_self {t : FileTree} {location : Location} (h : t.get? location = none) :
    t.erase location = t := by
  have hnone : find? location t.nodes = none := by
    unfold get? at h
    split at h
    · cases h
    · exact h
  rw [find?_eq_none_iff] at hnone
  unfold erase
  rw [List.filter_eq_self.2]
  intro e he
  simpa using hnone e he

theorem replace_eq_self {location : Location} {n : Node} {nodes : List (Location × Node)}
    (h : find? location nodes = some n) : replace location n nodes = nodes := by
  induction nodes with
  | nil => cases h
  | cons e nodes ih =>
    rw [find?] at h
    rw [replace]
    split at h
    · next heq =>
      cases h
      rw [if_pos heq]
    · next hne => rw [if_neg hne, ih h]

theorem put_eq_self {t : FileTree} {location : Location} {n : Node} (hroot : location ≠ [])
    (h : t.get? location = some n) : t.put location n = t := by
  unfold get? at h
  rw [if_neg hroot] at h
  unfold put
  rw [replace_eq_self h]

end FileTree

end GovernanceLock
