import GovernanceLock.Proofs.FileTree.Replace
import GovernanceLock.Proofs.Lock.Guard
import GovernanceLock.Proofs.Request.Isolation
import GovernanceLock.Request.Write

/-!
This module contains the proof that a lock is written as a whole or not at all: a request without an
outcome leaves the tree alone, a failure on the way leaves at most directories and an empty guard
behind, and a success is final, so that writing once more changes nothing.
-/

namespace GovernanceLock

open FileTree (Grows GrowsAt IsAbove IsNewFile Opens)
open FileTree.Action (runOn_bind runOn_mapError)

variable {t t' : FileTree} {here : Location} {path : Path}

/--
What may be new beside a lock file: directories on the way to it, and its guard while it is empty.
-/
def Lock.IsBeside (here : Location) (path : Path) (location : Location) (n : FileTree.Node) :
    Prop :=
  IsAbove here path location n ∨ IsNewFile here (Guard.path path) location n

theorem Lock.IsBeside.opens : Opens (Lock.IsBeside here path) := by
  rintro location n (h | h)
  · exact IsAbove.opens location n h
  · exact IsNewFile.opens location n h

namespace Guard

/--
The guard of a lock file is there, and the directories above it are.
-/
structure Stands (t : FileTree) (here : Location) (path : Path) : Prop where
  provided : t.Provided here ((Guard.path path).parent?.getD .empty)
  place : ∃ above name, t.IsPlace here (Guard.path path) above name
  file : ∃ bytes, t.get? ((Guard.path path).location here) = some (.file bytes)

theorem isAbove_of_parent {location : Location} {n : FileTree.Node}
    (h : IsAbove here ((Guard.path path).parent?.getD .empty) location n) :
    IsAbove here path location n := by
  rcases path_eq path with ⟨above, hbegins, heq⟩
  rw [heq, Path.parent?_of_isName (isName_append _), Option.getD_some] at h
  have hparent := (Path.core_isPrefix ⟨path.rooted, above⟩).trans hbegins
  apply h.of_isPrefix _ hparent
  rfl

theorem acquire_spec (hlinks : t.LinkFree) {result : Except FileTree.Error Unit}
    (h : (acquire here path).runOn t = (result, t')) :
    Grows (Lock.IsBeside here path) t t' ∧ (result = .ok () → Stands t' here path) := by
  unfold acquire at h
  rw [runOn_bind] at h
  rcases hmake : (FileTree.makeDirectories here
    ((Guard.path path).parent?.getD .empty)).runOn t with ⟨r, t₁⟩
  rw [hmake] at h
  rcases FileTree.makeDirectories_spec hlinks hmake with ⟨hgrows, hprovided⟩
  have hgrows : Grows (Lock.IsBeside here path) t t₁ :=
    hgrows.mono fun _ _ _ h => .inl (isAbove_of_parent h)
  have hlinks₁ := hgrows.linkFree hlinks Lock.IsBeside.opens
  cases r with
  | error e =>
    cases h
    exact ⟨hgrows, by simp⟩
  | ok =>
    dsimp only at h
    rcases path_eq path with ⟨above, _, heq⟩
    rcases FileTree.ensureFile_spec hlinks₁ (congrArg Path.pieces heq) (isName_append _) h with
      ⟨hgrows₁, hfile⟩
    have hgrows₁ : Grows (Lock.IsBeside here path) t₁ t' := hgrows₁.mono fun _ _ _ h => .inr h
    have hlinks' := hgrows₁.linkFree hlinks₁ Lock.IsBeside.opens
    refine ⟨hgrows.trans hgrows₁, ?_⟩
    intro hok
    rcases hfile hok with ⟨hplace, hfile⟩
    have hkeeps := hgrows₁.keepsDirectories Lock.IsBeside.opens
    exact ⟨(hprovided rfl).mono hlinks₁ hlinks' hkeeps, ⟨_, _, hplace⟩, hfile⟩

theorem acquire_of_stands (hlinks : t.LinkFree) (h : Stands t here path) :
    (acquire here path).runOn t = (.ok (), t) := by
  rcases h.place with ⟨above, name, hplace⟩
  rcases h.file with ⟨bytes, hfile⟩
  unfold acquire
  rw [runOn_bind, FileTree.makeDirectories_of_provided hlinks h.provided]
  exact FileTree.ensureFile_of_isPlace hlinks hplace hfile

theorem Stands.mono (h : Stands t here path) (hlinks : t.LinkFree) (hlinks' : t'.LinkFree)
    (hkeeps : t.KeepsDirectories t')
    (hsame : t'.get? ((Guard.path path).location here) = t.get? ((Guard.path path).location here)) :
    Stands t' here path where
  provided := h.provided.mono hlinks hlinks' hkeeps
  place := by
    rcases h.place with ⟨above, name, hplace⟩
    exact ⟨above, name, hplace.mono hkeeps⟩
  file := by
    rw [hsame]
    exact h.file

theorem location_ne {above : List String} {name : String} (h : t.IsPlace here path above name) :
    (Guard.path path).location here ≠ path.location here := by
  have hpath : path = ⟨path.rooted, above ++ [name]⟩ := by
    rw [← h.pieces]
  have hname : path.fileName? = some name := by
    rw [hpath]
    exact Path.fileName?_of_isName h.isName
  exact location_path_ne hname here

end Guard

namespace Lock

def directoryOf (path : Path) : Path :=
  let parent := path.parent?.getD .empty
  if parent.isEmpty then Path.ofString "." else parent

theorem writeFile_eq (l : Lock) (here : Location) (path : Path) :
    l.writeFile here path = (do
      FileTree.makeDirectories here (directoryOf path)
      FileTree.replaceFile here (directoryOf path) path l.fileText.toUTF8) :=
  rfl

theorem directoryOf_isEmpty (path : Path) : (directoryOf path).isEmpty = false := by
  unfold directoryOf
  dsimp only
  split
  · rfl
  · next h => simpa using h

theorem isAbove_of_directoryOf (hhere : t.holdsDirectory here = true) {location : Location}
    {n : FileTree.Node} (hnone : t.get? location = none)
    (h : IsAbove here (directoryOf path) location n) : IsAbove here path location n := by
  unfold directoryOf at h
  dsimp only at h
  split at h
  · -- The directory is `here` itself, where something stands already.
    rcases h with ⟨_, above, habove, rfl⟩
    have hidle : ∀ piece ∈ above, Path.isIdle piece = true := by
      intro piece hpiece
      have hdot : piece ∈ ["."] := habove.subset hpiece
      rw [List.mem_singleton.1 hdot]
      rfl
    have hfollow : Path.location here { Path.ofString "." with pieces := above } = here :=
      Path.follow_of_forall_isIdle hidle
    rw [hfollow] at hnone
    exact absurd hnone (FileTree.ne_none_of_holdsDirectory hhere)
  · next hempty =>
    cases hparent : path.parent? with
    | none =>
      rw [hparent] at hempty
      exact absurd rfl hempty
    | some parent =>
      rw [hparent] at h
      rcases Path.parent?_isPrefix hparent with ⟨hrooted, hbegins⟩
      exact h.of_isPrefix hrooted hbegins

/--
The lock file is there with the lock in it.
-/
structure Stands (l : Lock) (t : FileTree) (here : Location) (path : Path) : Prop where
  directory : t.isDirectory here (directoryOf path) = true
  open_directory : t.get? ((directoryOf path).location here) = some .directory
  place : ∃ above name, t.IsPlace here path above name
  file : t.get? (path.location here) = some (.file l.fileText.toUTF8)

theorem writeFile_spec {l : Lock} (hlinks : t.LinkFree) (hhere : t.holdsDirectory here = true)
    {result : Except FileTree.Error Unit} (h : (l.writeFile here path).runOn t = (result, t')) :
    (∃ e, result = .error e) ∧ Grows (IsAbove here path) t t' ∨
      result = .ok () ∧ ∃ t₁, Grows (IsAbove here path) t t₁ ∧
        t₁.holdsDirectory (path.location here) = false ∧ l.Stands t' here path ∧
        t' = t₁.put (path.location here) (.file l.fileText.toUTF8) := by
  rw [writeFile_eq, runOn_bind] at h
  rcases hmake : (FileTree.makeDirectories here (directoryOf path)).runOn t with ⟨r, t₁⟩
  rw [hmake] at h
  rcases FileTree.makeDirectories_spec hlinks hmake with ⟨hgrows, hprovided⟩
  have hgrows : Grows (IsAbove here path) t t₁ :=
    hgrows.mono fun _ _ hnone h => isAbove_of_directoryOf hhere hnone h
  have hlinks₁ : t₁.LinkFree := hgrows.linkFree hlinks IsAbove.opens
  cases r with
  | error e =>
    cases h
    exact .inl ⟨⟨e, rfl⟩, hgrows⟩
  | ok =>
    dsimp only at h
    rcases FileTree.replaceFile_spec hlinks₁ h with
      ⟨hfailed, rfl⟩ | ⟨hok, hopen, ⟨above, name, hplace⟩, hget, rfl⟩
    · exact .inl ⟨hfailed, hgrows⟩
    · right
      have hroot := hplace.location_ne_nil
      have hdirectory := (hprovided rfl).resolve_left (by simp [directoryOf_isEmpty])
      have hlinks' := hlinks₁.put_file hroot l.fileText.toUTF8
      have hkeeps := FileTree.keepsDirectories_put hroot hget l.fileText.toUTF8
      refine ⟨hok, t₁, hgrows, hget, ⟨?_, ?_, ⟨above, name, hplace.mono hkeeps⟩, ?_⟩, rfl⟩
      · exact FileTree.isDirectory_of_keepsDirectories hlinks₁ hlinks' hkeeps hdirectory
      · exact hkeeps.directory _ hopen
      · rw [FileTree.get?_put hroot, if_pos rfl]

theorem writeFile_of_isPlace {l : Lock} (hlinks : t.LinkFree)
    (hdirectory : t.isDirectory here (directoryOf path) = true)
    (hopen : t.get? ((directoryOf path).location here) = some .directory) {above : List String}
    {name : String} (hplace : t.IsPlace here path above name)
    (hget : t.holdsDirectory (path.location here) = false) :
    (l.writeFile here path).runOn t =
      (.ok (), t.put (path.location here) (.file l.fileText.toUTF8)) := by
  rw [writeFile_eq, runOn_bind, FileTree.makeDirectories_of_provided hlinks (.inr hdirectory)]
  dsimp only
  rw [FileTree.replaceFile_of_isPlace hlinks hdirectory hopen hplace hget]

theorem writeFile_of_stands {l : Lock} (hlinks : t.LinkFree) (h : l.Stands t here path) :
    (l.writeFile here path).runOn t = (.ok (), t) := by
  rcases h.place with ⟨above, name, hplace⟩
  have hget := FileTree.holdsDirectory_of_get? h.file
  rw [writeFile_of_isPlace hlinks h.directory h.open_directory hplace hget,
    FileTree.put_eq_self hplace.location_ne_nil h.file]

end Lock

namespace Request

theorem runOn_write (r : Request) (here : Location) (path : Path) (t : FileTree) :
    (r.write here path).runOn t =
      match r.run with
      | .error cause => (.error (.request cause), t)
      | .ok outcome =>
        match (Guard.acquire here path).runOn t with
        | (.error e, t') => (.error (.guard e), t')
        | (.ok (), t') =>
          match (outcome.lock.writeFile here path).runOn t' with
          | (.error e, t'') => (.error (.lock (.tree e)), t'')
          | (.ok (), t'') => (.ok outcome, t'') := by
  unfold write
  cases r.run with
  | error cause => rfl
  | ok outcome =>
    simp only [runOn_bind, runOn_mapError, Lock.write]
    rcases (Guard.acquire here path).runOn t with ⟨_ | _, t₁⟩
    · rfl
    · simp only [Except.mapError_ok]
      rcases (outcome.lock.writeFile here path).runOn t₁ with ⟨_ | _, t₂⟩
      · rfl
      · rfl

/--
The writing of a request ends without an outcome, before the lock file is replaced, or after it.
-/
theorem write_cases {r : Request} {result : Except WriteError Outcome} (hlinks : t.LinkFree)
    (hhere : t.holdsDirectory here = true) (h : (r.write here path).runOn t = (result, t')) :
    (∃ cause, r.run = .error cause ∧ result = .error (.request cause) ∧ t' = t) ∨
      (∃ outcome e, r.run = .ok outcome ∧ result = .error e ∧ (∀ cause, e ≠ .request cause) ∧
        Grows (Lock.IsBeside here path) t t') ∨
      ∃ outcome t₁, r.run = .ok outcome ∧ result = .ok outcome ∧
        Grows (Lock.IsBeside here path) t t₁ ∧ t₁.holdsDirectory (path.location here) = false ∧
        Guard.Stands t₁ here path ∧ outcome.lock.Stands t' here path ∧
        t' = t₁.put (path.location here) (.file outcome.lock.fileText.toUTF8) := by
  rw [runOn_write] at h
  cases hrun : r.run with
  | error cause =>
    rw [hrun] at h
    cases h
    exact .inl ⟨cause, rfl, rfl, rfl⟩
  | ok outcome =>
    right
    rw [hrun] at h
    dsimp only at h
    rcases hacquire : (Guard.acquire here path).runOn t with ⟨r₁, t₁⟩
    rcases Guard.acquire_spec hlinks hacquire with ⟨hgrows, hguard⟩
    have hlinks₁ := hgrows.linkFree hlinks Lock.IsBeside.opens
    rw [hacquire] at h
    cases r₁ with
    | error e =>
      cases h
      exact .inl ⟨outcome, _, rfl, rfl, by simp, hgrows⟩
    | ok =>
      dsimp only at h
      rcases hwrite : (outcome.lock.writeFile here path).runOn t₁ with ⟨r₂, t₂⟩
      rw [hwrite] at h
      have hhere₁ := (hgrows.keepsDirectories Lock.IsBeside.opens).holdsDirectory hhere
      rcases Lock.writeFile_spec hlinks₁ hhere₁ hwrite with
        ⟨⟨e, rfl⟩, hgrows₂⟩ | ⟨rfl, t₃, hgrows₃, hget, hlock, rfl⟩
      · cases h
        refine .inl ⟨outcome, _, rfl, rfl, by simp, hgrows.trans ?_⟩
        exact hgrows₂.mono fun _ _ _ h => .inl h
      · cases h
        have hgrows₃ : Grows (Lock.IsBeside here path) t₁ t₃ :=
          hgrows₃.mono fun _ _ _ h => .inl h
        have hlinks₃ := hgrows₃.linkFree hlinks₁ Lock.IsBeside.opens
        rcases (hguard rfl).file with ⟨bytes, hfile⟩
        have hguard₃ : Guard.Stands t₃ here path := by
          apply (hguard rfl).mono hlinks₁ hlinks₃ (hgrows₃.keepsDirectories Lock.IsBeside.opens)
          rw [hgrows₃.get?_eq_some hfile, hfile]
        exact .inr ⟨outcome, t₃, rfl, rfl, hgrows.trans hgrows₃, hget, hguard₃, hlock, rfl⟩

theorem write_of_stands {r : Request} {outcome : Outcome} (hlinks : t.LinkFree)
    (hrun : r.run = .ok outcome) (hguard : Guard.Stands t here path)
    (hlock : outcome.lock.Stands t here path) :
    (r.write here path).runOn t = (.ok outcome, t) := by
  rw [runOn_write, hrun]
  dsimp only
  rw [Guard.acquire_of_stands hlinks hguard]
  dsimp only
  rw [Lock.writeFile_of_stands hlinks hlock]

/--
In a tree without links, the outcome of a request is written all or nothing. Without an outcome
nothing changes. A later failure leaves everything as it was, what is at the path included, and adds
at most directories on the way to it and an empty guard. After a success the lock file has the text
of the lock, nothing else has changed except that directories and the guard may be new, and writing
once more changes nothing. The working directory has to be there, since paths are followed from it.
-/
theorem write_all_or_nothing {r : Request} {here : Location} {path : Path} {t t' : FileTree}
    {result : Except WriteError Outcome} (hlinks : t.LinkFree)
    (hhere : t.holdsDirectory here = true) (h : (r.write here path).runOn t = (result, t')) :
    (∀ cause, result = .error (.request cause) → r.run = .error cause ∧ t' = t) ∧
      (∀ e, result = .error e → (∀ cause, e ≠ .request cause) →
        (∃ outcome, r.run = .ok outcome) ∧ Grows (Lock.IsBeside here path) t t' ∧
          ∀ n, t.at? here path = some n → t'.at? here path = some n) ∧
      (∀ outcome, result = .ok outcome →
        r.run = .ok outcome ∧ t'.read here path = .ok outcome.lock.fileText.toUTF8 ∧
          t.holdsDirectory (path.location here) = false ∧
          (∀ location, location ≠ path.location here →
            GrowsAt (Lock.IsBeside here path) t t' location) ∧
          (Guard.path path).location here ≠ path.location here ∧
          (r.write here path).runOn t' = (.ok outcome, t')) := by
  rcases write_cases hlinks hhere h with ⟨cause, hrun, rfl, rfl⟩ |
    ⟨outcome, e, hrun, rfl, hne, hgrows⟩ |
    ⟨outcome, t₁, hrun, rfl, hgrows, hget, hguard, hlock, rfl⟩
  · refine ⟨?_, ?_, by simp⟩
    · intro cause' hcause
      cases hcause
      exact ⟨hrun, rfl⟩
    · intro e he hne
      cases he
      exact absurd rfl (hne cause)
  · refine ⟨?_, ?_, by simp⟩
    · intro cause hcause
      cases hcause
      exact absurd rfl (hne cause)
    · intro e' _ _
      exact ⟨⟨outcome, hrun⟩, hgrows, fun _ hn => hgrows.at?_eq_some hlinks Lock.IsBeside.opens hn⟩
  · refine ⟨by simp, by simp, ?_⟩
    intro outcome' houtcome
    cases houtcome
    rcases hlock.place with ⟨above, name, hplace⟩
    have hroot := hplace.location_ne_nil
    have hbeside := Guard.location_ne hplace
    have hlinks₁ := hgrows.linkFree hlinks Lock.IsBeside.opens
    have hlinks' := hlinks₁.put_file hroot outcome.lock.fileText.toUTF8
    refine ⟨hrun, hplace.read_eq hlinks' hlock.file, ?_, ?_, hbeside, ?_⟩
    · rw [← Bool.not_eq_true] at hget ⊢
      exact mt (hgrows.keepsDirectories Lock.IsBeside.opens).holdsDirectory hget
    · intro location hne
      unfold GrowsAt
      rw [FileTree.get?_put hroot, if_neg hne]
      exact hgrows location
    · apply write_of_stands hlinks' hrun _ hlock
      apply hguard.mono hlinks₁ hlinks' (FileTree.keepsDirectories_put hroot hget _)
      rw [FileTree.get?_put hroot, if_neg hbeside]

section

/-!
A directory with an old lock file and another file in it, in which a lock is written.
-/

def workTree : FileTree where
  nodes :=
    [(["work"], .directory), (["work", "lock.json"], .file ⟨#[123, 125]⟩),
     (["work", "notes"], .file .empty)]

def lockPath : Path := ⟨false, ["lock.json"]⟩

theorem workTree_linkFree : workTree.LinkFree :=
  FileTree.linkFree_of_forall (by simp [workTree])

def guardedTree : FileTree :=
  workTree.put ["work", "lock.json.guard"] (.file .empty)

theorem workTree_acquire :
    (Guard.acquire ["work"] lockPath).runOn workTree = (.ok (), guardedTree) := by
  have hprovided : workTree.Provided ["work"] ((Guard.path lockPath).parent?.getD .empty) :=
    .inl (by decide)
  have hplace : workTree.IsPlace ["work"] (Guard.path lockPath) [] "lock.json.guard" := by
    decide
  have hlocation : (Guard.path lockPath).location ["work"] = ["work", "lock.json.guard"] := by
    decide
  have hnone : workTree.get? ["work", "lock.json.guard"] = none := by
    decide
  unfold Guard.acquire
  rw [runOn_bind, FileTree.makeDirectories_of_provided workTree_linkFree hprovided]
  dsimp only
  rw [FileTree.ensureFile_of_get?_eq_none workTree_linkFree hplace (by rw [hlocation, hnone]),
    hlocation]
  rfl

theorem guardedTree_writeFile (l : Lock) :
    (l.writeFile ["work"] lockPath).runOn guardedTree =
      (.ok (), guardedTree.put ["work", "lock.json"] (.file l.fileText.toUTF8)) := by
  have hlinks : guardedTree.LinkFree := workTree_linkFree.put_file (by decide) .empty
  have hdirectory : guardedTree.isDirectory ["work"] (Lock.directoryOf lockPath) = true := by
    rw [FileTree.isDirectory_iff hlinks]
    exact ⟨by decide, by decide, by decide⟩
  have hplace : guardedTree.IsPlace ["work"] lockPath [] "lock.json" := by
    decide
  have hlocation : lockPath.location ["work"] = ["work", "lock.json"] := by
    decide
  rw [Lock.writeFile_of_isPlace hlinks hdirectory (by decide) hplace (by decide), hlocation]

theorem workTree_write :
    workTree.LinkFree ∧ workTree.holdsDirectory ["work"] = true ∧
      ∃ t', ((shadowedRequest none).write ["work"] lockPath).runOn workTree
          = (.ok shadowedOutcome, t') ∧
        t'.read ["work"] lockPath = .ok shadowedOutcome.lock.fileText.toUTF8 ∧
        t'.get? ["work", "notes"] = some (.file .empty) := by
  have hhere : workTree.holdsDirectory ["work"] = true := by
    decide
  have hwrite : ((shadowedRequest none).write ["work"] lockPath).runOn workTree
      = (.ok shadowedOutcome, guardedTree.put ["work", "lock.json"]
        (.file shadowedOutcome.lock.fileText.toUTF8)) := by
    rw [runOn_write, shadowedRequest_run]
    dsimp only
    rw [workTree_acquire]
    dsimp only
    rw [guardedTree_writeFile]
  rcases (write_all_or_nothing workTree_linkFree hhere hwrite).2.2 _ rfl with
    ⟨_, hread, _, hothers, _⟩
  refine ⟨workTree_linkFree, hhere, _, hwrite, hread, ?_⟩
  rcases hothers ["work", "notes"] (by decide) with hsame | ⟨hnone, _⟩
  · rw [hsame]
    decide
  · exact absurd hnone (by decide)

end

end Request

end GovernanceLock
