import GovernanceLock.Proofs.CommandLine.Activated
import GovernanceLock.Proofs.FileTree.Extension
import GovernanceLock.Proofs.Request.Write

/-!
This module contains the statement that locking and verifying agree: a lock that has been written is
accepted as long as the files of today activate, for each of its packs, the manifest that they did.
-/

namespace GovernanceLock

open FileTree (IsAbove)
open Resolution (Locked)

/--
The places of a lock file, of the directories on the way to it, and of its guard.
-/
def Lock.IsNear (here : Location) (out : Path) (location : Location) : Prop :=
  (∃ above, above <+: out.pieces ∧
    location = Path.location here { out with pieces := above }) ∨
    location = (Guard.path out).location here

theorem Lock.IsBeside.isNear {here : Location} {out : Path} {location : Location}
    {n : FileTree.Node} (h : Lock.IsBeside here out location n) : Lock.IsNear here out location := by
  rcases h with ⟨_, habove⟩ | ⟨_, hguard⟩
  · exact .inl habove
  · exact .inr hguard

theorem Lock.isNear_self {here : Location} {out : Path} :
    Lock.IsNear here out (out.location here) :=
  .inl ⟨out.pieces, List.prefix_rfl, rfl⟩

namespace CommandLine

variable {sources : Sources} {here : Location} {env : Environment} {t t' : FileTree}

/--
No consulted path leads to the lock file, to a directory on the way to it, or to its guard.
-/
def Sources.Apart (s : Sources) (here : Location) (home : Option String) (out : Path) : Prop :=
  ∀ path ∈ s.consulted here home, ¬ Lock.IsNear here out (path.location here)

/--
No consulted path steps back out of a directory that is missing on the way to the lock file.
-/
def Sources.NoDetour (s : Sources) (t : FileTree) (here : Location) (home : Option String)
    (out : Path) : Prop :=
  ∀ path ∈ s.consulted here home, ∀ before after, path.pieces = before ++ ".." :: after →
    let left := Path.location here { path with pieces := before }
    IsAbove here out left .directory → left ≠ out.location here → t.get? left ≠ none

section

variable {out : Path} {t₁ : FileTree} {bytes : ByteArray}

theorem extends_of_grows (hgrows : t.Grows (Lock.IsBeside here out) t₁)
    (hroot : out.location here ≠ []) (hget : t₁.holdsDirectory (out.location here) = false) :
    t.Extends (t₁.put (out.location here) (.file bytes)) where
  keepsDirectories :=
    (hgrows.keepsDirectories Lock.IsBeside.opens).trans
      (FileTree.keepsDirectories_put hroot hget bytes)
  directory := by
    intro location hdirectory hsome
    unfold FileTree.holdsDirectory at hdirectory ⊢
    rw [FileTree.get?_put hroot] at hdirectory
    split at hdirectory
    · cases hdirectory
    · rcases Option.ne_none_iff_exists'.1 hsome with ⟨n, hn⟩
      rw [hgrows.get?_eq_some hn] at hdirectory
      rw [hn, hdirectory]

/--
Writing a lock changes nothing that the consulted paths lead to.
-/
theorem Sources.sameFiles_of_grows (hlinks : t.LinkFree) (hgrounded : t.Grounded)
    (hhere : t.holdsDirectory here = true) (hgrows : t.Grows (Lock.IsBeside here out) t₁)
    (hroot : out.location here ≠ []) (hget : t₁.holdsDirectory (out.location here) = false)
    (hapart : sources.Apart here env.home out) (hdetour : sources.NoDetour t here env.home out) :
    sources.SameFiles here env.home t (t₁.put (out.location here) (.file bytes)) := by
  have hlinks₁ := hgrows.linkFree hlinks Lock.IsBeside.opens
  intro path hpath
  apply FileTree.at?_eq_of_extends hlinks (hlinks₁.put_file hroot bytes) hgrounded
    (extends_of_grows hgrows hroot hget) hhere
  · have hnear := hapart path hpath
    rw [FileTree.get?_put hroot, if_neg]
    · rcases hgrows (path.location here) with hsame | ⟨_, n, _, hbeside⟩
      · exact hsame
      · exact absurd hbeside.isNear hnear
    · intro heq
      rw [heq] at hnear
      exact hnear Lock.isNear_self
  · intro before after hpieces hdirectory hnone
    rw [FileTree.get?_put hroot] at hdirectory
    split at hdirectory
    · cases hdirectory
    next hne =>
    rcases hgrows (Path.location here { path with pieces := before }) with
      hsame | ⟨_, n, hnew, habove | hguard⟩
    · rw [hdirectory, hnone] at hsame
      cases hsame
    · rw [hdirectory, Option.some.injEq] at hnew
      exact hdetour path hpath before after hpieces (hnew ▸ habove) hne hnone
    · rw [hdirectory, Option.some.injEq, hguard.1] at hnew
      cases hnew

end

namespace Invocation

variable {j : Invocation} {out : Path} {request : Request} {outcome : Outcome}

theorem exitCode_verify (hverify : j.command = .verify out sources)
    (hread : Lock.read t here out = .ok outcome.lock) (hrun : request.run = .ok outcome)
    (hcandidates : sources.haveCandidates = true)
    (hfree : ∀ today, sources.Activated t here env today → ∀ pack ∈ outcome.lock.packs, ∀ m n,
      Locked outcome.active pack.id m → Locked today pack.id n → n.CollisionFree m) :
    ((j.run here env t).1.exitCode = ExitCode.success ↔
      ∃ today, sources.Activated t here env today ∧ AllNormalize today ∧
        ∀ pack ∈ outcome.lock.packs, Resolution.Unchanged outcome.active today pack.id) ∧
      ∀ today, sources.Activated t here env today → AllNormalize today →
        (∃ pack ∈ outcome.lock.packs, ¬ Resolution.Unchanged outcome.active today pack.id) →
          (j.run here env t).1.exitCode = ExitCode.violation := by
  have hresolve := (Request.run_eq_ok_iff.1 hrun).2
  have hintact := Resolution.intact_of_resolve_eq_ok hresolve
  rw [exitCode_run_verify hverify, Command.runVerify_eq hread hcandidates]
  cases hcurrent : Command.currentManifests sources t here env with
  | error e =>
    have hnone : ∀ today, sources.Activated t here env today → ¬ AllNormalize today := by
      intro today htoday hall
      rcases htoday.exists_normalizes.2 hall with ⟨catalog, hcatalog⟩
      rw [Command.currentManifests_eq_ok_iff.2 ⟨today, htoday, hcatalog⟩] at hcurrent
      cases hcurrent
    constructor
    · constructor
      · intro h
        exact absurd h e.exitCode_ne.1
      · rintro ⟨today, htoday, hall, _⟩
        exact absurd hall (hnone today htoday)
    · intro today htoday hall
      exact absurd hall (hnone today htoday)
  | ok catalog =>
    rcases Command.currentManifests_eq_ok_iff.1 hcurrent with ⟨today, htoday, hcatalog⟩
    have hmanifests := Resolution.verifyManifests_eq_ok_iff_unchanged hresolve hcatalog
      (hfree today htoday)
    rw [← Command.problems_eq_nil_iff hintact] at hmanifests
    constructor
    · refine VerifyReport.exitCode_eq_success_iff.trans (hmanifests.trans ?_)
      constructor
      · intro hunchanged
        exact ⟨today, htoday, htoday.exists_normalizes.1 ⟨catalog, hcatalog⟩, hunchanged⟩
      · rintro ⟨other, hother, _, hunchanged⟩
        rw [hother.unique htoday] at hunchanged
        exact hunchanged
    · rintro other hother _ ⟨pack, hpack, hchanged⟩
      rw [hother.unique htoday] at hchanged
      apply VerifyReport.exitCode_of_ne_nil
      intro hnil
      exact hchanged (hmanifests.1 hnil pack hpack)

theorem exitCode_verify_of_sameFiles {selected : List String} {engineVersion : String}
    (hverify : j.command = .verify out sources)
    (hload : sources.load t here env selected engineVersion = .ok request)
    (hrun : request.run = .ok outcome) (hsame : sources.SameFiles here env.home t t')
    (hread : Lock.read t' here out = .ok outcome.lock) :
    (j.run here env t').1.exitCode = ExitCode.success := by
  rcases Request.run_eq_ok_iff.1 hrun with ⟨hactive, hresolve⟩
  have htoday : sources.Activated t' here env outcome.active :=
    ⟨_, outcome.policy, Sources.load_congr hsame hload, hactive⟩
  rcases Resolution.resolve_eq_ok_iff.1 hresolve with ⟨catalog, _, _, _, hres, _⟩
  have hcandidates := Sources.haveCandidates_of_run hload hrun
  apply (exitCode_verify hverify hread hrun hcandidates _).1.2
  · refine ⟨outcome.active, htoday, htoday.exists_normalizes.1 ⟨catalog, hres.normalizes⟩, ?_⟩
    intro pack hpack
    rcases Resolution.exists_locked_of_mem_packs hresolve hpack with ⟨m, hm⟩
    exact ⟨m, hm, hm⟩
  · intro today hother pack _ m n hm hn
    cases hother.unique htoday
    cases hm.unique hn
    exact fun _ => rfl

/--
Locking and verifying agree. After a lock has been written, a check of it with the same options
succeeds iff the files that it consults can be loaded and activated, every record normalizes, and
every locked pack has the manifest that it had; and it finds a violation if only the last of these
fails. This takes for granted that the digests of the manifests do not collide.

With nothing changed in between, the check succeeds. Here the consulted files have to be others than
those that locking writes and makes, and no consulted path may step back out of a directory that
locking makes, since such a path can lead to a file afterwards that it did not lead to before.
-/
theorem lock_verify_agree {i j : Invocation} {selected : List String} {engineVersion : String}
    {sources : Sources} {out : Path} {here : Location} {env : Environment} {t t' : FileTree}
    {o : Output} (hlock : i.command = .lock selected engineVersion sources out false)
    (hverify : j.command = .verify out sources) (hlinks : t.LinkFree) (hgrounded : t.Grounded)
    (hhere : t.holdsDirectory here = true) (hrun : i.run here env t = (o, t'))
    (hok : o.exitCode = ExitCode.success) :
    ∃ request outcome, sources.load t here env selected engineVersion = .ok request ∧
      request.run = .ok outcome ∧ t'.read here out = .ok outcome.lock.fileText.toUTF8 ∧
      (∀ t'', t''.read here out = t'.read here out →
        (∀ today, sources.Activated t'' here env today → ∀ pack ∈ outcome.lock.packs, ∀ m n,
          Locked outcome.active pack.id m → Locked today pack.id n → n.CollisionFree m) →
        ((j.run here env t'').1.exitCode = ExitCode.success ↔
          ∃ today, sources.Activated t'' here env today ∧ AllNormalize today ∧
            ∀ pack ∈ outcome.lock.packs, Resolution.Unchanged outcome.active today pack.id) ∧
        ∀ today, sources.Activated t'' here env today → AllNormalize today →
          (∃ pack ∈ outcome.lock.packs, ¬ Resolution.Unchanged outcome.active today pack.id) →
            (j.run here env t'').1.exitCode = ExitCode.violation) ∧
      (sources.Apart here env.home out → sources.NoDetour t here env.home out →
        (j.run here env t').1.exitCode = ExitCode.success) := by
  rcases exists_write_of_run hlock hrun hok with ⟨request, outcome, hload, hwrite⟩
  rcases Request.write_cases hlinks hhere hwrite with ⟨_, _, herror, _⟩ | ⟨_, _, _, herror, _⟩ |
    ⟨_, t₁, hrequest, houtcome, hgrows, hget, _, hstands, rfl⟩
  · cases herror
  · cases herror
  cases houtcome
  rcases hstands.place with ⟨above, name, hplace⟩
  have hroot := hplace.location_ne_nil
  have hlinks₁ := hgrows.linkFree hlinks Lock.IsBeside.opens
  have hlinks' := hlinks₁.put_file hroot outcome.lock.fileText.toUTF8
  have hread := hplace.read_eq hlinks' hstands.file
  have hcandidates := Sources.haveCandidates_of_run hload hrequest
  refine ⟨request, outcome, hload, hrequest, hread, ?_, ?_⟩
  · intro t'' hsame hfree
    rw [hread] at hsame
    exact exitCode_verify hverify (Lock.read_of_read_fileText hsame) hrequest hcandidates hfree
  · intro hapart hdetour
    apply exitCode_verify_of_sameFiles hverify hload hrequest _ (Lock.read_of_read_fileText hread)
    exact Sources.sameFiles_of_grows hlinks hgrounded hhere hgrows hroot hget hapart hdetour

section

/-!
Lists of candidates and a broken policy file, with which a lock is written into a new directory. The
policy file is not found on a way through that directory before it is there.
-/

open FileTree.Action (runOn_bind)
open Except (mapError_eq_ok_iff)
open Json (Record)
open Request (shadowedRequest shadowedOutcome shadowedRequest_run)
open Resolution (packManifest packRecord)

def shelfName : Tier → String
  | .workspace => "workspace.json"
  | .installer => "installer.json"
  | .user => "user.json"

def shelfOffers : Offers := (shadowedRequest none).offers

def shelfText (offers : Offers) (tier : Tier) : String :=
  (Json.array (offers.list tier)).render .canonical

def shelfTree : FileTree where
  nodes :=
    [([shelfName .workspace], .file (shelfText shelfOffers .workspace).toUTF8),
     ([shelfName .installer], .file (shelfText shelfOffers .installer).toUTF8),
     ([shelfName .user], .file (shelfText shelfOffers .user).toUTF8),
     (["policy.json"], .file "off".toUTF8)]

def shelfList (tier : Tier) : Path := ⟨false, [shelfName tier]⟩

def shelfSources (policy : Path) : Sources where
  workspace := some (shelfList .workspace)
  installer := some (shelfList .installer)
  user := some (shelfList .user)
  repoPolicy := some policy
  globalPolicy := none
  overrides := none

def shelfLock : Path := ⟨false, ["locks", "lock.json"]⟩

def shelfLocking (policy : Path) : Invocation where
  json := false
  verbose := false
  trace := false
  command := .lock ["app", " ", " app "] "02.0.0" (shelfSources policy) shelfLock false

def shelfCheck (policy : Path) : Invocation :=
  { shelfLocking policy with command := .verify shelfLock (shelfSources policy) }

theorem shelfLocking_command (policy : Path) : (shelfLocking policy).command
    = .lock ["app", " ", " app "] "02.0.0" (shelfSources policy) shelfLock false :=
  rfl

theorem shelfCheck_command (policy : Path) :
    (shelfCheck policy).command = .verify shelfLock (shelfSources policy) :=
  rfl

theorem shelfTree_location {location : Location} {n : FileTree.Node} (hroot : location ≠ [])
    (h : shelfTree.get? location = some n) :
    (∃ bytes, n = .file bytes) ∧ ∃ name, location = [name] := by
  unfold shelfTree FileTree.get? at h
  rw [if_neg hroot] at h
  simp only [FileTree.find?] at h
  repeat' split at h
  all_goals
    first
    | cases h
      next heq => exact ⟨⟨_, rfl⟩, _, heq⟩
    | cases h

theorem shelfTree_linkFree : shelfTree.LinkFree :=
  FileTree.linkFree_of_forall (by simp [shelfTree])

theorem shelfTree_grounded : shelfTree.Grounded := by
  intro location name h
  rcases Option.ne_none_iff_exists'.1 h with ⟨n, hn⟩
  rcases (shelfTree_location (by simp) hn).2 with ⟨name', heq⟩
  rw [List.append_eq_singleton_iff] at heq
  rcases heq with ⟨rfl, _⟩ | ⟨_, hname⟩
  · rfl
  · cases hname

theorem compat_fits {limit : Nat} :
    (Json.object [("engine_max", .string "3.0.0"), ("engine_min", .string "1.0.0")]).Fits
      (limit + 1) := by
  apply Json.Fits.object
  · decide
  · simp [Json.Fits.string]

theorem packRecord_fits {limit : Nat} (id : String) (requires : List String) :
    (Json.object (packRecord id requires)).Fits (limit + 2) := by
  apply Json.Fits.object
  · exact (by decide : Ascending ["compat", "id", "requires", "version"])
  · simp [packRecord, compat_fits, Json.Fits.string, Json.Fits.strings]

structure Shelved (t : FileTree) (offers : Offers) : Prop where
  fits (tier : Tier) : (Json.array (offers.list tier)).Fits Json.depthLimit
  file (tier : Tier) : t.get? [shelfName tier] = some (.file (shelfText offers tier).toUTF8)

theorem Shelved.candidates {t : FileTree} {offers : Offers} (h : Shelved t offers)
    (hlinks : t.LinkFree) (tier : Tier) :
    Sources.candidates t [] (some (shelfList tier)) = .ok (offers.list tier) := by
  have hplace : t.IsPlace [] (shelfList tier) [] (shelfName tier) :=
    { pieces := rfl
      accepted := by cases tier <;> decide
      passable := trivial
      searchable := nofun
      isName := by cases tier <;> decide
      short := by cases tier <;> decide }
  have hformat : RecordFile.Format.ofPath (shelfList tier) = .json := by
    cases tier <;> decide
  have hget : t.get? ((shelfList tier).location [])
      = some (.file (shelfText offers tier).toUTF8) := by
    rw [hplace.location_eq]
    exact h.file tier
  have htext := FileTree.readText_of_read_eq_ok (hplace.read_eq hlinks hget)
  refine mapError_eq_ok_iff.2 (RecordFile.readList_eq_ok_iff.2 ⟨.array _, ?_, rfl⟩)
  rw [RecordFile.readValue_eq_ok_iff, hformat]
  exact ⟨_, htext, Json.parse?_render .canonical (h.fits tier)⟩

theorem Shelved.load {t : FileTree} {offers : Offers} (h : Shelved t offers)
    (hlinks : t.LinkFree) {policy : Path} (hpolicy : t.at? [] policy = none)
    (selected : List String) (engineVersion : String) :
    (shelfSources policy).load t [] ⟨none, none, none⟩ selected engineVersion
      = .ok ⟨offers, none, none, none, selected, engineVersion⟩ := by
  have hrepo : PolicyFiles.loadFile t [] (some policy) = .ok none := by
    unfold PolicyFiles.loadFile FileTree.isPresent
    dsimp only
    rw [hpolicy]
    rfl
  have hlist := h.candidates hlinks
  rw [Sources.load_eq_ok_iff]
  exact ⟨hlist .workspace, hlist .installer, hlist .user, hrepo, rfl, rfl, rfl, rfl⟩

theorem shelfTree_shelved : Shelved shelfTree shelfOffers where
  fits tier := by
    apply Json.Fits.array
    cases tier <;> simp [shelfOffers, shadowedRequest, Offers.list, packRecord_fits]
  file tier := by
    cases tier <;> rfl

def guardedShelf : FileTree :=
  (shelfTree.put ["locks"] .directory).put ["locks", "lock.json.guard"] (.file .empty)

theorem shelfTree_linkFree_put : (shelfTree.put ["locks"] .directory).LinkFree :=
  shelfTree_linkFree.put (by decide) nofun

theorem guardedShelf_linkFree : guardedShelf.LinkFree :=
  shelfTree_linkFree_put.put_file (by decide) .empty

theorem shelfTree_acquire :
    (Guard.acquire [] shelfLock).runOn shelfTree = (.ok (), guardedShelf) := by
  have hparent : (Guard.path shelfLock).parent?.getD .empty = ⟨false, ["locks"]⟩ := by
    decide
  have hdirectory : shelfTree.IsPlace [] ⟨false, ["locks"]⟩ [] "locks" := by
    decide
  have hplace : (shelfTree.put ["locks"] .directory).IsPlace [] (Guard.path shelfLock) ["locks"]
      "lock.json.guard" := by
    decide
  unfold Guard.acquire
  rw [runOn_bind, hparent, FileTree.makeDirectories_of_get?_eq_none shelfTree_linkFree hdirectory]
  · exact FileTree.ensureFile_of_get?_eq_none shelfTree_linkFree_put hplace (by decide)
  · decide

def lockedShelf : FileTree :=
  guardedShelf.put ["locks", "lock.json"] (.file shadowedOutcome.lock.fileText.toUTF8)

theorem lockedShelf_linkFree : lockedShelf.LinkFree :=
  guardedShelf_linkFree.put_file (by decide) _

theorem guardedShelf_writeFile :
    (shadowedOutcome.lock.writeFile [] shelfLock).runOn guardedShelf = (.ok (), lockedShelf) := by
  have hdirectory : guardedShelf.isDirectory [] (Lock.directoryOf shelfLock) = true := by
    rw [FileTree.isDirectory_iff guardedShelf_linkFree]
    exact ⟨by decide, by decide, by decide⟩
  have hplace : guardedShelf.IsPlace [] shelfLock ["locks"] "lock.json" := by
    decide
  exact Lock.writeFile_of_isPlace guardedShelf_linkFree hdirectory (by decide) hplace (by decide)

theorem shelfLocking_run {policy : Path} (hpolicy : shelfTree.at? [] policy = none) :
    ∃ o, (shelfLocking policy).run [] ⟨none, none, none⟩ shelfTree = (o, lockedShelf) ∧
      o.exitCode = ExitCode.success := by
  have hload : (shelfSources policy).load shelfTree [] ⟨none, none, none⟩ ["app", " ", " app "]
      "02.0.0" = .ok (shadowedRequest none) :=
    shelfTree_shelved.load shelfTree_linkFree hpolicy _ _
  unfold run
  rw [shelfLocking_command, Command.runOn_perform_lock, hload]
  dsimp only
  rw [Request.runOn_write, shadowedRequest_run]
  dsimp only
  rw [shelfTree_acquire]
  dsimp only
  rw [guardedShelf_writeFile]
  exact ⟨_, rfl, rfl⟩

def nearShelfLock : List Location :=
  [[], ["locks"], ["locks", "lock.json"], ["locks", "lock.json.guard"]]

theorem mem_nearShelfLock {location : Location} (h : Lock.IsNear [] shelfLock location) :
    location ∈ nearShelfLock := by
  rcases h with ⟨above, habove, rfl⟩ | rfl
  · have hinits : ∀ above ∈ shelfLock.pieces.inits,
        Path.location [] { shelfLock with pieces := above } ∈ nearShelfLock := by
      decide
    exact hinits above ((List.mem_inits _ _).2 habove)
  · decide

theorem shelfSources_apart {policy : Path} (h : ∀ path ∈ (shelfSources policy).consulted [] none,
    path.location [] ∉ nearShelfLock) : (shelfSources policy).Apart [] none shelfLock := by
  intro path hpath hnear
  exact h path hpath (mem_nearShelfLock hnear)

def detour : Path := ⟨false, ["locks", "..", "policy.json"]⟩

theorem detour_unlocked : shelfTree.at? [] detour = none := by
  rw [Option.eq_none_iff_forall_ne_some]
  intro n hn
  rcases FileTree.at?_eq_some_iff.1 hn with ⟨location, hlocate, _⟩
  have hwalk := (FileTree.locate_eq_ok_iff.1 hlocate).2
  rcases ((FileTree.walk_eq_ok_iff_of_isName shelfTree_linkFree (by decide)).1 hwalk).2.2.2 with
    ⟨hdirectory, _⟩ | ⟨_, hrest, _⟩
  · exact absurd hdirectory (by decide)
  · exact absurd hrest (by decide)

theorem detour_locked : lockedShelf.readText [] detour = .ok "off" := by
  have hplace : lockedShelf.IsPlace [] detour ["locks", ".."] "policy.json" := by
    decide
  exact FileTree.readText_of_read_eq_ok (hplace.read_eq lockedShelf_linkFree rfl)

theorem detour_not_activated {active : ActivePacks} :
    ¬ (shelfSources detour).Activated lockedShelf [] ⟨none, none, none⟩ active := by
  rintro ⟨request, policy, hload, _⟩
  rcases Sources.load_eq_ok_iff.1 hload with ⟨_, _, _, hrepo, _⟩
  have hfiles : ((shelfSources detour).policyFiles lockedShelf [] none).repo = some detour := rfl
  rw [hfiles] at hrepo
  rcases PolicyFiles.exists_parse?_of_loadFile detour_locked hrepo with ⟨v, hv⟩
  have hparse : (RecordFile.Format.ofPath detour).parse? "off" = none := by
    decide
  rw [hparse] at hv
  cases hv

/--
A lock that is written with a policy path through the directory which is new does not pass a check,
though nothing has changed: the path leads to the policy file only now.
-/
theorem detour_check :
    shelfTree.LinkFree ∧ shelfTree.Grounded ∧ shelfTree.holdsDirectory [] = true ∧
      (shelfSources detour).Apart [] none shelfLock ∧
      ∃ o t', (shelfLocking detour).run [] ⟨none, none, none⟩ shelfTree = (o, t') ∧
        o.exitCode = ExitCode.success ∧
        ((shelfCheck detour).run [] ⟨none, none, none⟩ t').1.exitCode ≠ ExitCode.success := by
  rcases shelfLocking_run detour_unlocked with ⟨o, hrun, hok⟩
  have hapart : (shelfSources detour).Apart [] none shelfLock := shelfSources_apart (by decide)
  refine ⟨shelfTree_linkFree, shelfTree_grounded, rfl, hapart, o, lockedShelf, hrun, hok, ?_⟩
  rw [exitCode_run_verify (shelfCheck_command _)]
  cases hverify : Command.runVerify shelfLock (shelfSources detour) lockedShelf []
    ⟨none, none, none⟩ with
  | error e => exact e.exitCode_ne.1
  | ok report =>
    rcases Command.exists_activated_of_runVerify rfl hverify with ⟨active, hactive⟩
    exact absurd hactive detour_not_activated

def vacancy : Path := ⟨false, ["vacancy.json"]⟩

theorem at?_vacancy {t : FileTree} (hlinks : t.LinkFree) (hget : t.get? ["vacancy.json"] = none) :
    t.at? [] vacancy = none := by
  rw [Option.eq_none_iff_forall_ne_some]
  intro n hn
  rcases FileTree.at?_eq_some_iff.1 hn with ⟨location, hlocate, hsome⟩
  rw [FileTree.eq_location_of_locate_eq_ok hlinks hlocate] at hsome
  cases hget.symm.trans hsome

/-!
The list of the installer is edited after the lock has been written: `base` gets an artifact.
-/

def grownRecord : Record :=
  ("artifacts", .strings ["notes.md"]) :: packRecord "base" []

def grownOffers : Offers :=
  { shelfOffers with
    installer := [.object (packRecord " app" ["base"]), .object grownRecord] }

def grownShelf : FileTree :=
  lockedShelf.put ["installer.json"] (.file (shelfText grownOffers .installer).toUTF8)

theorem grownShelf_linkFree : grownShelf.LinkFree :=
  lockedShelf_linkFree.put_file (by decide) _

theorem grownRecord_fits {limit : Nat} : (Json.object grownRecord).Fits (limit + 2) := by
  apply Json.Fits.object
  · exact (by decide : Ascending ["artifacts", "compat", "id", "requires", "version"])
  · simp [grownRecord, packRecord, compat_fits, Json.Fits.string, Json.Fits.strings]

theorem grownShelf_shelved : Shelved grownShelf grownOffers where
  fits tier := by
    apply Json.Fits.array
    cases tier <;>
      simp [grownOffers, shelfOffers, shadowedRequest, Offers.list, packRecord_fits,
        grownRecord_fits]
  file tier := by
    cases tier <;> rfl

def grownActive : ActivePacks :=
  (shadowedOutcome.active).insert "base"
    (Activation.mark ⟨false, .default⟩ ⟨"base", .installer, grownRecord⟩)

theorem grownShelf_activated :
    (shelfSources vacancy).Activated grownShelf [] ⟨none, none, none⟩ grownActive :=
  ⟨_, ⟨false, .default⟩,
    grownShelf_shelved.load grownShelf_linkFree (at?_vacancy grownShelf_linkFree rfl) _ _, rfl⟩

theorem grownActive_normalizes : Resolution.Normalizes grownActive Lock.grownManifests :=
  Resolution.normalizeAll_eq_ok_iff.1 rfl

theorem shadowedOutcome_base : Locked shadowedOutcome.active "base" (packManifest "base" []) :=
  ⟨_, rfl, rfl⟩

theorem grownActive_base : Locked grownActive "base" Lock.grownBase :=
  ⟨_, rfl, rfl⟩

theorem shadowedOutcome_collisionFree {today : ActivePacks}
    (h : (shelfSources vacancy).Activated grownShelf [] ⟨none, none, none⟩ today) :
    ∀ pack ∈ shadowedOutcome.lock.packs, ∀ m n, Locked shadowedOutcome.active pack.id m →
      Locked today pack.id n → n.CollisionFree m := by
  cases h.unique grownShelf_activated
  have hpacks : shadowedOutcome.lock.packs
      = [.ofManifest (packManifest "base" []), .ofManifest (packManifest "app" ["base"])] := rfl
  have happ : Locked shadowedOutcome.active "app" (packManifest "app" ["base"]) := ⟨_, rfl, rfl⟩
  have happ' : Locked grownActive "app" (packManifest "app" ["base"]) := ⟨_, rfl, rfl⟩
  rw [hpacks]
  intro pack hpack m n hm hn
  simp only [List.mem_cons, List.not_mem_nil, or_false] at hpack
  rcases hpack with rfl | rfl
  · cases hm.unique shadowedOutcome_base
    cases hn.unique grownActive_base
    exact Lock.grownBase_collisionFree
  · cases hm.unique happ
    cases hn.unique happ'
    exact fun _ => rfl

theorem base_not_unchanged : ¬ Resolution.Unchanged shadowedOutcome.active grownActive "base" := by
  rintro ⟨m, hm, hgrown⟩
  have heq := (shadowedOutcome_base.unique hm).trans (hgrown.unique grownActive_base)
  exact absurd heq (by decide)

theorem grownShelf_read :
    grownShelf.read [] shelfLock = .ok shadowedOutcome.lock.fileText.toUTF8 := by
  have hplace : grownShelf.IsPlace [] shelfLock ["locks"] "lock.json" := by
    decide
  exact hplace.read_eq grownShelf_linkFree rfl

/--
The lock that is written is accepted as long as nothing has changed, and is found to be violated once
the list of the installer has another `base`.
-/
theorem vacancy_check :
    shelfTree.LinkFree ∧ shelfTree.Grounded ∧ shelfTree.holdsDirectory [] = true ∧
      (shelfSources vacancy).Apart [] none shelfLock ∧
      (shelfSources vacancy).NoDetour shelfTree [] none shelfLock ∧
      ∃ o t', (shelfLocking vacancy).run [] ⟨none, none, none⟩ shelfTree = (o, t') ∧
        o.exitCode = ExitCode.success ∧
        ((shelfCheck vacancy).run [] ⟨none, none, none⟩ t').1.exitCode = ExitCode.success ∧
        grownShelf.read [] shelfLock = t'.read [] shelfLock ∧
        (∀ today, (shelfSources vacancy).Activated grownShelf [] ⟨none, none, none⟩ today →
          ∀ pack ∈ shadowedOutcome.lock.packs, ∀ m n, Locked shadowedOutcome.active pack.id m →
            Locked today pack.id n → n.CollisionFree m) ∧
        ((shelfCheck vacancy).run [] ⟨none, none, none⟩ grownShelf).1.exitCode
          = ExitCode.violation := by
  have hnothing := at?_vacancy shelfTree_linkFree rfl
  rcases shelfLocking_run hnothing with ⟨o, hrun, hok⟩
  have hapart : (shelfSources vacancy).Apart [] none shelfLock := shelfSources_apart (by decide)
  have hdetour : (shelfSources vacancy).NoDetour shelfTree [] none shelfLock := by
    have hforward : ∀ path ∈ (shelfSources vacancy).consulted [] none, ".." ∉ path.pieces := by
      decide
    intro path hpath before after hpieces
    exact absurd (by simp [hpieces]) (hforward path hpath)
  rcases lock_verify_agree (shelfLocking_command _) (shelfCheck_command _) shelfTree_linkFree
    shelfTree_grounded rfl hrun hok with
    ⟨request, outcome, hload, hrequest, hread, hchecked, hunchanged⟩
  have hshadowed : request = shadowedRequest none :=
    Except.ok.inj (hload.symm.trans (shelfTree_shelved.load shelfTree_linkFree hnothing _ _))
  subst hshadowed
  cases Except.ok.inj (hrequest.symm.trans shadowedRequest_run)
  have hsame : grownShelf.read [] shelfLock = lockedShelf.read [] shelfLock :=
    grownShelf_read.trans hread.symm
  have hviolation := (hchecked _ hsame fun _ => shadowedOutcome_collisionFree).2 grownActive
    grownShelf_activated (grownShelf_activated.exists_normalizes.1 ⟨_, grownActive_normalizes⟩)
    ⟨.ofManifest (packManifest "base" []), .head _, base_not_unchanged⟩
  exact ⟨shelfTree_linkFree, shelfTree_grounded, rfl, hapart, hdetour, o, lockedShelf, hrun, hok,
    hunchanged hapart hdetour, hsame, fun _ => shadowedOutcome_collisionFree, hviolation⟩

end

end Invocation

end CommandLine

end GovernanceLock
