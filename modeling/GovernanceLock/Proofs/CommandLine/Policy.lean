import GovernanceLock.Proofs.CommandLine.Sources
import GovernanceLock.Proofs.FileTree.Replace
import GovernanceLock.Proofs.Json.RoundTrip
import GovernanceLock.Proofs.Trust

/-!
This module contains the proof that the policy of a loaded request is decided by the first who says
anything: the policy file of the repository, that of the user, and the override of the run. A file
that can be looked up but holds no record, or an override that is no word, stops the command; nobody
further down is asked instead. A file that is there but cannot be looked up does not stop it.
-/

namespace GovernanceLock

open Json (Record)
open TrustPolicy (Decided Means)

namespace Environment

variable {env : Environment}

theorem runtimeOverride_eq_some_iff {b : Bool} :
    env.runtimeOverride = some b ↔ ∃ text, env.workspaceOverrides = some text ∧ Means text b := by
  unfold runtimeOverride
  rw [Option.bind_eq_some_iff]
  simp only [TrustPolicy.parseOverride_eq_some_iff]

theorem runtimeOverride_eq_none_iff :
    env.runtimeOverride = none ↔ ∀ text b, env.workspaceOverrides = some text → ¬ Means text b := by
  rw [Option.eq_none_iff_forall_ne_some]
  simp only [ne_eq, runtimeOverride_eq_some_iff, not_exists, not_and]
  exact forall_comm

end Environment

namespace CommandLine.Sources

open Except (exists_eq_error_iff)
open PolicyFiles (Consulted Found globalDirectory repoDirectory)
open RecordFile (Holds)

/--
The override of the run: the word of the option, or that of the variable if there is no option.
-/
inductive Overrides (s : Sources) (env : Environment) : Option Bool → Prop where
  | option {text : String} {b : Bool} : s.overrides = some text → Means text b →
      Overrides s env (some b)
  | environment {text : String} {b : Bool} : s.overrides = none →
      env.workspaceOverrides = some text → Means text b → Overrides s env (some b)
  | silent : s.overrides = none →
      (∀ text b, env.workspaceOverrides = some text → ¬ Means text b) → Overrides s env none

/--
The path of the policy file that is consulted for the repository, or for the user.
-/
inductive ConsultsPolicy (s : Sources) (t : FileTree) (here : Location) (env : Environment) :
    Path → Prop where
  | repo {path : Path} : Consulted t here s.repoPolicy (some (repoDirectory ⟨true, here⟩)) path →
      ConsultsPolicy s t here env path
  | global {path : Path} : Consulted t here s.globalPolicy (env.home.map globalDirectory) path →
      ConsultsPolicy s t here env path

variable {s : Sources} {t : FileTree} {here : Location} {env : Environment}

theorem runtimeOverride_eq_ok_iff {override : Option Bool} :
    s.runtimeOverride env = .ok override ↔ s.Overrides env override := by
  unfold runtimeOverride
  split
  · next hoption =>
    rw [Except.ok.injEq]
    constructor
    · intro h
      cases override with
      | none => exact .silent hoption (Environment.runtimeOverride_eq_none_iff.1 h)
      | some b =>
        rcases Environment.runtimeOverride_eq_some_iff.1 h with ⟨text, htext, hb⟩
        exact .environment hoption htext hb
    · intro h
      cases h with
      | option hsome => exact absurd hoption (by simp [hsome])
      | environment _ htext hb => exact Environment.runtimeOverride_eq_some_iff.2 ⟨_, htext, hb⟩
      | silent _ hsilent => exact Environment.runtimeOverride_eq_none_iff.2 hsilent
  · next text hoption =>
    constructor
    · intro h
      split at h
      · next b hparse =>
        cases h
        exact .option hoption (TrustPolicy.parseOverride_eq_some_iff.1 hparse)
      · cases h
    · intro h
      cases h with
      | option hsome hb =>
        rw [hoption, Option.some.injEq] at hsome
        rw [hsome, TrustPolicy.parseOverride_eq_some_iff.2 hb]
      | environment hnone => exact absurd hoption (by simp [hnone])
      | silent hnone => exact absurd hoption (by simp [hnone])

theorem exists_overrides_iff :
    (∃ override, s.Overrides env override) ↔
      ∀ text, s.overrides = some text → ∃ b, Means text b := by
  constructor
  · rintro ⟨override, h⟩ text htext
    cases h with
    | option hsome hb =>
      rw [htext, Option.some.injEq] at hsome
      rw [hsome]
      exact ⟨_, hb⟩
    | environment hnone => exact absurd htext (by simp [hnone])
    | silent hnone => exact absurd htext (by simp [hnone])
  · intro h
    cases hoption : s.overrides with
    | some text =>
      rcases h text hoption with ⟨b, hb⟩
      exact ⟨some b, .option hoption hb⟩
    | none =>
      refine ⟨env.runtimeOverride, ?_⟩
      rw [← runtimeOverride_eq_ok_iff, runtimeOverride, hoption]

variable {selected : List String} {engineVersion : String}

theorem load_eq_ok_iff_found {request : Request} :
    s.load t here env selected engineVersion = .ok request ↔
      s.offers t here = .ok request.offers ∧
        Found t here s.repoPolicy (some (repoDirectory ⟨true, here⟩)) request.repoPolicy ∧
        Found t here s.globalPolicy (env.home.map globalDirectory) request.globalPolicy ∧
        s.Overrides env request.runtimeOverride ∧
        request.selected = selected ∧ request.engineVersion = engineVersion := by
  rw [load_eq_ok_iff, policyFiles_eq, PolicyFiles.loadFile_chosen_eq_ok_iff,
    PolicyFiles.loadFile_chosen_eq_ok_iff, runtimeOverride_eq_ok_iff, offers_eq_ok_iff, and_assoc,
    and_assoc]

theorem exists_load_iff :
    (∃ request, s.load t here env selected engineVersion = .ok request) ↔
      (∃ offers, s.offers t here = .ok offers) ∧
        (∀ path, s.ConsultsPolicy t here env path → t.IsThere here path → ¬ t.Hidden here path →
          ∃ members, Holds t here path members) ∧
        ∀ text, s.overrides = some text → ∃ b, Means text b := by
  have hfound : (∀ path, s.ConsultsPolicy t here env path → t.IsThere here path →
        ¬ t.Hidden here path → ∃ members, Holds t here path members) ↔
      (∃ repo, Found t here s.repoPolicy (some (repoDirectory ⟨true, here⟩)) repo) ∧
        ∃ global, Found t here s.globalPolicy (env.home.map globalDirectory) global := by
    rw [PolicyFiles.exists_found_iff, PolicyFiles.exists_found_iff]
    constructor
    · intro h
      exact ⟨fun path hpath => h path (.repo hpath), fun path hpath => h path (.global hpath)⟩
    · rintro ⟨hrepo, hglobal⟩ path (hpath | hpath)
      · exact hrepo path hpath
      · exact hglobal path hpath
  rw [hfound, ← exists_overrides_iff]
  simp only [load_eq_ok_iff_found]
  constructor
  · rintro ⟨request, hoffers, hrepo, hglobal, hoverride, _⟩
    exact ⟨⟨_, hoffers⟩, ⟨⟨_, hrepo⟩, _, hglobal⟩, _, hoverride⟩
  · rintro ⟨⟨offers, hoffers⟩, ⟨⟨repo, hrepo⟩, global, hglobal⟩, override, hoverride⟩
    exact ⟨⟨offers, repo, global, override, selected, engineVersion⟩, hoffers, hrepo, hglobal,
      hoverride, rfl, rfl⟩

/--
The policy of a loaded request is decided by what is found in the policy files, and then by the
override. Besides the lists of candidates, only two things stop the loading, and each of them does:
a policy file that is there, can be looked up and holds no record, and an option that is no word.
-/
theorem load_fails_closed :
    (∀ request, s.load t here env selected engineVersion = .ok request →
      Found t here s.repoPolicy (some (repoDirectory ⟨true, here⟩)) request.repoPolicy ∧
        Found t here s.globalPolicy (env.home.map globalDirectory) request.globalPolicy ∧
        s.Overrides env request.runtimeOverride ∧
        Decided request.repoPolicy request.globalPolicy request.runtimeOverride request.policy) ∧
      ((∃ failure, s.load t here env selected engineVersion = .error failure) ↔
        (∃ failure, s.offers t here = .error failure) ∨
        (∃ path, s.ConsultsPolicy t here env path ∧ t.IsThere here path ∧ ¬ t.Hidden here path ∧
          ∀ members, ¬ Holds t here path members) ∨
        ∃ text, s.overrides = some text ∧ ∀ b, ¬ Means text b) := by
  constructor
  · intro request h
    rcases load_eq_ok_iff_found.1 h with ⟨_, hrepo, hglobal, hoverride, _⟩
    exact ⟨hrepo, hglobal, hoverride, TrustPolicy.decide_eq_iff.1 rfl⟩
  · rw [exists_eq_error_iff, exists_eq_error_iff, exists_load_iff]
    simp only [Classical.not_and_iff_not_or_not, Classical.not_forall, not_exists, exists_prop]

section

/-!
A directory and a TOML file in the usual places of a repository, and other files elsewhere.
-/

def policyRecord (enabled : Bool) : Record :=
  [("workspace_overrides_enabled", .bool enabled)]

def policyText (enabled : Bool) : String :=
  (Json.object (policyRecord enabled)).render .canonical

def tomlText : String :=
  "# no packs of the workspace\nworkspace_overrides_enabled = false\n"

def brokenText : String :=
  "workspace_overrides_enabled = fals\n"

def policyTree : FileTree :=
  ⟨[([".packlock"], .directory),
    ([".packlock", "policy.json"], .directory),
    ([".packlock", "policy.toml"], .file tomlText.toUTF8),
    (["broken.toml"], .file brokenText.toUTF8),
    (["global"], .file (policyText true).toUTF8)]⟩

def jsonPlace : Path := ⟨true, [".packlock", "policy.json"]⟩

def tomlPlace : Path := ⟨true, [".packlock", "policy.toml"]⟩

def brokenPlace : Path := ⟨false, ["broken.toml"]⟩

def globalPlace : Path := ⟨false, ["global"]⟩

def policySources (repoPolicy : Option Path) (overrides : Option String) : Sources where
  workspace := none
  installer := none
  user := none
  repoPolicy := repoPolicy
  globalPolicy := some globalPlace
  overrides := overrides

def policyRequest (repoPolicy : Option Record) (runtimeOverride : Option Bool) : Request where
  offers := ⟨[], [], []⟩
  repoPolicy := repoPolicy
  globalPolicy := some (policyRecord true)
  runtimeOverride := runtimeOverride
  selected := []
  engineVersion := "1.0.0"

theorem parse?_policyText (enabled : Bool) :
    Json.parse? (policyText enabled) = some (.object (policyRecord enabled)) := by
  apply Json.parse?_render
  apply Json.Fits.object
  · cases enabled <;> decide
  · simp [policyRecord, Json.Fits.bool]

theorem parse?_tomlText : Toml.parse? tomlText.toList = some (.object (policyRecord false)) := by
  unfold tomlText
  simp only [String.reduceToList]
  rfl

theorem policyTree_linkFree : policyTree.LinkFree :=
  FileTree.linkFree_of_forall (by simp [policyTree])

theorem policyTree_jsonPlace : policyTree.at? [] jsonPlace = some .directory := by
  have hplace : policyTree.IsPlace [] jsonPlace [".packlock"] "policy.json" := by
    decide
  exact hplace.at?_eq policyTree_linkFree rfl

theorem policyTree_tomlPlace : policyTree.at? [] tomlPlace = some (.file tomlText.toUTF8) := by
  have hplace : policyTree.IsPlace [] tomlPlace [".packlock"] "policy.toml" := by
    decide
  exact hplace.at?_eq policyTree_linkFree rfl

theorem policyTree_brokenPlace :
    policyTree.at? [] brokenPlace = some (.file brokenText.toUTF8) := by
  have hplace : policyTree.IsPlace [] brokenPlace [] "broken.toml" := by
    decide
  exact hplace.at?_eq policyTree_linkFree rfl

theorem policyTree_globalPlace :
    policyTree.at? [] globalPlace = some (.file (policyText true).toUTF8) := by
  have hplace : policyTree.IsPlace [] globalPlace [] "global" := by
    decide
  exact hplace.at?_eq policyTree_linkFree rfl

theorem policyTree_load :
    (policySources none (some " Yes ")).load policyTree [] ⟨none, some "on", none⟩ [] "1.0.0"
      = .ok (policyRequest (some (policyRecord false)) (some true)) := by
  have hrepo : Holds policyTree [] tomlPlace (policyRecord false) :=
    ⟨_, _, policyTree_tomlPlace, Text.ofUtf8?_toUTF8 _, parse?_tomlText⟩
  have hglobal : Holds policyTree [] globalPlace (policyRecord true) :=
    ⟨_, _, policyTree_globalPlace, Text.ofUtf8?_toUTF8 _, parse?_policyText true⟩
  have hplaces : IsFirst (fun path => ∃ n, policyTree.at? [] path = some n ∧ n.isFile = true)
      [jsonPlace, tomlPlace] tomlPlace := by
    apply IsFirst.tail
    · simp [policyTree_jsonPlace, FileTree.Node.isFile]
    · exact .head ⟨_, policyTree_tomlPlace, rfl⟩
  have hoption : Means " Yes " true :=
    TrustPolicy.parseOverride_eq_some_iff.1 (by decide)
  rw [load_eq_ok_iff_found]
  exact ⟨rfl, .record (.usual hplaces) hrepo, .record .given hglobal, .option rfl hoption, rfl, rfl⟩

/--
The TOML file of the repository decides, whatever the user and the run say. Nothing is loaded where
what the run says is no word, and where the path that is given for the repository leads to a
directory or to a broken file.
-/
theorem policyTree_fails_closed :
    (policySources none (some " Yes ")).load policyTree [] ⟨none, some "on", none⟩ [] "1.0.0"
        = .ok (policyRequest (some (policyRecord false)) (some true)) ∧
      Decided (some (policyRecord false)) (some (policyRecord true)) (some true)
        (policyRequest (some (policyRecord false)) (some true)).policy ∧
      (policyRequest (some (policyRecord false)) (some true)).policy = ⟨false, .repoPolicy⟩ ∧
      (∃ failure, (policySources none (some "maybe")).load policyTree [] ⟨none, some "on", none⟩ []
        "1.0.0" = .error failure) ∧
      (∃ failure, (policySources (some jsonPlace) none).load policyTree [] ⟨none, some "on", none⟩
        [] "1.0.0" = .error failure) ∧
      ∃ failure, (policySources (some brokenPlace) none).load policyTree [] ⟨none, some "on", none⟩
        [] "1.0.0" = .error failure := by
  have hmaybe : ∀ b, ¬ Means "maybe" b := by
    simp only [← TrustPolicy.parseOverride_eq_some_iff]
    decide
  have hdirectory : ∀ members, ¬ Holds policyTree [] jsonPlace members := by
    rintro members ⟨bytes, text, hat, _⟩
    rw [policyTree_jsonPlace] at hat
    cases hat
  have hbroken : ∀ members, ¬ Holds policyTree [] brokenPlace members := by
    rintro members ⟨bytes, text, hat, htext, hparse⟩
    rw [policyTree_brokenPlace] at hat
    cases hat
    rw [Text.ofUtf8?_toUTF8] at htext
    cases htext
    have hnone : (RecordFile.Format.ofPath brokenPlace).parse? brokenText = none := by
      decide +kernel
    rw [hnone] at hparse
    cases hparse
  refine ⟨policyTree_load, (load_fails_closed.1 _ policyTree_load).2.2.2, rfl, ?_, ?_, ?_⟩
  · exact load_fails_closed.2.2 (.inr (.inr ⟨"maybe", rfl, hmaybe⟩))
  · have hfound : policyTree.at? [] jsonPlace ≠ none := by
      simp [policyTree_jsonPlace]
    rcases FileTree.at?_ne_none_iff.1 hfound with ⟨hthere, hvisible⟩
    exact load_fails_closed.2.2
      (.inr (.inl ⟨jsonPlace, .repo .given, hthere, hvisible, hdirectory⟩))
  · have hfound : policyTree.at? [] brokenPlace ≠ none := by
      simp [policyTree_brokenPlace]
    rcases FileTree.at?_ne_none_iff.1 hfound with ⟨hthere, hvisible⟩
    exact load_fails_closed.2.2
      (.inr (.inl ⟨brokenPlace, .repo .given, hthere, hvisible, hbroken⟩))

end

section

/-!
A policy file of the repository in a closed directory, and one of the user that says the opposite.
-/

def closedTree : FileTree :=
  ⟨[(["policies"], .closedDirectory),
    (["policies", "policy.json"], .file (policyText false).toUTF8),
    (["global"], .file (policyText true).toUTF8)]⟩

def closedPlace : Path := ⟨false, ["policies", "policy.json"]⟩

theorem closedTree_linkFree : closedTree.LinkFree :=
  FileTree.linkFree_of_forall (by simp [closedTree])

theorem closedTree_globalPlace :
    closedTree.at? [] globalPlace = some (.file (policyText true).toUTF8) := by
  have hplace : closedTree.IsPlace [] globalPlace [] "global" := by
    decide
  exact hplace.at?_eq closedTree_linkFree rfl

theorem closedTree_isThere : closedTree.IsThere [] closedPlace := by
  refine ⟨rfl, ["policies", "policy.json"], ?_⟩
  apply FileTree.Leads.directory (by decide) (by decide)
  exact .file (by decide) rfl rfl

theorem closedTree_denied : closedTree.locate .target [] closedPlace = .error .denied := by
  have hpolicies : closedTree.walk .target FileTree.linkLimit [] ["policies", "policy.json"]
      = closedTree.walk .target FileTree.linkLimit ["policies"] ["policy.json"] :=
    FileTree.walk_of_directory (by decide) (by decide) nofun (by decide) (by decide)
  have hdenied : closedTree.walk .target FileTree.linkLimit ["policies"] ["policy.json"]
      = .error .denied := by
    rw [FileTree.walk, if_pos (by decide)]
  exact hpolicies.trans hdenied

theorem closedTree_hidden : closedTree.Hidden [] closedPlace :=
  ⟨closedTree_isThere, _, .denied, closedTree_denied⟩

theorem closedTree_load :
    (policySources (some closedPlace) none).load closedTree [] ⟨none, none, none⟩ [] "1.0.0"
      = .ok (policyRequest none none) := by
  have hglobal : Holds closedTree [] globalPlace (policyRecord true) :=
    ⟨_, _, closedTree_globalPlace, Text.ofUtf8?_toUTF8 _, parse?_policyText true⟩
  rw [load_eq_ok_iff_found]
  refine ⟨rfl, .nothing ?_, .record .given hglobal, .silent rfl nofun, rfl, rfl⟩
  intro path hpath
  cases hpath
  exact .inr closedTree_hidden

/--
Not every policy file that is there and holds no record for the reader stops the loading: here the
one of the repository says that packs of the workspace are not wanted, but its directory is closed,
and the one of the user decides that they are.
-/
theorem closedTree_falls_through :
    (¬ ∀ (s : Sources) (t : FileTree) (here : Location) (env : Environment) (selected : List String)
        (engineVersion : String) (path : Path),
        s.ConsultsPolicy t here env path → t.IsThere here path →
        (∀ members, ¬ Holds t here path members) →
        ∃ failure, s.load t here env selected engineVersion = .error failure) ∧
      closedTree.get? ["policies", "policy.json"] = some (.file (policyText false).toUTF8) ∧
      Json.parse? (policyText false) = some (.object (policyRecord false)) ∧
      (policySources (some closedPlace) none).load closedTree [] ⟨none, none, none⟩ [] "1.0.0"
        = .ok (policyRequest none none) ∧
      (policyRequest none none).policy = ⟨true, .globalPolicy⟩ := by
  refine ⟨?_, rfl, parse?_policyText false, closedTree_load, rfl⟩
  intro hall
  have hunread : ∀ members, ¬ Holds closedTree [] closedPlace members := by
    intro members hholds
    exact hholds.ne_none (FileTree.at?_eq_none_iff.2 (.inr closedTree_hidden))
  rcases hall _ closedTree [] ⟨none, none, none⟩ [] "1.0.0" closedPlace
    (.repo (s := policySources (some closedPlace) none) .given) closedTree_isThere hunread
    with ⟨failure, hfailure⟩
  rw [closedTree_load] at hfailure
  cases hfailure

end

end CommandLine.Sources

end GovernanceLock
