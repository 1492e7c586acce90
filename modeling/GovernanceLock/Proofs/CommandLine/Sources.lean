import GovernanceLock.CommandLine.Sources
import GovernanceLock.Proofs.PolicyFiles

/-!
This module contains the proof that a request depends on no other files than those which its command
consults, and on none of them beyond what its path leads to.
-/

namespace GovernanceLock

open Except (bind_eq_ok_iff mapError_eq_ok_iff pure_eq_ok_iff)

namespace CommandLine.Sources

variable {s : Sources} {t t' : FileTree} {here : Location} {env : Environment}

/--
The paths that a command looks up to learn about candidates and policies.
-/
def consulted (s : Sources) (here : Location) (home : Option String) : List Path :=
  s.workspace.toList ++ s.installer.toList ++ s.user.toList
    ++ PolicyFiles.places s.repoPolicy (some (PolicyFiles.repoDirectory ⟨true, here⟩))
    ++ PolicyFiles.places s.globalPolicy (home.map PolicyFiles.globalDirectory)

def SameFiles (s : Sources) (here : Location) (home : Option String) (t t' : FileTree) : Prop :=
  ∀ path ∈ s.consulted here home, t'.at? here path = t.at? here path

theorem candidates_congr {list : Option Path} {items : List Json}
    (hsame : ∀ path ∈ list.toList, t'.at? here path = t.at? here path)
    (h : candidates t here list = .ok items) : candidates t' here list = .ok items := by
  cases list with
  | none => exact h
  | some path =>
    unfold candidates at h ⊢
    rw [mapError_eq_ok_iff] at h ⊢
    rcases RecordFile.exists_at?_of_readList_eq_ok h with ⟨n, hn⟩
    rw [RecordFile.readList_eq_ok_iff] at h ⊢
    rw [RecordFile.readValue_congr hn (hsame path (List.mem_singleton.2 rfl))]
    exact h

theorem policyFiles_eq :
    s.policyFiles t here env.home =
      ⟨PolicyFiles.chosen t here s.repoPolicy (some (PolicyFiles.repoDirectory ⟨true, here⟩)),
       PolicyFiles.chosen t here s.globalPolicy (env.home.map PolicyFiles.globalDirectory)⟩ := by
  unfold policyFiles PolicyFiles.orElse PolicyFiles.discover PolicyFiles.chosen
  rw [Option.bind_map]
  rfl

theorem offers_eq_ok_iff {offers : Offers} :
    s.offers t here = .ok offers ↔
      candidates t here s.workspace = .ok offers.workspace ∧
        candidates t here s.installer = .ok offers.installer ∧
        candidates t here s.user = .ok offers.user := by
  unfold Sources.offers
  simp only [bind_eq_ok_iff, pure_eq_ok_iff]
  constructor
  · rintro ⟨_, hws, _, his, _, hus, rfl⟩
    exact ⟨hws, his, hus⟩
  · rintro ⟨hws, his, hus⟩
    exact ⟨_, hws, _, his, _, hus, rfl⟩

theorem load_eq_ok_iff {selected : List String} {engineVersion : String} {request : Request} :
    s.load t here env selected engineVersion = .ok request ↔
      candidates t here s.workspace = .ok request.offers.workspace ∧
        candidates t here s.installer = .ok request.offers.installer ∧
        candidates t here s.user = .ok request.offers.user ∧
        PolicyFiles.loadFile t here (s.policyFiles t here env.home).repo = .ok request.repoPolicy ∧
        PolicyFiles.loadFile t here (s.policyFiles t here env.home).global
          = .ok request.globalPolicy ∧
        s.runtimeOverride env = .ok request.runtimeOverride ∧
        request.selected = selected ∧ request.engineVersion = engineVersion := by
  unfold load PolicyFiles.load
  simp only [bind_eq_ok_iff, mapError_eq_ok_iff, pure_eq_ok_iff, offers_eq_ok_iff]
  constructor
  · rintro ⟨_, ⟨hws, his, hus⟩, _, ⟨repo, hrepo, global, hglobal, rfl⟩, override, hoverride, rfl⟩
    exact ⟨hws, his, hus, hrepo, hglobal, hoverride, rfl, rfl⟩
  · rintro ⟨hws, his, hus, hrepo, hglobal, hoverride, rfl, rfl⟩
    exact ⟨request.offers, ⟨hws, his, hus⟩, (request.repoPolicy, request.globalPolicy),
      ⟨_, hrepo, _, hglobal, rfl⟩, request.runtimeOverride, hoverride, rfl⟩

theorem load_congr {selected selected' : List String} {engineVersion engineVersion' : String}
    {request : Request} (hsame : s.SameFiles here env.home t t')
    (h : s.load t here env selected engineVersion = .ok request) :
    s.load t' here env selected' engineVersion'
      = .ok { request with selected := selected', engineVersion := engineVersion' } := by
  unfold SameFiles consulted at hsame
  simp only [List.forall_mem_append] at hsame
  rcases hsame with ⟨⟨⟨⟨hworkspace, hinstaller⟩, huser⟩, hrepo⟩, hglobal⟩
  rw [load_eq_ok_iff, policyFiles_eq] at h
  rcases h with ⟨hws, his, hus, hrepoPolicy, hglobalPolicy, hoverride, _⟩
  rw [load_eq_ok_iff, policyFiles_eq, PolicyFiles.chosen_congr hrepo,
    PolicyFiles.chosen_congr hglobal]
  refine ⟨candidates_congr hworkspace hws, candidates_congr hinstaller his,
    candidates_congr huser hus, ?_, ?_, hoverride, rfl, rfl⟩
  · rw [← hrepoPolicy]
    apply PolicyFiles.loadFile_congr
    exact fun path h => hrepo path (PolicyFiles.mem_places_of_chosen h)
  · rw [← hglobalPolicy]
    apply PolicyFiles.loadFile_congr
    exact fun path h => hglobal path (PolicyFiles.mem_places_of_chosen h)

end CommandLine.Sources

end GovernanceLock
