import GovernanceLock.Proofs.Activation
import GovernanceLock.Proofs.Candidate
import GovernanceLock.Proofs.Resolution.Reproduction
import GovernanceLock.Request

/-!
This module contains the proof that the workspace cannot influence a lock behind the policy. What it
offers is either left out, or comes after what the installer and the user offer, and the marks of an
active record are no part of its manifest.
-/

namespace GovernanceLock

open Activation (Activates)
open Except (bind_eq_ok_iff mapError_eq_ok_iff pure_eq_ok_iff)

theorem Activation.ofRecord_mark (policy : TrustPolicy) (c : Candidate) :
    Manifest.ofRecord (mark policy c) = Manifest.ofRecord c.record := by
  unfold mark
  rw [Manifest.ofRecord_set (by decide), Manifest.ofRecord_set (by decide)]

namespace Request

def withWorkspace (r : Request) (l : List Json) : Request :=
  { r with offers := r.offers.withWorkspace l }

theorem activate_eq_ok_iff {r : Request} {policy : TrustPolicy} {active : ActivePacks} :
    r.activate = .ok (policy, active) ↔
      policy = r.policy ∧
        ∃ candidates, Candidate.collect r.offers = .ok candidates ∧
          Activates candidates policy active := by
  unfold activate
  simp only [bind_eq_ok_iff, mapError_eq_ok_iff, pure_eq_ok_iff, Activation.select_eq_ok_iff,
    Prod.mk.injEq]
  constructor
  · rintro ⟨candidates, hcollect, _, hactive, rfl, rfl⟩
    exact ⟨rfl, candidates, hcollect, hactive⟩
  · rintro ⟨rfl, candidates, hcollect, hactive⟩
    exact ⟨candidates, hcollect, active, hactive, rfl, rfl⟩

theorem run_eq_ok_iff {r : Request} {outcome : Outcome} :
    r.run = .ok outcome ↔
      r.activate = .ok (outcome.policy, outcome.active) ∧
        Resolution.resolve outcome.active r.selected r.engineVersion = .ok outcome.lock := by
  unfold run
  simp only [bind_eq_ok_iff, mapError_eq_ok_iff, pure_eq_ok_iff]
  constructor
  · rintro ⟨⟨policy, active⟩, hactive, lock, hlock, rfl⟩
    exact ⟨hactive, hlock⟩
  · rintro ⟨hactive, hlock⟩
    exact ⟨(outcome.policy, outcome.active), hactive, outcome.lock, hlock, rfl⟩

theorem run_withWorkspace_nil {r : Request} {outcome : Outcome}
    (hdisabled : r.policy.workspaceOverrides = false) (h : r.run = .ok outcome) :
    (r.withWorkspace []).run = .ok outcome := by
  rw [run_eq_ok_iff, activate_eq_ok_iff] at h ⊢
  rcases h with ⟨⟨hpolicy, candidates, hcollect, hactive⟩, hlock⟩
  refine ⟨⟨hpolicy, _, Candidate.collect_withWorkspace_nil hcollect, ?_⟩, hlock⟩
  apply hactive.filter
  rw [hpolicy]
  exact hdisabled

theorem run_withWorkspace_unique {r : Request} {l : List Json} {outcome other : Outcome}
    (hdisabled : r.policy.workspaceOverrides = false) (h : r.run = .ok outcome)
    (hother : (r.withWorkspace l).run = .ok other) : outcome = other := by
  have h := run_withWorkspace_nil hdisabled h
  have hother := run_withWorkspace_nil (r := r.withWorkspace l) hdisabled hother
  have hsame : (r.withWorkspace l).withWorkspace [] = r.withWorkspace [] := rfl
  rw [hsame, h] at hother
  cases hother
  rfl

theorem activate_withWorkspace_nil {r : Request} {policy : TrustPolicy} {active : ActivePacks}
    (h : r.activate = .ok (policy, active)) :
    ∃ rest, (r.withWorkspace []).activate = .ok (policy, rest) ∧
      ∀ tier id, tier ≠ .workspace → r.offers.Offer tier id →
        ∃ record, active.get? id = some record ∧ rest.get? id = some record := by
  rw [activate_eq_ok_iff] at h
  rcases h with ⟨hpolicy, candidates, hcollect, hactive⟩
  rcases Activation.exists_select_filter candidates policy with ⟨rest, hrest⟩
  rw [Activation.select_eq_ok_iff] at hrest
  refine ⟨rest, ?_, ?_⟩
  · rw [activate_eq_ok_iff]
    exact ⟨hpolicy, _, Candidate.collect_withWorkspace_nil hcollect, hrest⟩
  · intro tier id htier hoffer
    apply hactive.get?_eq_filter hrest
    rcases (Candidate.exists_mem_collect_iff hcollect tier id).2 hoffer with ⟨c, hc, rfl, rfl⟩
    exact ⟨c, hc, rfl, htier⟩

theorem exists_run_of_disabled {r other : Request} {outcome : Outcome}
    (hdisabled : r.policy.workspaceOverrides = false) (h : r.run = .ok outcome)
    (hoffers : other.offers = r.offers) (hselected : other.selected = r.selected)
    (hengine : other.engineVersion = r.engineVersion) :
    ∃ o, other.run = .ok o ∧ o.lock = outcome.lock := by
  rw [run_eq_ok_iff, activate_eq_ok_iff] at h
  rcases h with ⟨⟨hpolicy, candidates, hcollect, hactive⟩, hlock⟩
  rw [← hpolicy] at hdisabled
  have hchoice := hactive.choice?_eq_choice? hdisabled other.policy
  have hsome : ∀ c ∈ candidates, ∃ d, Activation.choice? candidates other.policy c.id = some d := by
    intro c hc
    rw [hchoice]
    exact hactive.chosen c hc
  rcases Activation.exists_select hsome with ⟨active, hselect⟩
  rw [Activation.select_eq_ok_iff] at hselect
  -- The records differ at most in their marks.
  have hmanifests : ∀ key, (active.get? key).map Manifest.ofRecord
      = (outcome.active.get? key).map Manifest.ofRecord := by
    intro key
    rw [hselect.get?_eq, hactive.get?_eq, hchoice, Option.map_map, Option.map_map]
    congr 1
    funext c
    exact (Activation.ofRecord_mark _ c).trans (Activation.ofRecord_mark _ c).symm
  refine ⟨⟨other.policy, active, outcome.lock⟩, ?_, rfl⟩
  rw [run_eq_ok_iff, activate_eq_ok_iff, hoffers, hselected, hengine]
  exact ⟨⟨rfl, candidates, hcollect, hselect⟩, Resolution.resolve_of_ofRecord_eq hmanifests hlock⟩

/--
Where the policy leaves the workspace out, what the workspace offers makes no difference to the
outcome of a successful run, and a policy that lets it take part would have led to the same lock.
Under any policy, the workspace has no say about the packs that the installer or the user offers.
-/
theorem workspace_isolated :
    (∀ (r : Request) (outcome : Outcome), r.policy.workspaceOverrides = false →
      r.run = .ok outcome → (r.withWorkspace []).run = .ok outcome) ∧
    (∀ (r : Request) (l : List Json) (outcome other : Outcome),
      r.policy.workspaceOverrides = false → r.run = .ok outcome →
      (r.withWorkspace l).run = .ok other → outcome = other) ∧
    (∀ (r : Request) (policy : TrustPolicy) (active : ActivePacks),
      r.activate = .ok (policy, active) →
      ∃ rest, (r.withWorkspace []).activate = .ok (policy, rest) ∧
        ∀ id, r.offers.Offer .installer id ∨ r.offers.Offer .user id →
          ∃ record, active.get? id = some record ∧ rest.get? id = some record) ∧
    (∀ (r enabled : Request) (outcome : Outcome), r.policy.workspaceOverrides = false →
      r.run = .ok outcome → enabled.policy.workspaceOverrides = true →
      enabled.offers = r.offers → enabled.selected = r.selected →
      enabled.engineVersion = r.engineVersion →
      ∃ o, enabled.run = .ok o ∧ o.lock = outcome.lock) := by
  refine ⟨?_, ?_, ?_, ?_⟩
  · intro r outcome hdisabled h
    exact run_withWorkspace_nil hdisabled h
  · intro r l outcome other hdisabled h hother
    exact run_withWorkspace_unique hdisabled h hother
  · intro r policy active h
    rcases activate_withWorkspace_nil h with ⟨rest, hrest, hsame⟩
    refine ⟨rest, hrest, ?_⟩
    intro id hid
    rcases hid with hid | hid
    · exact hsame .installer id (by decide) hid
    · exact hsame .user id (by decide) hid
  · intro r enabled outcome hdisabled h _ hoffers hselected hengine
    exact exists_run_of_disabled hdisabled h hoffers hselected hengine

section

/-!
A request in which the workspace and the user offer an `app` besides that of the installer.
-/

open Resolution (appLock lockedRecords_resolve packRecord)

def shadowedRequest (override : Option Bool) : Request where
  offers :=
    { workspace := [.object (packRecord "app" ["absent"])]
      installer := [.object (packRecord " app" ["base"]), .object (packRecord "base" [])]
      user := [.object (packRecord "other" ["app"]), .object (packRecord "app" [])] }
  repoPolicy := none
  globalPolicy := none
  runtimeOverride := override
  selected := ["app", " ", " app "]
  engineVersion := "02.0.0"

def shadowedActive (policy : TrustPolicy) : ActivePacks :=
  .ofList
    [("app", Activation.mark policy ⟨"app", .installer, packRecord " app" ["base"]⟩),
     ("base", Activation.mark policy ⟨"base", .installer, packRecord "base" []⟩),
     ("other", Activation.mark policy ⟨"other", .user, packRecord "other" ["app"]⟩)]

def shadowedOutcome : Outcome where
  policy := ⟨false, .default⟩
  active := shadowedActive ⟨false, .default⟩
  lock := appLock

theorem shadowedRequest_run : (shadowedRequest none).run = .ok shadowedOutcome := by
  rw [run_eq_ok_iff]
  refine ⟨rfl, ?_⟩
  apply Resolution.resolve_of_ofRecord_eq _ lockedRecords_resolve
  intro key
  unfold KeyMap.get?
  rw [← KeyMap.lookup_map, ← KeyMap.lookup_map]
  rfl

theorem shadowedRequest_isolated :
    (shadowedRequest none).policy.workspaceOverrides = false ∧
      (shadowedRequest none).run = .ok shadowedOutcome ∧
      ((shadowedRequest none).withWorkspace []).run = .ok shadowedOutcome ∧
      (∃ rest, ((shadowedRequest (some true)).withWorkspace []).activate
          = .ok (⟨true, .runtimeOverride⟩, rest) ∧
        ∃ record, (shadowedActive ⟨true, .runtimeOverride⟩).get? "app" = some record ∧
          rest.get? "app" = some record) ∧
      ∃ o, (shadowedRequest (some true)).run = .ok o ∧ o.lock = appLock := by
  have happ : (shadowedRequest (some true)).offers.Offer .installer "app" :=
    ⟨packRecord " app" ["base"], .head _, rfl⟩
  rcases workspace_isolated with ⟨hwithout, _, hactivate, henabled⟩
  refine ⟨rfl, shadowedRequest_run, hwithout _ _ rfl shadowedRequest_run, ?_, ?_⟩
  · rcases hactivate (shadowedRequest (some true)) _ _ rfl with ⟨rest, hrest, hsame⟩
    exact ⟨rest, hrest, hsame "app" (.inl happ)⟩
  · exact henabled _ _ shadowedOutcome rfl shadowedRequest_run rfl rfl rfl rfl

end

end Request

end GovernanceLock
