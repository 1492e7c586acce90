import GovernanceLock.Proofs.Candidate.Refusal
import GovernanceLock.Proofs.Request.Isolation
import GovernanceLock.Proofs.Trust

/-!
This module contains the proof that activation picks one record for every pack that is offered:
that of the most trusted tier that offers it, unchanged but for its marks. The only packs that may
fail to be picked are those of the workspace alone, and the only lists that are refused are those
with an element that is no candidate.
-/

namespace GovernanceLock

open Except (bind_eq_error_iff mapError_eq_error_iff mapError_eq_ok_iff pure_ne_error)
open Json (Record)
open Manifest (IsText)

namespace Offers

def Lists (offers : Offers) (tier : Tier) (id : PackId) : Prop :=
  ∃ v ∈ offers.list tier, Candidate.Names v id

def OnlyInWorkspace (offers : Offers) (id : PackId) : Prop :=
  offers.Lists .workspace id ∧ ¬ offers.Lists .installer id ∧ ¬ offers.Lists .user id

theorem offer_iff_lists {offers : Offers} {tier : Tier} {id : PackId} :
    offers.Offer tier id ↔ offers.Lists tier id := by
  unfold Offer Lists
  constructor
  · rintro ⟨r, hr, hid⟩
    exact ⟨.object r, hr, Candidate.names_object_iff.2 hid⟩
  · rintro ⟨_, hv, r, rfl, hid⟩
    exact ⟨r, hv, Candidate.names_object_iff.1 ⟨r, rfl, hid⟩⟩

end Offers

namespace Activation

variable {offers : Offers} {candidates : List Candidate} {policy : TrustPolicy} {id : PackId}

/--
The record is that of the first tier with one for the pack, of those that are trusted most, as it
stands in the list of this tier except for its marks.
-/
structure Picked (offers : Offers) (policy : TrustPolicy) (id : PackId) (record : Record)
    (tier : Tier) (raw : Record) : Prop where
  first : IsFirst (offers.Lists · id) [.installer, .user, .workspace] tier
  listed : .object raw ∈ offers.list tier
  named : IsText (raw.field "id") id
  only : ∀ other : Record, .object other ∈ offers.list tier → IsText (other.field "id") id →
    other = raw
  source : KeyMap.lookup "source" record = some (.string tier.name)
  policySource : KeyMap.lookup "policy_source" record = some (.string policy.source.name)
  others : ∀ key, key ≠ "source" → key ≠ "policy_source" →
    KeyMap.lookup key record = KeyMap.lookup key raw

section

variable (h : Candidate.collect offers = .ok candidates)

include h

theorem offer?_eq_none_iff_not_lists {tier : Tier} :
    offer? candidates id tier = none ↔ ¬ offers.Lists tier id := by
  rw [offer?_eq_none_iff, ← Offers.offer_iff_lists, ← Candidate.exists_mem_collect_iff h]
  constructor
  · rintro hne ⟨c, hc, htier, hid⟩
    exact hne c hc hid htier
  · intro hne c hc hid htier
    exact hne ⟨c, hc, htier, hid⟩

theorem exists_mem_iff_exists_lists :
    (∃ c ∈ candidates, c.id = id) ↔ ∃ tier, offers.Lists tier id := by
  simp only [← Offers.offer_iff_lists, ← Candidate.exists_mem_collect_iff h]
  constructor
  · rintro ⟨c, hc, hid⟩
    exact ⟨c.tier, c, hc, rfl, hid⟩
  · rintro ⟨_, c, hc, _, hid⟩
    exact ⟨c, hc, hid⟩

theorem offered_and_choice?_eq_none_iff :
    (∃ c ∈ candidates, c.id = id) ∧ choice? candidates policy id = none ↔
      policy.workspaceOverrides = false ∧ offers.OnlyInWorkspace id := by
  have hnone : choice? candidates policy id = none ↔
      ∀ tier ∈ policy.allowed, ¬ offers.Lists tier id := by
    unfold choice?
    rw [List.findSome?_eq_none_iff]
    simp only [offer?_eq_none_iff_not_lists h]
  rw [exists_mem_iff_exists_lists h, hnone]
  unfold TrustPolicy.allowed Offers.OnlyInWorkspace
  constructor
  · rintro ⟨⟨tier, htier⟩, hall⟩
    split at hall
    · simp only [List.forall_mem_cons] at hall
      rcases hall with ⟨hinstaller, huser, hworkspace, _⟩
      cases tier with
      | workspace => exact absurd htier hworkspace
      | installer => exact absurd htier hinstaller
      | user => exact absurd htier huser
    · next hdisabled =>
      simp only [List.forall_mem_cons] at hall
      rcases hall with ⟨hinstaller, huser, _⟩
      refine ⟨Bool.eq_false_of_not_eq_true hdisabled, ?_, hinstaller, huser⟩
      cases tier with
      | workspace => exact htier
      | installer => exact absurd htier hinstaller
      | user => exact absurd htier huser
  · rintro ⟨hdisabled, hworkspace, hinstaller, huser⟩
    refine ⟨⟨.workspace, hworkspace⟩, ?_⟩
    rw [hdisabled, if_neg Bool.false_ne_true]
    simp [hinstaller, huser]

theorem offering_of_onlyInWorkspace (hid : offers.OnlyInWorkspace id) :
    offering candidates id = [.workspace] := by
  rcases hid with ⟨hworkspace, hinstaller, huser⟩
  have hsome : offer? candidates id .workspace ≠ none := by
    rw [Ne, offer?_eq_none_iff_not_lists h]
    exact fun hnot => hnot hworkspace
  rw [← offer?_eq_none_iff_not_lists h] at hinstaller huser
  unfold offering Tier.all
  simp [hinstaller, huser, Option.isSome_iff_ne_none, hsome]

theorem select_eq_error_iff_onlyInWorkspace {e : Error} :
    select candidates policy = .error e ↔
      policy.workspaceOverrides = false ∧ Least offers.OnlyInWorkspace e.id ∧
        e.offered = [.workspace] ∧ e.allowed = [.installer, .user] := by
  rw [select_eq_error_iff]
  simp only [offered_and_choice?_eq_none_iff h]
  constructor
  · rintro ⟨id, hleast, rfl⟩
    have hdisabled := hleast.holds.1
    refine ⟨hdisabled, ?_, offering_of_onlyInWorkspace h hleast.holds.2, ?_⟩
    · exact hleast.congr (fun id => and_iff_right hdisabled)
    · unfold TrustPolicy.allowed
      rw [hdisabled, if_neg Bool.false_ne_true]
  · rintro ⟨hdisabled, hleast, hoffered, hallowed⟩
    refine ⟨e.id, hleast.congr (fun id => (and_iff_right hdisabled).symm), ?_⟩
    rw [offering_of_onlyInWorkspace h hleast.holds]
    unfold TrustPolicy.allowed
    rw [hdisabled, if_neg Bool.false_ne_true, ← hoffered, ← hallowed]

theorem exists_select_iff :
    (∃ active, select candidates policy = .ok active) ↔
      ¬ (policy.workspaceOverrides = false ∧ ∃ id, offers.OnlyInWorkspace id) := by
  constructor
  · rintro ⟨active, hactive⟩ ⟨hdisabled, id, hid⟩
    rw [select_eq_ok_iff] at hactive
    rcases (offered_and_choice?_eq_none_iff h).2 ⟨hdisabled, hid⟩ with ⟨⟨c, hc, rfl⟩, hnone⟩
    rcases hactive.chosen c hc with ⟨d, hd⟩
    rw [hnone] at hd
    cases hd
  · intro hnot
    apply exists_select
    intro c hc
    rw [← Option.ne_none_iff_exists']
    intro hnone
    rcases (offered_and_choice?_eq_none_iff h).1 ⟨⟨c, hc, rfl⟩, hnone⟩ with ⟨hdisabled, hid⟩
    exact hnot ⟨hdisabled, c.id, hid⟩

namespace Activates

variable {active : ActivePacks} (hactive : Activates candidates policy active)

include hactive

theorem mem_keys_iff : id ∈ active.keys ↔ ∃ tier, offers.Lists tier id := by
  rw [KeyMap.mem_keys_iff, hactive.get?_eq, Option.isSome_map, ← exists_mem_iff_exists_lists h,
    Option.isSome_iff_exists]
  constructor
  · rintro ⟨c, hc⟩
    by_contra hnone
    rw [choice?_eq_none_of_not_offered] at hc
    · cases hc
    · intro c hc hid
      exact hnone ⟨c, hc, hid⟩
  · rintro ⟨c, hc, rfl⟩
    exact hactive.chosen c hc

theorem exists_picked {record : Record} (hrecord : active.get? id = some record) :
    ∃ tier raw, Picked offers policy id record tier raw := by
  rw [hactive.get?_eq, Option.map_eq_some_iff] at hrecord
  rcases hrecord with ⟨c, hchoice, rfl⟩
  have hfirst := isFirst_of_choice?_eq_some hchoice
  rcases List.exists_of_findSome?_eq_some hchoice with ⟨tier, _, hoffer⟩
  rcases mem_of_offer?_eq_some hoffer with ⟨hmem, rfl, rfl⟩
  rcases (Candidate.mem_collect_iff h c).1 hmem with ⟨hlisted, hid⟩
  refine ⟨c.tier, c.record, ?_, hlisted, ?_, ?_, ?_, ?_, ?_⟩
  · apply hfirst.congr
    intro tier _
    rw [Ne, offer?_eq_none_iff_not_lists h, not_not]
  · exact Manifest.nonBlank_eq_ok_iff.1 (Candidate.idOf?_eq_some_iff.1 hid)
  · intro other hother hid'
    have hid' := Candidate.names_object_iff.1 ⟨other, rfl, hid'⟩
    have hother := (Candidate.mem_collect_iff h ⟨c.id, c.tier, other⟩).2 ⟨hother, hid'⟩
    exact congrArg Candidate.record (Candidate.eq_of_mem_collect h hother hmem rfl rfl)
  · rw [lookup_mark, if_neg (by decide), if_pos rfl]
  · rw [lookup_mark, if_pos rfl]
  · intro key hsource hpolicy
    rw [lookup_mark, if_neg hpolicy, if_neg hsource]

end Activates

end

end Activation

namespace Request

open Activation (Picked)
open Candidate (Refused RefusedIn)

variable {r : Request}

theorem activate_eq_discovery_iff {e : Candidate.Error} :
    r.activate = .error (.discovery e) ↔ RefusedIn r.offers e := by
  unfold activate
  simp only [bind_eq_error_iff, mapError_eq_error_iff, pure_ne_error, Error.discovery.injEq,
    exists_eq_right, reduceCtorEq, and_false, exists_false, or_false,
    Candidate.collect_eq_error_iff]

theorem activate_eq_activation_iff {e : Activation.Error} :
    r.activate = .error (.activation e) ↔
      ∃ candidates, Candidate.collect r.offers = .ok candidates ∧
        Activation.select candidates r.policy = .error e := by
  unfold activate
  simp only [bind_eq_error_iff, mapError_eq_error_iff, mapError_eq_ok_iff, pure_ne_error,
    Error.activation.injEq, exists_eq_right, reduceCtorEq, and_false, exists_false, or_false,
    false_or]

theorem exists_activate_eq_activation_iff :
    (∃ e, r.activate = .error (.activation e)) ↔
      (∀ e, ¬ RefusedIn r.offers e) ∧ r.policy.workspaceOverrides = false ∧
        ∃ id, r.offers.OnlyInWorkspace id := by
  rw [← Candidate.exists_collect_iff_not_refusedIn]
  simp only [activate_eq_activation_iff]
  constructor
  · rintro ⟨e, candidates, hcollect, he⟩
    rw [Activation.select_eq_error_iff_onlyInWorkspace hcollect] at he
    exact ⟨⟨candidates, hcollect⟩, he.1, e.id, he.2.1.holds⟩
  · rintro ⟨⟨candidates, hcollect⟩, hid⟩
    rcases Except.eq_ok_or_exists_error (Activation.select candidates r.policy) with hok | ⟨e, he⟩
    · exact absurd hid ((Activation.exists_select_iff hcollect).1 hok)
    · exact ⟨e, candidates, hcollect, he⟩

theorem exists_activate_eq_ok_iff :
    (∃ policy active, r.activate = .ok (policy, active)) ↔
      (∀ e, ¬ RefusedIn r.offers e) ∧
        ¬ (r.policy.workspaceOverrides = false ∧ ∃ id, r.offers.OnlyInWorkspace id) := by
  rw [← Candidate.exists_collect_iff_not_refusedIn]
  simp only [activate_eq_ok_iff, ← Activation.select_eq_ok_iff]
  constructor
  · rintro ⟨_, active, rfl, candidates, hcollect, hactive⟩
    exact ⟨⟨candidates, hcollect⟩, (Activation.exists_select_iff hcollect).1 ⟨active, hactive⟩⟩
  · rintro ⟨⟨candidates, hcollect⟩, hnot⟩
    rcases (Activation.exists_select_iff hcollect).2 hnot with ⟨active, hactive⟩
    exact ⟨r.policy, active, rfl, candidates, hcollect, hactive⟩

/--
Activation picks exactly one record for every offered pack, or says what is in the way.
-/
structure PicksOne (r : Request) : Prop where
  policy : TrustPolicy.Decided r.repoPolicy r.globalPolicy r.runtimeOverride r.policy
  /-- The lists are refused iff one has an element that is no candidate. -/
  refused : (∃ e, r.activate = .error (.discovery e)) ↔
    ∃ tier before v rest e, r.offers.list tier = before ++ v :: rest ∧ Refused tier before v e
  /-- What is reported is wrong with the first of these elements. -/
  first : ∀ e, r.activate = .error (.discovery e) ↔ RefusedIn r.offers e
  /-- Lists that are not refused may still offer packs that nobody but the workspace has. -/
  untrusted : (∃ e, r.activate = .error (.activation e)) ↔
    (∀ e, ¬ RefusedIn r.offers e) ∧ r.policy.workspaceOverrides = false ∧
      ∃ id, r.offers.OnlyInWorkspace id
  /-- The least of these packs is reported. -/
  least : ∀ e, r.activate = .error (.activation e) →
    Least r.offers.OnlyInWorkspace e.id ∧ e.offered = [.workspace] ∧
      e.allowed = [.installer, .user]
  /-- Nothing else is in the way. -/
  activated : (∃ policy active, r.activate = .ok (policy, active)) ↔
    (∀ e, ¬ RefusedIn r.offers e) ∧
      ¬ (r.policy.workspaceOverrides = false ∧ ∃ id, r.offers.OnlyInWorkspace id)
  /-- The packs of all lists are active, and no others. -/
  keys : ∀ policy active, r.activate = .ok (policy, active) →
    policy = r.policy ∧ ∀ id, id ∈ active.keys ↔ ∃ tier, r.offers.Lists tier id
  /-- Every active record is the one that had to be picked. -/
  picked : ∀ policy active id record, r.activate = .ok (policy, active) →
    active.get? id = some record → ∃ tier raw, Picked r.offers policy id record tier raw

/--
Every request picks one record for every pack.
-/
theorem picks_one (r : Request) : r.PicksOne := by
  constructor
  · exact TrustPolicy.decide_eq_iff.1 rfl
  · rw [← Candidate.exists_refusedIn_iff]
    exact exists_congr fun e => activate_eq_discovery_iff
  · intro e
    exact activate_eq_discovery_iff
  · exact exists_activate_eq_activation_iff
  · intro e he
    rcases activate_eq_activation_iff.1 he with ⟨candidates, hcollect, he⟩
    exact ((Activation.select_eq_error_iff_onlyInWorkspace hcollect).1 he).2
  · exact exists_activate_eq_ok_iff
  · intro policy active h
    rcases activate_eq_ok_iff.1 h with ⟨hpolicy, candidates, hcollect, hactive⟩
    refine ⟨hpolicy, ?_⟩
    intro id
    exact hactive.mem_keys_iff hcollect
  · intro policy active id record h hrecord
    rcases activate_eq_ok_iff.1 h with ⟨_, candidates, hcollect, hactive⟩
    exact hactive.exists_picked hcollect hrecord

section

/-!
The request in which all three tiers offer an `app`, and one with packs of the workspace alone.
-/

open Resolution (packRecord)

def unsharedRequest : Request where
  offers :=
    { workspace := [.object (packRecord "tool" []), .object (packRecord " solo" []),
        .object (packRecord "app" [])]
      installer := [.object (packRecord "app " [])]
      user := [] }
  repoPolicy := none
  globalPolicy := some [("workspace_overrides_enabled", .bool false)]
  runtimeOverride := some true
  selected := []
  engineVersion := "1.0.0"

/--
The `app` of the installer is picked, and of the two packs that nobody but the workspace has the
least is reported.
-/
theorem shadowedRequest_picks_one :
    (∃ record raw, (shadowedRequest (some true)).activate
        = .ok (⟨true, .runtimeOverride⟩, shadowedActive ⟨true, .runtimeOverride⟩) ∧
      (shadowedActive ⟨true, .runtimeOverride⟩).get? "app" = some record ∧
      Picked (shadowedRequest (some true)).offers ⟨true, .runtimeOverride⟩ "app" record
        .installer raw) ∧
    unsharedRequest.activate
        = .error (.activation ⟨"solo", [.workspace], [.installer, .user]⟩) ∧
      Least unsharedRequest.offers.OnlyInWorkspace "solo" ∧
      TrustPolicy.Decided none (some [("workspace_overrides_enabled", .bool false)]) (some true)
        unsharedRequest.policy := by
  have hactivate : (shadowedRequest (some true)).activate
      = .ok (⟨true, .runtimeOverride⟩, shadowedActive ⟨true, .runtimeOverride⟩) := rfl
  have herror : unsharedRequest.activate
      = .error (.activation ⟨"solo", [.workspace], [.installer, .user]⟩) := rfl
  refine ⟨?_, herror, ((picks_one _).least _ herror).1, (picks_one unsharedRequest).policy⟩
  rcases (picks_one _).picked _ _ "app" _ hactivate rfl with ⟨tier, raw, hpicked⟩
  have hname : Tier.installer.name = tier.name := Json.string.inj (Option.some.inj hpicked.source)
  cases tier with
  | installer => exact ⟨_, raw, hactivate, rfl, hpicked⟩
  | workspace => exact absurd hname (by decide)
  | user => exact absurd hname (by decide)

end

end Request

end GovernanceLock
