import GovernanceLock.Proofs.Manifest.Spelling
import GovernanceLock.Proofs.Request.Isolation
import Mathlib.Data.List.Perm.Basic

/-!
This module contains the proof that a lock does not depend on how its request is spelled: on the
order of what the tiers offer, on the order of what is selected and repeats in it, and on the
spelling of records, pack ids and the engine version.
-/

namespace GovernanceLock

open Activation (Activates choice? offer?)
open Json (Record)

/--
The lists of the tiers have the same records, in any order and however they are spelled.
-/
def Offers.Respelled (o o' : Offers) : Prop :=
  ∀ tier, ∃ l, l.Perm (o.list tier) ∧
    List.Forall₂ (Json.Rel .object Manifest.Respelled) l (o'.list tier)

def Request.SelectedBy (l k : List String) : Prop :=
  ∀ s ∈ l, Text.Repadded s "" ∨ ∃ t ∈ k, Text.Repadded s t

/--
The same request, spelled in another way.
-/
structure Request.Respelled (r r' : Request) : Prop where
  offers : r.offers.Respelled r'.offers
  repoPolicy : r'.repoPolicy = r.repoPolicy
  globalPolicy : r'.globalPolicy = r.globalPolicy
  runtimeOverride : r'.runtimeOverride = r.runtimeOverride
  selectedOf : SelectedBy r.selected r'.selected
  selectedBy : SelectedBy r'.selected r.selected
  engineVersion : Version.Respelled r.engineVersion r'.engineVersion

theorem exists_mem_of_forall₂ {R : α → β → Prop} {l : List α} {k : List β}
    (h : List.Forall₂ R l k) {a : α} (ha : a ∈ l) : ∃ b ∈ k, R a b := by
  induction h with
  | nil => cases ha
  | @cons a' b l k hab _ ih =>
    rcases List.mem_cons.1 ha with rfl | ha
    · exact ⟨b, List.mem_cons_self, hab⟩
    · rcases ih ha with ⟨b', hb', hrel⟩
      exact ⟨b', List.mem_cons_of_mem _ hb', hrel⟩

theorem Json.Rel.exists_object {R : Record → Record → Prop} {r : Record} {w : Json}
    (h : Json.Rel .object R (.object r) w) (hR : ∀ r, R r r) : ∃ r', w = .object r' ∧ R r r' := by
  cases h with
  | same => exact ⟨r, rfl, hR r⟩
  | contents h => exact ⟨_, rfl, h⟩

namespace Candidate

theorem idOf?_congr {r r' : Record} (h : Manifest.Respelled r r') : idOf? r = idOf? r' := by
  ext id
  rw [idOf?_eq_some_iff, idOf?_eq_some_iff, Manifest.nonBlank_congr h.id]

theorem offeredId?_congr {v w : Json} (h : Json.Rel .object Manifest.Respelled v w) :
    offeredId? v = offeredId? w := by
  cases h with
  | same => rfl
  | contents h => exact idOf?_congr h

def RespelledIn (cs cs' : List Candidate) : Prop :=
  ∀ c ∈ cs, ∃ c' ∈ cs', c'.id = c.id ∧ c'.tier = c.tier ∧ Manifest.Respelled c.record c'.record

end Candidate

namespace Offers.Respelled

variable {o o' : Offers} {cs cs' : List Candidate}

theorem symm (h : o.Respelled o') : o'.Respelled o := by
  intro tier
  rcases h tier with ⟨l, hperm, hrel⟩
  rcases List.perm_comp_forall₂ hperm.symm hrel with ⟨k, hk, hkperm⟩
  exact ⟨k, hkperm, hk.flip.imp fun _ _ h => h.symm fun _ _ h => h.symm⟩

theorem exists_mem (h : o.Respelled o') {tier : Tier} {v : Json} (hv : v ∈ o.list tier) :
    ∃ w ∈ o'.list tier, Json.Rel .object Manifest.Respelled v w := by
  rcases h tier with ⟨l, hperm, hrel⟩
  rw [← hperm.mem_iff] at hv
  exact exists_mem_of_forall₂ hrel hv

theorem offeredIds_perm (h : o.Respelled o') (tier : Tier) :
    ((o.list tier).map Candidate.offeredId?).Perm ((o'.list tier).map Candidate.offeredId?) := by
  rcases h tier with ⟨l, hperm, hrel⟩
  have heq : l.map Candidate.offeredId? = (o'.list tier).map Candidate.offeredId? := by
    rw [← List.forall₂_eq_eq_eq, List.forall₂_map_left_iff, List.forall₂_map_right_iff]
    exact hrel.imp fun _ _ h => Candidate.offeredId?_congr h
  rw [← heq]
  exact hperm.symm.map _

theorem exists_collect (h : o.Respelled o') (hcs : Candidate.collect o = .ok cs) :
    ∃ cs', Candidate.collect o' = .ok cs' := by
  rw [Candidate.exists_collect_iff]
  intro tier
  have htier := Candidate.exists_collect_iff.1 ⟨cs, hcs⟩ tier
  rw [Candidate.exists_collectTier_iff] at htier ⊢
  rw [← (h.offeredIds_perm tier).mem_iff, ← (h.offeredIds_perm tier).nodup_iff]
  exact htier

theorem respelledIn (h : o.Respelled o') (hcs : Candidate.collect o = .ok cs)
    (hcs' : Candidate.collect o' = .ok cs') : Candidate.RespelledIn cs cs' := by
  intro c hc
  rcases (Candidate.mem_collect_iff hcs c).1 hc with ⟨hmem, hid⟩
  rcases h.exists_mem hmem with ⟨w, hw, hrel⟩
  rcases hrel.exists_object Manifest.Respelled.refl with ⟨r', rfl, hrecord⟩
  refine ⟨⟨c.id, c.tier, r'⟩, ?_, rfl, rfl, hrecord⟩
  rw [Candidate.mem_collect_iff hcs', ← Candidate.idOf?_congr hrecord]
  exact ⟨hw, hid⟩

end Offers.Respelled

namespace Activation

variable {cs cs' : List Candidate} {policy : TrustPolicy}

theorem offer?_respelled (h : Candidate.RespelledIn cs cs') (h' : Candidate.RespelledIn cs' cs)
    (hunique : ∀ c ∈ cs', ∀ d ∈ cs', c.id = d.id → c.tier = d.tier → c = d) (id : PackId)
    (tier : Tier) :
    Option.Rel (fun c c' => Manifest.Respelled c.record c'.record) (offer? cs id tier)
      (offer? cs' id tier) := by
  cases hoffer : offer? cs id tier with
  | none =>
    cases hoffer' : offer? cs' id tier with
    | none => exact .none
    | some c' =>
      rcases mem_of_offer?_eq_some hoffer' with ⟨hc', rfl, rfl⟩
      rcases h' c' hc' with ⟨c, hc, hid, htier, _⟩
      rw [offer?_eq_none_iff] at hoffer
      exact absurd htier (hoffer c hc hid)
  | some c =>
    rcases mem_of_offer?_eq_some hoffer with ⟨hc, rfl, rfl⟩
    rcases h c hc with ⟨c', hc', hid, htier, hrecord⟩
    rcases exists_offer?_eq_some hc' with ⟨d, hd⟩
    rcases mem_of_offer?_eq_some hd with ⟨hdmem, hdid, hdtier⟩
    have heq : d = c' := hunique d hdmem c' hc' hdid hdtier
    rw [← hid, ← htier, hd, heq]
    exact .some hrecord

theorem Activates.exists_respelled {active : ActivePacks} (h : Activates cs policy active)
    (hin : Candidate.RespelledIn cs' cs)
    (hchoice : ∀ id, Option.Rel (fun c c' => Manifest.Respelled c.record c'.record)
      (choice? cs policy id) (choice? cs' policy id)) :
    ∃ active', Activates cs' policy active' ∧ ∀ id, Option.Rel
      (fun r r' => ∀ m, Manifest.ofRecord r = .ok m → Manifest.ofRecord r' = .ok m)
      (active.get? id) (active'.get? id) := by
  have hsome : ∀ c' ∈ cs', ∃ d, choice? cs' policy c'.id = some d := by
    intro c' hc'
    rcases hin c' hc' with ⟨c, hc, hid, _, _⟩
    rcases h.chosen c hc with ⟨d, hd⟩
    have hrel := hchoice c.id
    rw [hd, hid] at hrel
    generalize hd' : choice? cs' policy c'.id = o at hrel
    cases hrel with
    | some => exact ⟨_, rfl⟩
  rcases exists_select hsome with ⟨active', hselect⟩
  rw [select_eq_ok_iff] at hselect
  refine ⟨active', hselect, ?_⟩
  intro id
  rw [h.get?_eq, hselect.get?_eq]
  have hrel := hchoice id
  generalize choice? cs policy id = o at hrel ⊢
  generalize choice? cs' policy id = o' at hrel ⊢
  cases hrel with
  | none => exact .none
  | some hrecord =>
    apply Option.Rel.some
    intro m hm
    rw [ofRecord_mark] at hm ⊢
    exact hrecord.ofRecord_eq_ok hm

end Activation

namespace Request

theorem SelectedBy.selected {l k : List String} (h : SelectedBy l k) {id : PackId}
    (hid : Resolution.Selected l id) : Resolution.Selected k id := by
  rcases hid with ⟨hne, s, hs, rfl⟩
  rcases h s hs with hblank | ⟨t, ht, hsame⟩
  · rw [Text.repadded_iff] at hblank
    exact absurd hblank hne
  · rw [Text.repadded_iff] at hsame
    exact ⟨hne, t, ht, hsame.symm⟩

namespace Respelled

variable {r r' : Request}

theorem symm (h : r.Respelled r') : r'.Respelled r where
  offers := h.offers.symm
  repoPolicy := h.repoPolicy.symm
  globalPolicy := h.globalPolicy.symm
  runtimeOverride := h.runtimeOverride.symm
  selectedOf := h.selectedBy
  selectedBy := h.selectedOf
  engineVersion := h.engineVersion.symm

theorem policy_eq (h : r.Respelled r') : r'.policy = r.policy := by
  unfold policy
  rw [h.repoPolicy, h.globalPolicy, h.runtimeOverride]

theorem selection_eq (h : r.Respelled r') :
    Resolution.selection r'.selected = Resolution.selection r.selected := by
  apply Ascending.eq_of_mem_iff
  · exact Ascending.ofList_ascending _
  · exact Ascending.ofList_ascending _
  · intro id
    rw [Resolution.mem_selection_iff, Resolution.mem_selection_iff]
    exact ⟨h.selectedBy.selected, h.selectedOf.selected⟩

theorem exists_activate (h : r.Respelled r') {policy : TrustPolicy} {active : ActivePacks}
    (hactive : r.activate = .ok (policy, active)) :
    ∃ active', r'.activate = .ok (policy, active') ∧ ∀ id, Option.Rel
      (fun r r' => ∀ m, Manifest.ofRecord r = .ok m → Manifest.ofRecord r' = .ok m)
      (active.get? id) (active'.get? id) := by
  rw [activate_eq_ok_iff] at hactive
  rcases hactive with ⟨rfl, cs, hcs, hactivates⟩
  rcases h.offers.exists_collect hcs with ⟨cs', hcs'⟩
  have hin := h.offers.symm.respelledIn hcs' hcs
  have hoffer := Activation.offer?_respelled (h.offers.respelledIn hcs hcs') hin
    fun c hc d hd => Candidate.eq_of_mem_collect hcs' hc hd
  rcases hactivates.exists_respelled hin fun id => Activation.choice?_rel (hoffer id) with
    ⟨active', hactivates', hrel⟩
  refine ⟨active', ?_, hrel⟩
  rw [activate_eq_ok_iff, h.policy_eq]
  exact ⟨rfl, cs', hcs', hactivates'⟩

theorem exists_run (h : r.Respelled r') {outcome : Outcome} (hrun : r.run = .ok outcome) :
    ∃ other, r'.run = .ok other ∧ other.lock = outcome.lock := by
  rw [run_eq_ok_iff] at hrun
  rcases hrun with ⟨hactive, hlock⟩
  rcases h.exists_activate hactive with ⟨active', hactive', hrel⟩
  refine ⟨⟨outcome.policy, active', outcome.lock⟩, ?_, rfl⟩
  rw [run_eq_ok_iff]
  refine ⟨hactive', ?_⟩
  apply Resolution.resolve_congr _ h.selection_eq _ hlock
  · intro catalog hcatalog
    exact hcatalog.of_rel hrel
  · intro v hv
    exact h.engineVersion.parse_eq_ok_iff.1 hv

end Respelled

/--
Of two spellings of a request, both are resolved or neither is, and the lock files are the same.
-/
theorem run_respelled {r r' : Request} (h : r.Respelled r') :
    ((∃ outcome, r.run = .ok outcome) ↔ ∃ outcome, r'.run = .ok outcome) ∧
      ∀ outcome other, r.run = .ok outcome → r'.run = .ok other →
        other.lock.fileText = outcome.lock.fileText := by
  refine ⟨⟨?_, ?_⟩, ?_⟩
  · rintro ⟨outcome, hrun⟩
    rcases h.exists_run hrun with ⟨other, hother, _⟩
    exact ⟨other, hother⟩
  · rintro ⟨outcome, hrun⟩
    rcases h.symm.exists_run hrun with ⟨other, hother, _⟩
    exact ⟨other, hother⟩
  · intro outcome other hrun hother
    rcases h.exists_run hrun with ⟨same, hsame, hlock⟩
    rw [hother] at hsame
    cases hsame
    rw [hlock]

section

/-!
The request in which the workspace and the user offer an `app` too, spelled in another way.
-/

open Resolution (packRecord)

def respelledRequest : Request where
  offers :=
    { workspace := [.object (packRecord "app" ["absent", "absent "])]
      installer :=
        [.object (packRecord "base" []),
         .object ((packRecord "app " ["base", " base"]).set "notes" .null)]
      user := [.object (packRecord "app" []), .object (packRecord "other" ["app"])] }
  repoPolicy := none
  globalPolicy := none
  runtimeOverride := none
  selected := [" app"]
  engineVersion := " 2.00.0 "

theorem sameItems_strings {l k : List String}
    (hl : ∀ s ∈ l, ∃ t ∈ k, Text.trimmed s = Text.trimmed t)
    (hk : ∀ t ∈ k, ∃ s ∈ l, Text.trimmed t = Text.trimmed s) :
    Manifest.SameItems (l.map .string) (k.map .string) := by
  have hcover : ∀ {l k : List String}, (∀ s ∈ l, ∃ t ∈ k, Text.trimmed s = Text.trimmed t) →
      Manifest.CoveredBy (l.map .string) (k.map .string) := by
    intro l k h v hv
    rcases List.mem_map.1 hv with ⟨s, hs, rfl⟩
    rcases h s hs with ⟨t, ht, heq⟩
    exact ⟨.string t, List.mem_map_of_mem ht, .contents (Text.repadded_iff.2 heq)⟩
  exact ⟨hcover hl, hcover hk⟩

theorem packRecord_respelled {id id' : String} {requires requires' : List String}
    (hid : Text.Repadded id id')
    (hrequires : Manifest.SameItems (requires.map .string) (requires'.map .string)) :
    Manifest.Respelled (packRecord id requires) (packRecord id' requires') := by
  refine ⟨.contents hid, .same _, .same _, ?_⟩
  simp only [List.forall_mem_cons, List.not_mem_nil, false_implies, implies_true, and_true]
  exact ⟨.contents hrequires, .same _, .same _, .same _, .same _⟩

theorem shadowedRequest_respelled : (shadowedRequest none).Respelled respelledRequest where
  offers := by
    have happ : Manifest.Respelled (packRecord " app" ["base"])
        ((packRecord "app " ["base", " base"]).set "notes" .null) := by
      apply Manifest.Respelled.set _ (by decide)
      apply packRecord_respelled (Text.repadded_iff.2 (by decide))
      exact sameItems_strings (by decide) (by decide)
    intro tier
    cases tier with
    | workspace =>
      have hnone : Manifest.Respelled (packRecord "app" ["absent"])
          (packRecord "app" ["absent", "absent "]) := by
        apply packRecord_respelled (Text.repadded_iff.2 rfl)
        exact sameItems_strings (by decide) (by decide)
      exact ⟨_, .refl _, .cons (.contents hnone) .nil⟩
    | installer => exact ⟨_, .swap _ _ _, .cons (.same _) (.cons (.contents happ) .nil)⟩
    | user => exact ⟨_, .swap _ _ _, .cons (.same _) (.cons (.same _) .nil)⟩
  repoPolicy := rfl
  globalPolicy := rfl
  runtimeOverride := rfl
  selectedOf := by
    simp only [SelectedBy, Text.repadded_iff]
    decide
  selectedBy := by
    simp only [SelectedBy, Text.repadded_iff]
    decide
  engineVersion := by
    have hparts : List.Forall₂ Version.SameComponent [['0', '2'], ['0'], ['0']]
        [['2'], ['0', '0'], ['0']] :=
      .cons (.zeros (by decide) 1 0 []) (.cons (.zeros (by decide) 0 1 []) (.cons (.same _) .nil))
    exact ⟨['0', '2', '.', '0', '.', '0'], ['2', '.', '0', '0', '.', '0'],
      Text.isCore_iff.2 (by decide), Text.isCore_iff.2 (by decide), hparts⟩

theorem respelledRequest_run :
    (shadowedRequest none).Respelled respelledRequest ∧
      (shadowedRequest none).run = .ok shadowedOutcome ∧
      ∃ outcome, respelledRequest.run = .ok outcome ∧
        outcome.lock.fileText = shadowedOutcome.lock.fileText := by
  have hrun := run_respelled shadowedRequest_respelled
  rcases hrun.1.1 ⟨_, shadowedRequest_run⟩ with ⟨outcome, houtcome⟩
  refine ⟨shadowedRequest_respelled, shadowedRequest_run, outcome, houtcome, ?_⟩
  exact hrun.2 _ _ shadowedRequest_run houtcome

end

end Request

end GovernanceLock
