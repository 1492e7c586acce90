import GovernanceLock.CommandLine.Report
import GovernanceLock.Proofs.Lock.Drift
import GovernanceLock.Proofs.Manifest.Faults
import GovernanceLock.Proofs.Request.Isolation
import GovernanceLock.Proofs.Resolution.Indexed
import GovernanceLock.Proofs.Resolution.Violation

/-!
This module contains the proof that the stages of a request agree about which pack is which. The id
that a record is offered under is the id that its manifest has, so what one stage has found is there
for the next one to look up.
-/

namespace GovernanceLock

open Activation (Activates mark)
open CommandLine (LockReport)
open Except (bind_eq_error_iff mapError_eq_error_iff pure_ne_error)
open Json (Record)

namespace Activation

variable {offers : Offers} {candidates : List Candidate} {policy : TrustPolicy}
variable {active : ActivePacks}

/--
The activated record of a pack is one that a tier offers under this id, with its marks.
-/
structure Origin (offers : Offers) (policy : TrustPolicy) (id : PackId) (record : Record)
    (tier : Tier) (raw : Record) : Prop where
  offered : .object raw ∈ offers.list tier
  named : Candidate.idOf? raw = some id
  marked : record = mark policy ⟨id, tier, raw⟩

theorem mem_of_choice?_eq_some {id : PackId} {c : Candidate}
    (h : choice? candidates policy id = some c) : c ∈ candidates ∧ c.id = id := by
  unfold choice? at h
  rcases List.exists_of_findSome?_eq_some h with ⟨tier, _, hoffer⟩
  rcases mem_of_offer?_eq_some hoffer with ⟨hmem, hid, _⟩
  exact ⟨hmem, hid⟩

theorem Activates.exists_origin (h : Activates candidates policy active)
    (hcollect : Candidate.collect offers = .ok candidates) {id : PackId} {record : Record}
    (hrecord : active.get? id = some record) :
    ∃ tier raw, Origin offers policy id record tier raw := by
  rw [h.get?_eq, Option.map_eq_some_iff] at hrecord
  rcases hrecord with ⟨c, hchoice, rfl⟩
  rcases mem_of_choice?_eq_some hchoice with ⟨hmem, rfl⟩
  rcases (Candidate.mem_collect_iff hcollect c).1 hmem with ⟨hoffered, hid⟩
  exact ⟨c.tier, c.record, hoffered, hid, rfl⟩

namespace Origin

variable {id : PackId} {record raw : Record} {tier : Tier}

theorem source (h : Origin offers policy id record tier raw) :
    KeyMap.lookup "source" record = some (.string tier.name) := by
  rw [h.marked, lookup_mark, if_neg (by decide), if_pos rfl]

theorem ofRecord_eq (h : Origin offers policy id record tier raw) :
    Manifest.ofRecord record = Manifest.ofRecord raw := by
  rw [h.marked, ofRecord_mark]

theorem id_eq (h : Origin offers policy id record tier raw) {m : Manifest}
    (hm : Manifest.ofRecord record = .ok m) : m.id = id := by
  rw [h.ofRecord_eq, Manifest.ofRecord_eq_ok_iff] at hm
  have hid := Candidate.idOf?_eq_some_iff.1 h.named
  rw [hm.id, Except.ok.injEq] at hid
  exact hid

theorem field_ne_id (h : Origin offers policy id record tier raw) {e : Manifest.Error}
    (he : Manifest.ofRecord record = .error e) : e.field ≠ "id" := by
  rw [h.ofRecord_eq] at he
  have hid := Candidate.idOf?_eq_some_iff.1 h.named
  exact Manifest.field_ne_id (Manifest.nonBlank_eq_ok_iff.1 hid) he

end Origin

end Activation

namespace Request

open Activation (Origin)
open Resolution (Selected Unfit)

theorem exists_origin {r : Request} {policy : TrustPolicy} {active : ActivePacks}
    (h : r.activate = .ok (policy, active)) {id : PackId} {record : Record}
    (hrecord : active.get? id = some record) :
    ∃ tier raw, Origin r.offers policy id record tier raw := by
  rw [activate_eq_ok_iff] at h
  rcases h with ⟨_, candidates, hcollect, hactivates⟩
  exact hactivates.exists_origin hcollect hrecord

theorem not_unfit {r : Request} {policy : TrustPolicy} {active : ActivePacks}
    (h : r.activate = .ok (policy, active)) {key : PackId} {record : Record} {m : Manifest}
    (hunfit : Unfit active key) (hrecord : active.get? key = some record) :
    Manifest.ofRecord record ≠ .ok m := by
  intro hm
  rcases exists_origin h hrecord with ⟨tier, raw, horigin⟩
  rcases hunfit with ⟨record', hrecord', hne⟩
  rw [hrecord, Option.some.injEq] at hrecord'
  subst hrecord'
  exact hne m hm (horigin.id_eq hm)

theorem exists_of_run_eq_error {r : Request} {cause : Resolution.Error}
    (h : r.run = .error (.resolution cause)) :
    ∃ policy active, r.activate = .ok (policy, active) ∧
      Resolution.resolve active r.selected r.engineVersion = .error cause := by
  unfold run at h
  rw [bind_eq_error_iff] at h
  rcases h with h | ⟨⟨policy, active⟩, hactive, h⟩
  · unfold activate at h
    rw [bind_eq_error_iff, mapError_eq_error_iff] at h
    rcases h with ⟨_, _, h⟩ | ⟨candidates, _, h⟩
    · cases h
    rw [bind_eq_error_iff, mapError_eq_error_iff] at h
    rcases h with ⟨_, _, h⟩ | ⟨active, _, h⟩
    · cases h
    · exact absurd h pure_ne_error
  · rw [bind_eq_error_iff, mapError_eq_error_iff] at h
    rcases h with ⟨_, hresolve, h⟩ | ⟨lock, _, h⟩
    · cases h
      exact ⟨policy, active, hactive, hresolve⟩
    · exact absurd h pure_ne_error

/--
The stages of a request agree about which pack is which.
-/
structure IdentityKept (r : Request) : Prop where
  /-- A record that normalizes is active under its own id. -/
  keyed : ∀ policy active key record m, r.activate = .ok (policy, active) →
    active.get? key = some record → Manifest.ofRecord record = .ok m → m.id = key
  matched : ∀ key id, r.run ≠ .error (.resolution (.idMismatch key id))
  /-- Records are refused for other fields than the id. -/
  named : ∀ e, r.run = .error (.resolution (.manifest e)) → e.field ≠ "id"
  /-- Only what is selected is refused as unknown. -/
  unknown : ∀ id, r.run = .error (.resolution (.unknownSelection id)) →
    Selected r.selected id ∧
      ∀ policy active, r.activate = .ok (policy, active) → id ∉ active.keys
  /-- No pack is looked up that is not there. -/
  indexed : ∀ policy active, r.activate = .ok (policy, active) →
    Resolution.Indexed.resolve active r.selected r.engineVersion
      = (Resolution.resolve active r.selected r.engineVersion).mapError .refused
  /-- A locked pack is active, and its record names the tier that it came from. -/
  locked : ∀ outcome pack, r.run = .ok outcome → pack ∈ outcome.lock.packs →
    ∃ record tier raw, outcome.active.get? pack.id = some record ∧
      Origin r.offers outcome.policy pack.id record tier raw ∧
      KeyMap.lookup "source" record = some (.string tier.name) ∧
      LockReport.tierName outcome.active pack.id = tier.name

/--
Every request keeps the identity of its packs.
-/
theorem identity_kept (r : Request) : r.IdentityKept := by
  constructor
  · intro policy active key record m hactive hrecord hm
    rcases exists_origin hactive hrecord with ⟨tier, raw, horigin⟩
    exact horigin.id_eq hm
  · intro key id hrun
    rcases exists_of_run_eq_error hrun with ⟨policy, active, hactive, hresolve⟩
    cases Resolution.firstViolation_of_resolve hresolve with
    | idMismatch hkey hrecord hm => exact not_unfit hactive hkey.holds hrecord hm
    | dispute _ _ hdispute => cases hdispute
  · intro e hrun
    rcases exists_of_run_eq_error hrun with ⟨policy, active, hactive, hresolve⟩
    cases Resolution.firstViolation_of_resolve hresolve with
    | manifest _ hrecord he =>
      rcases exists_origin hactive hrecord with ⟨tier, raw, horigin⟩
      exact horigin.field_ne_id he
    | dispute _ _ hdispute => cases hdispute
  · intro id hrun
    rcases exists_of_run_eq_error hrun with ⟨policy, active, hactive, hresolve⟩
    cases Resolution.firstViolation_of_resolve hresolve with
    | unknownSelection _ hid =>
      refine ⟨hid.holds.1, ?_⟩
      intro policy' active' hactive'
      rw [hactive, Except.ok.injEq, Prod.mk.injEq] at hactive'
      rw [← hactive'.2]
      exact hid.holds.2
    | dispute _ _ hdispute => cases hdispute
  · intro policy active _
    apply Resolution.Indexed.resolve_eq
  · intro outcome pack hrun hpack
    rcases run_eq_ok_iff.1 hrun with ⟨hactive, hresolve⟩
    rcases Resolution.exists_locked_of_mem_packs hresolve hpack with ⟨_, record, hrecord, _⟩
    rcases exists_origin hactive hrecord with ⟨tier, raw, horigin⟩
    refine ⟨record, tier, raw, hrecord, horigin, horigin.source, ?_⟩
    unfold LockReport.tierName
    rw [hrecord, Option.bind_some, horigin.source]

end Request

end GovernanceLock
