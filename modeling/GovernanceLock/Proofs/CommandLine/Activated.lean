import GovernanceLock.Proofs.CommandLine.Sources
import GovernanceLock.Proofs.CommandLine.Run
import GovernanceLock.Proofs.Lock.Assembled
import GovernanceLock.Proofs.Lock.Drift
import GovernanceLock.Proofs.Request.Identity

/-!
This module contains the proof that a check of a lock compares it with what the files of today
activate, and finds no fault iff every locked pack has the manifest that it had.
-/

namespace GovernanceLock

open Except (bind_eq_ok_iff mapError_eq_ok_iff pure_eq_ok_iff)
open Json (Record)
open Resolution (Locked Normalizes)

namespace Resolution

variable {records today : KeyMap Record} {catalog : Catalog}

theorem Normalizes.get?_eq_some_iff (h : Normalizes records catalog) {id : PackId} {m : Manifest} :
    catalog.get? id = some m ↔ Locked records id m := by
  constructor
  · intro hm
    rcases h.exists_record hm with ⟨r, hr, hofRecord, _⟩
    exact ⟨r, hr, hofRecord⟩
  · rintro ⟨r, hr, hofRecord⟩
    rcases h.registered id r hr with ⟨m', hm', _, hget⟩
    rw [hofRecord, Except.ok.injEq] at hm'
    rw [hget, hm']

def Unchanged (records today : KeyMap Record) (id : PackId) : Prop :=
  ∃ m, Locked records id m ∧ Locked today id m

theorem verifyManifests_eq_ok_iff_unchanged {selected : List String} {engineText : String}
    {lock : Lock} (hlock : resolve records selected engineText = .ok lock)
    (htoday : Normalizes today catalog)
    (hfree : ∀ pack ∈ lock.packs, ∀ m n, Locked records pack.id m → Locked today pack.id n →
      n.CollisionFree m) :
    lock.verifyManifests catalog = .ok () ↔
      ∀ pack ∈ lock.packs, Unchanged records today pack.id := by
  rcases exists_assemble_of_resolve_eq_ok hlock with ⟨engine, ordered, rfl, _, hlocked⟩
  have hpacks : (Lock.assemble engine (selection selected) ordered).packs
      = ordered.map .ofManifest := rfl
  rw [hpacks, List.forall_mem_map] at hfree ⊢
  rw [Lock.verifyManifests_assemble_eq_ok_iff]
  · refine forall₂_congr fun m hm => ?_
    rw [htoday.get?_eq_some_iff]
    constructor
    · intro h
      exact ⟨m, hlocked m hm, h⟩
    · rintro ⟨n, hn, h⟩
      cases (hlocked m hm).unique hn
      exact h
  · intro m hm n hn
    rw [htoday.get?_eq_some_iff] at hn
    exact hfree m hm m n (hlocked m hm) hn

end Resolution

namespace CommandLine

/--
The records that are activated from the files that a command consults.
-/
def Sources.Activated (s : Sources) (t : FileTree) (here : Location) (env : Environment)
    (active : ActivePacks) : Prop :=
  ∃ request policy, s.load t here env [] "" = .ok request ∧
    request.activate = .ok (policy, active)

variable {sources : Sources} {here : Location} {env : Environment} {t t' : FileTree}

theorem Sources.Activated.unique {active active' : ActivePacks}
    (h : sources.Activated t here env active) (h' : sources.Activated t here env active') :
    active = active' := by
  rcases h with ⟨request, policy, hload, hactive⟩
  rcases h' with ⟨request', policy', hload', hactive'⟩
  rw [hload, Except.ok.injEq] at hload'
  rw [hload', hactive', Except.ok.injEq, Prod.mk.injEq] at hactive
  exact hactive.2.symm

namespace Command

theorem foldlM_insert_eq_ok_iff {base catalog : Catalog} {l : List (PackId × Record)}
    (hkeyed : ∀ e ∈ l, ∀ m, Manifest.ofRecord e.2 = .ok m → m.id = e.1) :
    l.foldlM (fun (catalog : Catalog) e => do
        return catalog.insert e.1 (← (Manifest.ofRecord e.2).mapError Failure.manifest)) base
      = .ok catalog ↔ Resolution.normalizeAll base l = .ok catalog := by
  induction l generalizing base with
  | nil =>
    rw [Resolution.normalizeAll]
    simp [pure_eq_ok_iff]
  | cons e l ih =>
    rcases e with ⟨key, record⟩
    rw [List.forall_mem_cons] at hkeyed
    rw [Resolution.normalizeAll, List.foldlM_cons]
    simp only [bind_eq_ok_iff, mapError_eq_ok_iff, pure_eq_ok_iff, Resolution.normalize_eq_ok_iff,
      ih hkeyed.2]
    constructor
    · rintro ⟨_, ⟨m, hm, rfl⟩, h⟩
      exact ⟨m, ⟨hm, hkeyed.1 m hm⟩, h⟩
    · rintro ⟨m, ⟨hm, _⟩, h⟩
      exact ⟨_, ⟨m, hm, rfl⟩, h⟩

theorem currentManifests_eq_ok_iff {catalog : Catalog} :
    currentManifests sources t here env = .ok catalog ↔
      ∃ active, sources.Activated t here env active ∧ Normalizes active catalog := by
  unfold currentManifests Sources.Activated
  simp only [bind_eq_ok_iff, mapError_eq_ok_iff]
  have hfold : ∀ {request : Request} {policy : TrustPolicy} {active : ActivePacks},
      request.activate = .ok (policy, active) →
      (active.entries.foldlM (fun (catalog : Catalog) e => do
        return catalog.insert e.1 (← (Manifest.ofRecord e.2).mapError Failure.manifest)) .empty
          = .ok catalog ↔ Normalizes active catalog) := by
    intro request policy active hactive
    rw [foldlM_insert_eq_ok_iff, Resolution.normalizeAll_eq_ok_iff]
    intro e he m hm
    rcases Request.exists_origin hactive (KeyMap.mem_entries_iff.1 he) with ⟨tier, raw, horigin⟩
    exact horigin.id_eq hm
  constructor
  · rintro ⟨request, hload, ⟨policy, active⟩, hactive, h⟩
    exact ⟨active, ⟨request, policy, hload, hactive⟩, (hfold hactive).1 h⟩
  · rintro ⟨active, ⟨request, policy, hload, hactive⟩, h⟩
    exact ⟨request, hload, (policy, active), hactive, (hfold hactive).2 h⟩

theorem exists_activated_of_runVerify {path : Path} {report : VerifyReport}
    (hcandidates : sources.haveCandidates = true)
    (h : runVerify path sources t here env = .ok report) :
    ∃ active, sources.Activated t here env active := by
  unfold runVerify at h
  rw [bind_eq_ok_iff] at h
  rcases h with ⟨lock, _, h⟩
  rw [if_pos hcandidates, bind_eq_ok_iff] at h
  rcases h with ⟨catalog, hcatalog, _⟩
  rcases currentManifests_eq_ok_iff.1 hcatalog with ⟨active, hactive, _⟩
  exact ⟨active, hactive⟩

theorem problems_eq_nil_iff {lock : Lock} (hintact : lock.Intact) {catalog : Catalog} :
    problems lock (some catalog) = [] ↔ lock.verifyManifests catalog = .ok () := by
  have hok : lock.verifyIntegrity = .ok () := Lock.verifyIntegrity_eq_ok_iff.2 hintact
  unfold problems
  rw [hok]
  cases hverify : lock.verifyManifests catalog with
  | error flaw => simp [hverify]
  | ok u => simp [hverify]

theorem runVerify_eq {lock : Lock} {path : Path} (hread : Lock.read t here path = .ok lock)
    (hcandidates : sources.haveCandidates = true) :
    runVerify path sources t here env =
      (currentManifests sources t here env).map fun catalog =>
        ⟨path, lock, true, problems lock (some catalog)⟩ := by
  unfold runVerify
  rw [hread, hcandidates]
  cases currentManifests sources t here env with
  | error e => rfl
  | ok catalog => rfl

end Command

def AllNormalize (active : ActivePacks) : Prop :=
  ∀ id record, active.get? id = some record → ∃ m, Manifest.ofRecord record = .ok m

theorem Sources.Activated.exists_normalizes {active : ActivePacks}
    (h : sources.Activated t here env active) :
    (∃ catalog, Normalizes active catalog) ↔ AllNormalize active := by
  constructor
  · rintro ⟨catalog, hcatalog⟩ id record hrecord
    rcases hcatalog.registered id record hrecord with ⟨m, hm, _⟩
    exact ⟨m, hm⟩
  · intro hall
    rcases h with ⟨request, policy, _, hactive⟩
    have hkeyed : ∀ id record, active.get? id = some record →
        ∃ m, Manifest.ofRecord record = .ok m ∧ m.id = id := by
      intro id record hrecord
      rcases hall id record hrecord with ⟨m, hm⟩
      rcases Request.exists_origin hactive hrecord with ⟨tier, raw, horigin⟩
      exact ⟨m, hm, horigin.id_eq hm⟩
    rcases Resolution.exists_catalog hkeyed with ⟨catalog, hcatalog⟩
    exact ⟨catalog, Resolution.normalizeAll_eq_ok_iff.1 hcatalog⟩

theorem Sources.isSome_of_mem_candidates {list : Option Path} {items : List Json} {v : Json}
    (h : candidates t here list = .ok items) (hv : v ∈ items) : list.isSome = true := by
  cases list with
  | some path => rfl
  | none =>
    cases h
    cases hv

theorem Sources.haveCandidates_of_run {selected : List String} {engineVersion : String}
    {request : Request} {outcome : Outcome}
    (hload : sources.load t here env selected engineVersion = .ok request)
    (hrun : request.run = .ok outcome) : sources.haveCandidates = true := by
  rw [Request.run_eq_ok_iff, Resolution.resolve_eq_ok_iff] at hrun
  rcases hrun with ⟨hactive, catalog, _, _, _, hres, _⟩
  rcases hres.nonempty with ⟨id, hid⟩
  rcases KeyMap.contains_iff.1 (hres.contains (.of_start hid)) with ⟨m, hm⟩
  rcases hres.normalizes.exists_record hm with ⟨record, hrecord, _⟩
  rcases Request.exists_origin hactive hrecord with ⟨tier, raw, horigin⟩
  rcases Sources.load_eq_ok_iff.1 hload with ⟨hws, his, hus, _⟩
  have hoffered := horigin.offered
  unfold Sources.haveCandidates
  cases tier with
  | workspace => rw [isSome_of_mem_candidates hws hoffered, Bool.true_or, Bool.true_or]
  | installer => rw [isSome_of_mem_candidates his hoffered, Bool.or_true, Bool.true_or]
  | user => rw [isSome_of_mem_candidates hus hoffered, Bool.or_true]

end CommandLine

end GovernanceLock
