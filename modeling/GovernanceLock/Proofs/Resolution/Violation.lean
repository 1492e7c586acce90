import GovernanceLock.Proofs.InstallOrder.Cycle
import GovernanceLock.Proofs.Resolution.Accepted
import GovernanceLock.Proofs.Resolution.Refusals
import GovernanceLock.Proofs.Resolution.Reproduction

/-!
This module contains the statement that a resolution which fails reports the first condition that is
violated, in the order of the checks, and the least packs and surfaces that violate it.
-/

namespace GovernanceLock

open Except (bind_eq_error_iff map_eq_error_iff mapError_eq_error_iff mapError_eq_ok_iff)
open Except (pure_ne_error)
open Json (Record)

namespace Catalog

/--
The pack `p` owns a surface that the smaller pack `q` of `C` owns as well.
-/
structure Shares (catalog : Catalog) (C : PackId → Prop) (p : PackId) (s : SurfaceTag)
    (q : PackId) : Prop where
  mem : C q
  lt : q < p
  owns : catalog.Owns p s
  owned : catalog.Owns q s

/--
The pack `p` touches a surface of another pack `q` of `C` without requiring `q`.
-/
structure Trespasses (catalog : Catalog) (C : PackId → Prop) (p : PackId) (s : SurfaceTag)
    (q : PackId) : Prop where
  mem : C q
  ne : q ≠ p
  touches : catalog.Touches p s
  owned : catalog.Owns q s
  notRequired : q ∉ catalog.requires p

end Catalog

namespace Resolution

/--
What is reported about the packs of `C`, which are all there but do not get along.
-/
inductive Dispute (catalog : Catalog) (engine : Version) (C : PackId → Prop) : Error → Prop where
  | engine {id : PackId} {m : Manifest} :
      Least (fun p => C p ∧ ¬ catalog.Supports p engine) id → catalog.get? id = some m →
        Dispute catalog engine C (.incompatibleEngine id engine m.compat)
  | conflict {id other : PackId} :
      (∀ p, C p → catalog.Supports p engine) →
      Least (fun p => C p ∧ ∃ q, C q ∧ catalog.ConflictsWith p q) id →
      Least (fun q => C q ∧ catalog.ConflictsWith id q) other →
        Dispute catalog engine C (.conflict id other)
  | surface {first second : PackId} {s : SurfaceTag} :
      (∀ p, C p → catalog.Supports p engine) →
      (∀ p q, C p → C q → ¬ catalog.ConflictsWith p q) →
      Least (fun p => C p ∧ ∃ s q, catalog.Shares C p s q) second →
      Least (fun s => ∃ q, catalog.Shares C second s q) s → catalog.Shares C second s first →
        Dispute catalog engine C (.surfaceConflict s first second)
  | trespass {id owner : PackId} {s : SurfaceTag} :
      (∀ p, C p → catalog.Supports p engine) →
      (∀ p q, C p → C q → ¬ catalog.ConflictsWith p q) →
      (∀ p s q, C p → ¬ catalog.Shares C p s q) →
      Least (fun p => C p ∧ ∃ s q, catalog.Trespasses C p s q) id →
      Least (fun s => ∃ q, catalog.Trespasses C id s q) s → catalog.Trespasses C id s owner →
        Dispute catalog engine C (.unrequiredOwner id s owner)
  | cycle {ids : List PackId} :
      (∀ p, C p → catalog.Supports p engine) →
      (∀ p q, C p → C q → ¬ catalog.ConflictsWith p q) →
      (∀ p s q, C p → ¬ catalog.Shares C p s q) →
      (∀ p s q, C p → ¬ catalog.Trespasses C p s q) →
      ids ≠ [] → Ascending ids → (∀ p, p ∈ ids ↔ C p ∧ catalog.LeadsToCycle C p) →
        Dispute catalog engine C (.cycle ids)

theorem Dispute.not_compatible {catalog : Catalog} {engine : Version} {C : PackId → Prop}
    {e : Error} (h : Dispute catalog engine C e) : ¬ Compatible catalog engine C := by
  intro hcompat
  cases h with
  | engine hid _ => exact hid.holds.2 (hcompat.engine _ hid.holds.1)
  | conflict _ hid hother =>
    exact hcompat.conflictFree _ _ hid.holds.1 hother.holds.1 hother.holds.2
  | surface _ _ hsecond _ hshares =>
    have := hcompat.oneOwner _ _ _ hsecond.holds.1 hshares.mem hshares.owns hshares.owned
    exact String.lt_irrefl _ (this ▸ hshares.lt)
  | trespass _ _ _ hid _ htrespass =>
    exact htrespass.notRequired (hcompat.ownerRequired _ _ _ hid.holds.1 htrespass.mem
      (Ne.symm htrespass.ne) htrespass.touches htrespass.owned)
  | cycle _ _ _ _ hne _ hmem =>
    rcases List.exists_mem_of_ne_nil _ hne with ⟨p, hp⟩
    rcases ((hmem p).1 hp).2 with ⟨q, _, hcycle⟩
    exact hcompat.acyclic q hcycle

section

variable {catalog : Catalog} {packs : List PackId} {engine : Version} {e : Error}

/--
Owners have been entered for exactly the surfaces of `packs`.
-/
def Owned (catalog : Catalog) (packs : List PackId) (owners : KeyMap PackId) : Prop :=
  ∀ s p, owners.get? s = some p ↔ p ∈ packs ∧ catalog.Owns p s

theorem owned_of_ownersOf_eq_ok {owners : KeyMap PackId}
    (h : ownersOf catalog .empty packs = .ok owners) : Owned catalog packs owners := by
  intro s p
  simpa using (ownersOf_spec h).2.2 s p

theorem Owned.not_shares {owners : KeyMap PackId} (h : Owned catalog packs owners) {p q : PackId}
    {s : SurfaceTag} (hp : p ∈ packs) : ¬ catalog.Shares (· ∈ packs) p s q := by
  intro hshares
  have hps := (h s p).2 ⟨hp, hshares.owns⟩
  rw [(h s q).2 ⟨hshares.mem, hshares.owned⟩, Option.some.injEq] at hps
  exact String.lt_irrefl _ (hps ▸ hshares.lt)

theorem ownersOf_disputed (hpacks : Ascending packs)
    (hlists : ∀ p ∈ packs, Ascending (surfacesOf catalog p))
    (h : ownersOf catalog .empty packs = .error e) :
    ∃ second s first, Least (fun p => p ∈ packs ∧ ∃ s q, catalog.Shares (· ∈ packs) p s q) second ∧
      Least (fun s => ∃ q, catalog.Shares (· ∈ packs) second s q) s ∧
      catalog.Shares (· ∈ packs) second s first ∧ e = .surfaceConflict s first second := by
  rcases ownersOf_eq_error h with ⟨before, second, after, mid, rfl, hmid, h⟩
  have hsecond : second ∈ before ++ second :: after := by simp
  have hasc := hlists second hsecond
  rcases enterOwner_eq_error hasc.nodup h with ⟨s, first, hs, hfirst, rfl⟩
  have howned := owned_of_ownersOf_eq_ok hmid
  -- The packs that were entered before `second` are the smaller ones.
  have hshares : ∀ t q, catalog.Shares (· ∈ before ++ second :: after) second t q ↔
      t ∈ surfacesOf catalog second ∧ mid.get? t = some q := by
    intro t q
    rw [howned t q, mem_surfacesOf_iff, hpacks.mem_before_iff]
    constructor
    · intro h
      exact ⟨h.owns, ⟨h.mem, h.lt⟩, h.owned⟩
    · rintro ⟨howns, ⟨hmem, hlt⟩, howned⟩
      exact ⟨hmem, hlt, howns, howned⟩
  refine ⟨second, s, first, ⟨⟨hsecond, s, first, ?_⟩, ?_⟩, ?_, ?_, rfl⟩
  · exact (hshares s first).2 ⟨hs.mem, hfirst⟩
  · rintro p ⟨hp, t, q, hpq⟩
    apply String.not_lt.1
    intro hlt
    have hbefore : p ∈ before := hpacks.mem_before_iff.2 ⟨hp, hlt⟩
    have hq : q ∈ before := hpacks.mem_before_iff.2 ⟨hpq.mem, String.lt_trans hpq.lt hlt⟩
    exact howned.not_shares hbefore ⟨hq, hpq.lt, hpq.owns, hpq.owned⟩
  · apply (hs.least hasc).congr
    intro t
    simp only [hshares, exists_and_left]
  · exact (hshares s first).2 ⟨hs.mem, hfirst⟩

theorem Owned.unrequired?_eq_some_iff {owners : KeyMap PackId} (h : Owned catalog packs owners)
    {p q : PackId} {m : Manifest} (hm : catalog.get? p = some m) {s : SurfaceTag} :
    s ∈ m.touchesSurfaces ∧ unrequired? owners p m s = some q ↔
      catalog.Trespasses (· ∈ packs) p s q := by
  rw [Resolution.unrequired?_eq_some_iff, h s q]
  constructor
  · rintro ⟨htouches, ⟨hmem, howned⟩, hne, hnot⟩
    refine ⟨hmem, hne, ⟨m, hm, htouches⟩, howned, ?_⟩
    rw [Catalog.requires_eq hm]
    exact hnot
  · intro h
    rcases h.touches with ⟨m', hm', htouches⟩
    rw [hm, Option.some.injEq] at hm'
    subst hm'
    have hnot := h.notRequired
    rw [Catalog.requires_eq hm] at hnot
    exact ⟨htouches, ⟨h.mem, h.owned⟩, h.ne, hnot⟩

theorem checkTouches_disputed {owners : KeyMap PackId} (hpacks : Ascending packs)
    (hlists : ∀ p m, catalog.get? p = some m → m.Ordered) (howned : Owned catalog packs owners)
    (h : checkTouches catalog owners packs = .error e) :
    ∃ id s owner, Least (fun p => p ∈ packs ∧ ∃ s q, catalog.Trespasses (· ∈ packs) p s q) id ∧
      Least (fun s => ∃ q, catalog.Trespasses (· ∈ packs) id s q) s ∧
      catalog.Trespasses (· ∈ packs) id s owner ∧ e = .unrequiredOwner id s owner := by
  rcases checkTouches_eq_error h with ⟨id, m, s, owner, hid, hm, hs, howner, rfl⟩
  refine ⟨id, s, owner, ?_, ?_, ?_, rfl⟩
  · apply (hid.least hpacks).congr
    intro p
    refine and_congr_right fun _ => ?_
    constructor
    · rintro ⟨m, hm, s, hs, q, hq⟩
      exact ⟨s, q, (howned.unrequired?_eq_some_iff hm).1 ⟨hs, hq⟩⟩
    · rintro ⟨s, q, htrespass⟩
      rcases htrespass.touches with ⟨m, hm, _⟩
      rcases (howned.unrequired?_eq_some_iff hm).2 htrespass with ⟨hs, hq⟩
      exact ⟨m, hm, s, hs, q, hq⟩
  · apply (hs.least (hlists id m hm).touchesSurfaces).congr
    intro t
    simp [← howned.unrequired?_eq_some_iff hm]
  · exact (howned.unrequired?_eq_some_iff hm).1 ⟨hs.mem, howner⟩

theorem order_eq_error {c : Closed} (hpacks : Ascending c.packs)
    (hknown : ∀ p ∈ c.packs, c.catalog.contains p = true)
    (hlists : ∀ p m, c.catalog.get? p = some m → m.Ordered) (h : c.order = .error e) :
    Dispute c.catalog c.engine (· ∈ c.packs) e := by
  have hsurfaces : ∀ p ∈ c.packs, Ascending (surfacesOf c.catalog p) := by
    intro p _
    unfold surfacesOf
    cases hm : c.catalog.get? p with
    | none => exact .nil
    | some m => exact (hlists p m hm).ownsSurfaces
  unfold Closed.order at h
  rw [bind_eq_error_iff] at h
  rcases h with h | ⟨_, hengine, h⟩
  · rcases checkEngine_eq_error h with ⟨id, m, hid, hm, rfl⟩
    exact .engine (hid.least hpacks) hm
  rw [checkEngine_eq_ok_iff] at hengine
  rw [bind_eq_error_iff] at h
  rcases h with h | ⟨_, hconflicts, h⟩
  · rcases checkConflicts_eq_error h with ⟨id, m, other, hid, hm, hother, rfl⟩
    apply Dispute.conflict hengine (hid.least hpacks)
    apply (hother.least (hlists id m hm).conflictsWith).congr
    intro q
    rw [conflictsWith_iff hm, and_comm]
  rw [checkConflicts_eq_ok_iff] at hconflicts
  have hconflicts : ∀ p q, p ∈ c.packs → q ∈ c.packs → ¬ c.catalog.ConflictsWith p q :=
    fun p q hp hq => hconflicts p hp q hq
  rw [bind_eq_error_iff] at h
  rcases h with h | ⟨owners, howners, h⟩
  · rcases ownersOf_disputed hpacks hsurfaces h with ⟨second, s, first, hsecond, hs, hfirst, rfl⟩
    exact .surface hengine hconflicts hsecond hs hfirst
  have howned := owned_of_ownersOf_eq_ok howners
  have hshares : ∀ p s q, p ∈ c.packs → ¬ c.catalog.Shares (· ∈ c.packs) p s q :=
    fun p s q hp => howned.not_shares hp
  rw [bind_eq_error_iff] at h
  rcases h with h | ⟨_, htouches, h⟩
  · rcases checkTouches_disputed hpacks hlists howned h with ⟨id, s, owner, hid, hs, howner, rfl⟩
    exact .trespass hengine hconflicts hshares hid hs howner
  rw [checkTouches_eq_ok_iff] at htouches
  have htrespasses : ∀ p s q, p ∈ c.packs → ¬ c.catalog.Trespasses (· ∈ c.packs) p s q := by
    intro p s q hp h
    rcases htouches p hp s h.touches q ((howned s q).2 ⟨h.mem, h.owned⟩) with heq | hreq
    · exact h.ne heq
    · exact h.notRequired hreq
  rw [mapError_eq_error_iff] at h
  rcases h with ⟨cause, h, rfl⟩
  rcases Catalog.installOrder_eq_error hpacks hknown h with ⟨ids, rfl, hne, hasc, hids⟩
  exact .cycle hengine hconflicts hshares htrespasses hne hasc hids

end

/--
The record of a key does not normalize to a manifest with that id.
-/
def Unfit (records : KeyMap Record) (key : PackId) : Prop :=
  ∃ r, records.get? key = some r ∧ ∀ m, Manifest.ofRecord r = .ok m → m.id ≠ key

/--
The records are all in order, something is selected, all of it is known, and the engine version is a
version.
-/
structure Opened (records : KeyMap Record) (selected : List String) (engineText : String)
    (catalog : Catalog) (engine : Version) : Prop where
  normalizes : Normalizes records catalog
  nonempty : ∃ id, Selected selected id
  known : ∀ id, Selected selected id → id ∈ records.keys
  parses : Version.parse engineText = .ok engine

/--
The first condition of a resolution that does not hold, with the least packs and surfaces that
violate it. Conditions that come later may be violated as well.
-/
inductive FirstViolation (records : KeyMap Record) (selected : List String) (engineText : String) :
    Error → Prop where
  | manifest {key : PackId} {r : Record} {cause : Manifest.Error} :
      Least (Unfit records) key → records.get? key = some r →
      Manifest.ofRecord r = .error cause →
        FirstViolation records selected engineText (.manifest cause)
  | idMismatch {key : PackId} {r : Record} {m : Manifest} :
      Least (Unfit records) key → records.get? key = some r → Manifest.ofRecord r = .ok m →
        FirstViolation records selected engineText (.idMismatch key m.id)
  | emptySelection {catalog : Catalog} :
      Normalizes records catalog → (∀ id, ¬ Selected selected id) →
        FirstViolation records selected engineText .emptySelection
  | unknownSelection {catalog : Catalog} {id : PackId} :
      Normalizes records catalog → Least (fun id => Selected selected id ∧ id ∉ records.keys) id →
        FirstViolation records selected engineText (.unknownSelection id)
  | invalidEngineVersion {catalog : Catalog} {cause : Version.Error} :
      Normalizes records catalog → (∃ id, Selected selected id) →
      (∀ id, Selected selected id → id ∈ records.keys) → Version.parse engineText = .error cause →
        FirstViolation records selected engineText (.invalidEngineVersion cause)
  | missingDependency {catalog : Catalog} {engine : Version} {id dependency : PackId} :
      Opened records selected engineText catalog engine →
      catalog.ReachesFrom (Selected selected) id →
      Least (fun q => q ∈ catalog.requires id ∧ q ∉ records.keys) dependency →
        FirstViolation records selected engineText (.missingDependency id dependency)
  | dispute {catalog : Catalog} {engine : Version} {e : Error} :
      Opened records selected engineText catalog engine →
      (∀ p, catalog.ReachesFrom (Selected selected) p →
        ∀ q ∈ catalog.requires p, q ∈ records.keys) →
      Dispute catalog engine (catalog.ReachesFrom (Selected selected)) e →
        FirstViolation records selected engineText e

variable {records : KeyMap Record} {selected : List String} {engineText : String} {e : Error}

theorem unfit_iff {key : PackId} :
    Unfit records key ↔ ∃ r, records.get? key = some r ∧ ∃ e, normalize key r = .error e := by
  unfold Unfit
  refine exists_congr fun r => and_congr_right fun _ => ?_
  constructor
  · intro h
    rcases Except.eq_ok_or_exists_error (normalize key r) with ⟨m, hm⟩ | he
    · rw [normalize_eq_ok_iff] at hm
      exact absurd hm.2 (h m hm.1)
    · exact he
  · rintro ⟨e, he⟩ m hm hid
    rw [normalize_eq_ok_iff.2 ⟨hm, hid⟩] at he
    cases he

theorem firstViolation_of_normalizeAll (h : normalizeAll .empty records.entries = .error e) :
    FirstViolation records selected engineText e := by
  rcases normalizeAll_eq_error h with ⟨⟨key, r⟩, hfirst, he⟩
  have hr : records.get? key = some r := KeyMap.mem_entries_iff.1 hfirst.mem
  have hleast : Least (Unfit records) key := by
    refine ⟨unfit_iff.2 ⟨r, hr, e, he⟩, ?_⟩
    intro y hy
    rcases unfit_iff.1 hy with ⟨r', hr', he'⟩
    exact hfirst.le_of_key records.ascending (KeyMap.mem_entries_iff.2 hr') he'
  rcases normalize_eq_error he with ⟨cause, hcause, rfl⟩ | ⟨m, hm, _, rfl⟩
  · exact .manifest hleast hr hcause
  · exact .idMismatch hleast hr hm

theorem firstViolation_of_checkSelection {catalog : Catalog} (hcatalog : Normalizes records catalog)
    (h : checkSelection catalog (selection selected) = .error e) :
    FirstViolation records selected engineText e := by
  rcases checkSelection_eq_error h with ⟨hnil, rfl⟩ | ⟨id, hid, rfl⟩
  · apply FirstViolation.emptySelection hcatalog
    intro id hid
    rw [← mem_selection_iff, hnil] at hid
    cases hid
  · apply FirstViolation.unknownSelection hcatalog
    apply (hid.least (Ascending.ofList_ascending _)).congr
    intro p
    rw [mem_selection_iff, ← hcatalog.contains_iff_mem_keys, Bool.not_eq_true]

theorem firstViolation_of_closure {catalog : Catalog} {engine : Version} {cause : Closure.Error}
    (hopened : Opened records selected engineText catalog engine)
    (h : catalog.closure (selection selected) = .error cause) :
    FirstViolation records selected engineText (ofClosureError cause) := by
  have hcatalog := hopened.normalizes
  unfold Catalog.closure at h
  rw [map_eq_error_iff] at h
  have hknown : ∀ p ∈ selection selected, catalog.contains p = true := by
    intro p hp
    rw [hcatalog.contains_iff_mem_keys]
    exact hopened.known p (mem_selection_iff.1 hp)
  rcases Closure.exists_missing_of_search_eq_error .init hknown h with ⟨p, m, q, hp, hm, hq, rfl⟩
  rw [mem_selection_eq] at hp
  apply FirstViolation.missingDependency hopened hp
  have hleast := (hcatalog.ordered hm).requires.find?_eq_some_iff.1 hq
  apply hleast.congr
  intro d
  rw [Catalog.requires_eq hm, ← hcatalog.contains_iff_mem_keys, Bool.not_eq_true,
    Bool.not_eq_eq_eq_not, Bool.not_true]

theorem selection_known_iff {catalog : Catalog} (hcatalog : Normalizes records catalog) :
    (selection selected ≠ [] ∧ ∀ id ∈ selection selected, catalog.contains id = true) ↔
      (∃ id, Selected selected id) ∧ ∀ id, Selected selected id → id ∈ records.keys := by
  rw [selection_ne_nil_iff]
  refine and_congr_right fun _ => forall_congr' fun id => ?_
  rw [mem_selection_iff, hcatalog.contains_iff_mem_keys]

theorem firstViolation_of_close (h : close records selected engineText = .error e) :
    FirstViolation records selected engineText e := by
  unfold close at h
  rw [bind_eq_error_iff] at h
  rcases h with h | ⟨catalog, hcatalog, h⟩
  · exact firstViolation_of_normalizeAll h
  rw [normalizeAll_eq_ok_iff] at hcatalog
  rw [bind_eq_error_iff] at h
  rcases h with h | ⟨⟨⟩, hselection, h⟩
  · exact firstViolation_of_checkSelection hcatalog h
  rw [checkSelection_eq_ok_iff, selection_known_iff hcatalog] at hselection
  rw [bind_eq_error_iff] at h
  rcases h with h | ⟨engine, hengine, h⟩
  · rw [mapError_eq_error_iff] at h
    rcases h with ⟨cause, hcause, rfl⟩
    exact .invalidEngineVersion hcatalog hselection.1 hselection.2 hcause
  rw [mapError_eq_ok_iff] at hengine
  rw [bind_eq_error_iff] at h
  rcases h with h | ⟨packs, _, h⟩
  · rw [mapError_eq_error_iff] at h
    rcases h with ⟨cause, hcause, rfl⟩
    exact firstViolation_of_closure ⟨hcatalog, hselection.1, hselection.2, hengine⟩ hcause
  · exact absurd h pure_ne_error

theorem firstViolation_of_order {c : Closed} (hclose : close records selected engineText = .ok c)
    (h : c.order = .error e) : FirstViolation records selected engineText e := by
  rw [close_eq_ok_iff] at hclose
  rcases hclose with ⟨hcatalog, hsel, hne, hknown, hengine, hclosure⟩
  rw [Catalog.closure_eq_ok_iff, hsel, mem_selection_eq] at hclosure
  rcases hclosure with ⟨hcontains, hasc, hmem⟩
  have hdispute := order_eq_error hasc (fun p hp => hcontains p ((hmem p).1 hp))
    (fun _ _ hm => hcatalog.ordered hm) h
  rw [funext fun p => propext (hmem p)] at hdispute
  rw [hsel] at hne hknown
  rcases (selection_known_iff hcatalog).1 ⟨hne, hknown⟩ with ⟨hsome, hkeys⟩
  refine .dispute ⟨hcatalog, hsome, hkeys, hengine⟩ ?_ hdispute
  intro p hp q hq
  rw [← hcatalog.contains_iff_mem_keys]
  exact hcontains q (hp.tail hq)

theorem firstViolation_of_resolve (h : resolve records selected engineText = .error e) :
    FirstViolation records selected engineText e := by
  unfold resolve at h
  rw [bind_eq_error_iff] at h
  rcases h with h | ⟨c, hclose, h⟩
  · exact firstViolation_of_close h
  rw [bind_eq_error_iff] at h
  rcases h with h | ⟨order, _, h⟩
  · exact firstViolation_of_order hclose h
  · exact absurd h pure_ne_error

theorem FirstViolation.dispute_of_opened (h : FirstViolation records selected engineText e)
    {catalog : Catalog} {engine : Version}
    (hopened : Opened records selected engineText catalog engine)
    (hcomplete : ∀ p, catalog.ReachesFrom (Selected selected) p →
      ∀ q ∈ catalog.requires p, q ∈ records.keys) :
    Dispute catalog engine (catalog.ReachesFrom (Selected selected)) e := by
  have hfit : ∀ key, ¬ Unfit records key := by
    rintro key ⟨r, hr, hunfit⟩
    rcases hopened.normalizes.registered key r hr with ⟨m, hm, hid, _⟩
    exact hunfit m hm hid
  cases h with
  | manifest hkey _ _ => exact absurd hkey.holds (hfit _)
  | idMismatch hkey _ _ => exact absurd hkey.holds (hfit _)
  | emptySelection _ hnone =>
    rcases hopened.nonempty with ⟨id, hid⟩
    exact absurd hid (hnone id)
  | unknownSelection _ hid => exact absurd (hopened.known _ hid.holds.1) hid.holds.2
  | invalidEngineVersion _ _ _ hcause =>
    rw [hopened.parses] at hcause
    cases hcause
  | missingDependency hopened' hid hdependency =>
    rw [hopened'.normalizes.unique hopened.normalizes] at hid hdependency
    exact absurd (hcomplete _ hid _ hdependency.holds.1) hdependency.holds.2
  | dispute hopened' _ hdispute =>
    have hengine := hopened'.parses
    rw [hopened.parses, Except.ok.injEq] at hengine
    rw [hopened'.normalizes.unique hopened.normalizes, ← hengine] at hdispute
    exact hdispute

theorem Resolvable.opened {catalog : Catalog} {engine : Version}
    (h : Resolvable records selected engineText catalog engine) :
    Opened records selected engineText catalog engine where
  normalizes := h.normalizes
  nonempty := h.nonempty
  known := h.known
  parses := h.parses

theorem FirstViolation.not_resolvable (h : FirstViolation records selected engineText e)
    {catalog : Catalog} {engine : Version} :
    ¬ Resolvable records selected engineText catalog engine := by
  intro hres
  apply (h.dispute_of_opened hres.opened hres.complete).not_compatible
  exact hres.compatible

/--
A resolution that fails reports the first condition that is violated, in the order of the checks,
and the least packs and surfaces that violate it; and where a condition is violated, it fails.
-/
theorem resolve_reports_first (records : KeyMap Record) (selected : List String)
    (engineText : String) :
    (∀ e, resolve records selected engineText = .error e →
      FirstViolation records selected engineText e) ∧
      ∀ e, FirstViolation records selected engineText e →
        ∃ reported, resolve records selected engineText = .error reported := by
  constructor
  · intro e h
    exact firstViolation_of_resolve h
  · intro e h
    rcases Except.eq_ok_or_exists_error (resolve records selected engineText) with
      ⟨lock, hlock⟩ | he
    · rcases resolve_eq_ok_iff.1 hlock with ⟨catalog, engine, _, _, hres, _, _⟩
      exact absurd hres h.not_resolvable
    · exact he

section

/-!
Two packs that require each other though one declares a conflict with the other: the conflict is
reported, not the cycle.
-/

def rivalRecords : KeyMap Record :=
  .ofList
    [("app", (packRecord "app" ["base"]).set "conflicts_with" (.strings ["base"])),
     ("base", packRecord "base" ["app"])]

def rivalClosure : Closed where
  catalog := .ofList
    [("app", { packManifest "app" ["base"] with conflictsWith := ["base"] }),
     ("base", packManifest "base" ["app"])]
  selection := ["app"]
  engine := ⟨2, 0, 0⟩
  packs := ["app", "base"]

theorem rivalClosure_closure :
    rivalClosure.catalog.closure rivalClosure.selection = .ok rivalClosure.packs := by
  have hsearch : Closure.search rivalClosure.catalog ["app"] ["app"] = .ok ["app", "base"] :=
    calc
      Closure.search rivalClosure.catalog ["app"] ["app"]
        = Closure.search rivalClosure.catalog ["app", "base"] ["base"] :=
          Closure.search_scan (m := { packManifest "app" ["base"] with conflictsWith := ["base"] })
            rfl (by decide)
      _ = Closure.search rivalClosure.catalog ["app", "base"] [] :=
          Closure.search_scan (m := packManifest "base" ["app"]) rfl (by decide)
      _ = .ok ["app", "base"] := Closure.search_nil
  unfold Catalog.closure
  rw [Except.map_eq_ok_iff]
  exact ⟨["app", "base"], hsearch, by decide⟩

theorem rivalRecords_resolve :
    resolve rivalRecords ["app"] "2.0.0" = .error (.conflict "app" "base") := by
  have hclose : close rivalRecords ["app"] "2.0.0" = .ok rivalClosure := by
    rw [close_eq_ok_iff]
    exact ⟨normalizeAll_eq_ok_iff.1 rfl, by decide, by decide, by decide, rfl,
      rivalClosure_closure⟩
  have horder : rivalClosure.order = .error (.conflict "app" "base") := by decide
  unfold resolve
  rw [hclose, bind_eq_error_iff]
  right
  refine ⟨rivalClosure, rfl, ?_⟩
  rw [horder]
  rfl

theorem rivalRecords_reports_first :
    resolve rivalRecords ["app"] "2.0.0" = .error (.conflict "app" "base") ∧
      FirstViolation rivalRecords ["app"] "2.0.0" (.conflict "app" "base") :=
  ⟨rivalRecords_resolve,
    (resolve_reports_first rivalRecords ["app"] "2.0.0").1 _ rivalRecords_resolve⟩

end

end Resolution

end GovernanceLock
