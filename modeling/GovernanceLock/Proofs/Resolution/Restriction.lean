import GovernanceLock.Proofs.InstallOrder.Part
import GovernanceLock.Proofs.Resolution.Reproduction

/-!
This module contains the statement that a resolution stays one when less of it is selected: what some
of the locked packs lead to is locked as before, in the same order.
-/

namespace GovernanceLock

namespace Catalog

variable {catalog : Catalog} {C D start more : PackId → Prop}

theorem ReachesFrom.of_forall_start {p : PackId} (h : catalog.ReachesFrom start p)
    (hstart : ∀ s, start s → catalog.ReachesFrom more s) : catalog.ReachesFrom more p := by
  apply h.preserves hstart
  intro q hq r hr
  exact hq.tail hr

theorem Acyclic.restrict (h : catalog.Acyclic C) (hsub : ∀ p, D p → C p) : catalog.Acyclic D := by
  intro p hp
  apply h p
  apply Relation.TransGen.mono _ p p hp
  intro q r hqr
  exact ⟨hsub q hqr.left, hsub r hqr.right, hqr.requires⟩

end Catalog

namespace Resolution

open Json (Record)

section

variable {catalog : Catalog} {engine : Version} {C D : PackId → Prop} {packs part order : List PackId}

theorem Compatible.restrict (h : Compatible catalog engine C) (hsub : ∀ p, D p → C p) :
    Compatible catalog engine D where
  engine := by
    intro p hp
    exact h.engine p (hsub p hp)
  conflictFree := by
    intro p q hp hq
    exact h.conflictFree p q (hsub p hp) (hsub q hq)
  oneOwner := by
    intro p q s hp hq
    exact h.oneOwner p q s (hsub p hp) (hsub q hq)
  ownerRequired := by
    intro p q s hp hq
    exact h.ownerRequired p q s (hsub p hp) (hsub q hq)
  acyclic := h.acyclic.restrict hsub

theorem Planned.restrict (h : Planned catalog C packs order) (hsub : ∀ p, D p → C p)
    (hclosed : ∀ p, D p → ∀ q ∈ catalog.requires p, D q) (hasc : Ascending part)
    (hmem : ∀ p, p ∈ part ↔ D p) : Planned catalog D part (order.filter (· ∈ part)) where
  ascending := hasc
  mem := hmem
  perm := by
    apply (List.perm_ext_iff_of_nodup _ hasc.nodup).2
    · intro p
      rw [InstallOrder.mem_filter_mem_iff, h.mem_order, hmem]
      exact and_iff_right_of_imp (hsub p)
    · apply List.Nodup.filter
      exact h.perm.nodup_iff.2 h.ascending.nodup
  greedy := by
    rw [← List.filter_reverse]
    apply h.greedy.restrict
    · intro p hp
      rw [h.mem]
      exact hsub p ((hmem p).1 hp)
    · intro p hp q hq _
      rw [hmem] at hp ⊢
      exact hclosed p hp q hq

theorem manifestsOf_filter (hid : ∀ p m, catalog.get? p = some m → m.id = p) :
    manifestsOf catalog (order.filter (· ∈ part)) =
      (manifestsOf catalog order).filter (·.id ∈ part) := by
  unfold manifestsOf
  rw [List.filterMap_filter, List.filter_filterMap]
  apply List.filterMap_congr
  intro p _
  cases hm : catalog.get? p with
  | none => simp
  | some m => simp [Option.filter_some, hid p m hm]

end

section

variable {records : KeyMap Record} {selected selected' : List String} {engineText : String}
variable {catalog : Catalog} {engine : Version} {lock : Lock}

theorem Normalizes.id_eq (h : Normalizes records catalog) {p : PackId} {m : Manifest}
    (hm : catalog.get? p = some m) : m.id = p := by
  rcases h.exists_record hm with ⟨_, _, _, hid⟩
  exact hid

theorem Normalizes.trimmed_key (h : Normalizes records catalog) {p : PackId} {m : Manifest}
    (hm : catalog.get? p = some m) : p ≠ "" ∧ Text.trimmed p = p := by
  rcases h.exists_record hm with ⟨_, _, hofRecord, rfl⟩
  exact Manifest.nonBlank_eq_ok (Manifest.ofRecord_eq_ok_iff.1 hofRecord).id

theorem Resolvable.restrict (h : Resolvable records selected engineText catalog engine)
    (hne : ∃ id, Selected selected' id)
    (hsub : ∀ id, Selected selected' id → catalog.ReachesFrom (Selected selected) id) :
    Resolvable records selected' engineText catalog engine where
  normalizes := h.normalizes
  nonempty := hne
  known := by
    intro id hid
    rw [← h.normalizes.contains_iff_mem_keys]
    exact h.contains (hsub id hid)
  parses := h.parses
  complete := by
    intro p hp
    exact h.complete p (hp.of_forall_start hsub)
  compatible := by
    apply h.compatible.restrict
    intro p hp
    exact hp.of_forall_start hsub

theorem Resolvable.selected_eq (h : Resolvable records selected engineText catalog engine)
    {ids : List PackId} (hids : ∀ id ∈ ids, catalog.ReachesFrom (Selected selected) id) :
    Selected ids = (· ∈ ids) := by
  have htrimmed : ∀ id ∈ ids, id ≠ "" ∧ Text.trimmed id = id := by
    intro id hid
    rcases h.exists_manifest (hids id hid) with ⟨m, hm, _⟩
    exact h.normalizes.trimmed_key hm
  funext id
  apply propext
  constructor
  · rintro ⟨_, text, htext, rfl⟩
    rw [(htrimmed text htext).2]
    exact htext
  · intro hid
    exact ⟨(htrimmed id hid).1, id, hid, (htrimmed id hid).2⟩

theorem Normalizes.eq_of_mem_packs (h : Normalizes records catalog) {order : List PackId}
    {pack other : LockedPack} (hpack : pack ∈ (manifestsOf catalog order).map .ofManifest)
    (hother : other ∈ (manifestsOf catalog order).map .ofManifest) (hid : pack.id = other.id) :
    pack = other := by
  rcases List.mem_map.1 hpack with ⟨m, hm, rfl⟩
  rcases List.mem_map.1 hother with ⟨n, hn, rfl⟩
  rcases List.mem_filterMap.1 hm with ⟨p, _, hm⟩
  rcases List.mem_filterMap.1 hn with ⟨q, _, hn⟩
  have hpq : p = q := by
    rw [← h.id_eq hm, ← h.id_eq hn]
    exact hid
  rw [hpq, hn, Option.some.injEq] at hm
  rw [hm]

variable {packs order : List PackId}

theorem Resolvable.resolvedOrder_eq (h : Resolvable records selected engineText catalog engine)
    (horder : ∀ p ∈ order, catalog.ReachesFrom (Selected selected) p) (ids : List PackId) :
    (Lock.assemble engine ids (manifestsOf catalog order)).resolvedOrder = order := by
  apply manifestsOf_map_id
  intro p hp
  exact h.exists_manifest (horder p hp)

theorem Normalizes.packs_filter (h : Normalizes records catalog) (ids part : List PackId) :
    (Lock.assemble engine ids (manifestsOf catalog (order.filter (· ∈ part)))).packs =
      ((manifestsOf catalog order).map LockedPack.ofManifest).filter (·.id ∈ part) := by
  rw [manifestsOf_filter fun _ _ hm => h.id_eq hm, List.filter_map]
  rfl

theorem Resolvable.exists_restriction
    (h : Resolvable records selected engineText catalog engine)
    (hplan : Planned catalog (catalog.ReachesFrom (Selected selected)) packs order)
    {ids : List PackId} (hne : ids ≠ [])
    (hids : ∀ id ∈ ids, catalog.ReachesFrom (Selected selected) id) :
    ∃ part : List PackId, (∀ p, p ∈ part ↔ catalog.ReachesFrom (· ∈ ids) p) ∧
      resolve records ids engineText = .ok (.assemble engine (selection ids)
        (manifestsOf catalog (order.filter (· ∈ part)))) := by
  have hselected := h.selected_eq hids
  have hres : Resolvable records ids engineText catalog engine := by
    apply h.restrict
    · rw [hselected]
      exact List.exists_mem_of_ne_nil ids hne
    · rw [hselected]
      exact hids
  rcases hres.exists_plan with ⟨part, _, hpart⟩
  refine ⟨part, ?_, ?_⟩
  · rw [← hselected]
    exact hpart.mem
  · rw [resolve_eq_ok_iff]
    refine ⟨catalog, engine, part, _, hres, ?_, rfl⟩
    apply hplan.restrict _ _ hpart.ascending hpart.mem
    · intro p hp
      rw [hselected] at hp
      exact hp.of_forall_start hids
    · intro p hp q hq
      exact hp.tail hq

end

/--
Whatever is selected among the packs of a lock can be locked as well. The new lock has the packs that
this selection leads to, in the order in which the lock has them and with the entries that they have
there; it has all of them if it selects all that the lock has selected.
-/
theorem resolve_subselection {records : KeyMap Record} {selected : List String}
    {engineText : String} {lock : Lock} {ids : List PackId}
    (hlock : resolve records selected engineText = .ok lock) (hne : ids ≠ [])
    (hids : ids ⊆ lock.resolvedOrder) :
    ∃ (catalog : Catalog) (part : List PackId) (lock' : Lock), Normalizes records catalog ∧
      (∀ p, p ∈ part ↔ catalog.ReachesFrom (· ∈ ids) p) ∧
      resolve records ids engineText = .ok lock' ∧
      lock'.resolvedOrder = lock.resolvedOrder.filter (· ∈ part) ∧
      lock'.packs = lock.packs.filter (·.id ∈ part) ∧
      (∀ pack ∈ lock'.packs, ∀ other ∈ lock.packs, other.id = pack.id → other = pack) ∧
      ((∀ id, Selected selected id → id ∈ ids) →
        lock'.resolvedOrder = lock.resolvedOrder ∧ lock'.packs = lock.packs) := by
  rcases resolve_eq_ok_iff.1 hlock with ⟨catalog, engine, packs, order, hres, hplan, rfl⟩
  have hmem : ∀ p ∈ order, catalog.ReachesFrom (Selected selected) p :=
    fun p hp => (hplan.mem_order p).1 hp
  have horder := hres.resolvedOrder_eq hmem (selection selected)
  rw [horder] at hids
  rcases hres.exists_restriction hplan hne (fun id hid => hmem id (hids hid)) with
    ⟨part, hpart, hlock'⟩
  have hmem' : ∀ p ∈ order.filter (· ∈ part), catalog.ReachesFrom (Selected selected) p :=
    fun p hp => hmem p (List.mem_filter.1 hp).1
  have hpacks' : (Lock.assemble engine (selection ids)
      (manifestsOf catalog (order.filter (· ∈ part)))).packs
        = ((manifestsOf catalog order).map LockedPack.ofManifest).filter (·.id ∈ part) :=
    hres.normalizes.packs_filter (selection ids) part
  refine ⟨catalog, part, _, hres.normalizes, hpart, hlock', ?_, hpacks', ?_, ?_⟩
  · rw [hres.resolvedOrder_eq hmem', horder]
  · intro pack hpack other hother
    rw [hpacks', List.mem_filter] at hpack
    exact hres.normalizes.eq_of_mem_packs hother hpack.1
  · intro hall
    have hsame : order.filter (· ∈ part) = order := by
      rw [List.filter_eq_self]
      intro p hp
      rw [decide_eq_true_iff, hpart]
      apply (hmem p hp).of_forall_start
      intro id hid
      exact .of_start (hall id hid)
    rw [hsame]
    exact ⟨rfl, rfl⟩

section

/-!
The lock of `app` and `base`, of which only `base` is selected.
-/

theorem lockedRecords_normalizes : Normalizes lockedRecords appClosure.catalog :=
  normalizeAll_eq_ok_iff.1 rfl

theorem eq_base_of_reachesFrom {p : PackId}
    (h : appClosure.catalog.ReachesFrom (· ∈ ["base"]) p) : p = "base" := by
  have hrequires : appClosure.catalog.requires "base" = [] := rfl
  apply h.preserves (P := (· = "base"))
  · intro s hs
    exact List.mem_singleton.1 hs
  · rintro _ rfl q hq
    rw [hrequires] at hq
    cases hq

theorem appLock_subselection :
    resolve lockedRecords ["app", " ", " app "] "02.0.0" = .ok appLock ∧
      ["base"] ⊆ appLock.resolvedOrder ∧
      ∃ lock', resolve lockedRecords ["base"] "02.0.0" = .ok lock' ∧
        lock'.resolvedOrder = ["base"] ∧ lock'.packs = [.ofManifest (packManifest "base" [])] := by
  have hids : ["base"] ⊆ appLock.resolvedOrder := by decide
  rcases resolve_subselection lockedRecords_resolve (by simp) hids with
    ⟨catalog, part, lock', hnormalizes, hpart, hlock', horder, hpacks, _⟩
  rw [hnormalizes.unique lockedRecords_normalizes] at hpart
  have hbase : "base" ∈ part := (hpart "base").2 (.of_start (List.mem_singleton.2 rfl))
  have happ : "app" ∉ part := by
    intro h
    have := eq_base_of_reachesFrom ((hpart "app").1 h)
    revert this
    decide
  refine ⟨lockedRecords_resolve, hids, lock', hlock', ?_, ?_⟩
  · rw [horder]
    change ["base", "app"].filter (· ∈ part) = ["base"]
    simp [hbase, happ]
  · rw [hpacks]
    change [LockedPack.ofManifest (packManifest "base" []),
      LockedPack.ofManifest (packManifest "app" ["base"])].filter (·.id ∈ part) = _
    have hid : (LockedPack.ofManifest (packManifest "base" [])).id = "base" := rfl
    have hid' : (LockedPack.ofManifest (packManifest "app" ["base"])).id = "app" := rfl
    simp [hid, hid', hbase, happ]

end

end Resolution

end GovernanceLock
