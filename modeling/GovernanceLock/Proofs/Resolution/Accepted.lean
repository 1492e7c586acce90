import GovernanceLock.Proofs.InstallOrder.Least
import GovernanceLock.Proofs.Resolution.Catalog
import GovernanceLock.Proofs.Resolution.Checks

/-!
This module contains the characterization of the selections that are resolved, and of the locks that
come out: the packs that a selection leads to have to be there and to get along, and the lock says
exactly what they are.
-/

namespace GovernanceLock.Resolution

open Except (bind_eq_ok_iff mapError_eq_ok_iff pure_eq_ok_iff)
open InstallOrder (Greedy)
open Json (Record)

/--
One of the texts is this pack id, blanks around it aside.
-/
def Selected (selected : List String) (id : PackId) : Prop :=
  id ≠ "" ∧ ∃ text ∈ selected, Text.trimmed text = id

theorem mem_selection_iff {selected : List String} {id : PackId} :
    id ∈ selection selected ↔ Selected selected id := by
  unfold selection Selected
  simp [and_comm]

/--
The packs of `C` support the engine and get along with each other.
-/
structure Compatible (catalog : Catalog) (engine : Version) (C : PackId → Prop) : Prop where
  engine : ∀ p, C p → catalog.Supports p engine
  conflictFree : ∀ p q, C p → C q → ¬ catalog.ConflictsWith p q
  oneOwner : ∀ p q s, C p → C q → catalog.Owns p s → catalog.Owns q s → p = q
  ownerRequired : ∀ p q s, C p → C q → p ≠ q → catalog.Touches p s → catalog.Owns q s →
    q ∈ catalog.requires p
  acyclic : catalog.Acyclic C

/--
The packs of `C` in ascending order, and in the order in which they are installed.
-/
structure Planned (catalog : Catalog) (C : PackId → Prop) (packs order : List PackId) : Prop where
  ascending : Ascending packs
  mem : ∀ p, p ∈ packs ↔ C p
  perm : order.Perm packs
  greedy : Greedy catalog packs order.reverse

theorem order_eq_ok_iff {c : Closed} {order : List PackId} (hpacks : Ascending c.packs)
    (hknown : ∀ p ∈ c.packs, c.catalog.contains p = true)
    (hnodup : ∀ p ∈ c.packs, (surfacesOf c.catalog p).Nodup) :
    c.order = .ok order ↔
      Compatible c.catalog c.engine (· ∈ c.packs) ∧
        Planned c.catalog (· ∈ c.packs) c.packs order := by
  unfold Closed.order
  simp only [bind_eq_ok_iff, mapError_eq_ok_iff, checkEngine_eq_ok_iff, checkConflicts_eq_ok_iff,
    checkTouches_eq_ok_iff, Catalog.installOrder_eq_ok_iff hpacks hknown]
  constructor
  · rintro ⟨_, hengine, _, hconflicts, owners, howners, _, htouches, hperm, hgreedy⟩
    have howner : ∀ s p, owners.get? s = some p ↔ p ∈ c.packs ∧ c.catalog.Owns p s := by
      intro s p
      simpa using (ownersOf_spec howners).2.2 s p
    refine ⟨⟨hengine, ?_, ?_, ?_, ?_⟩, hpacks, fun p => Iff.rfl, hperm, hgreedy⟩
    · intro p q hp hq
      exact hconflicts p hp q hq
    · intro p q s hp hq hps hqs
      have h := (howner s p).2 ⟨hp, hps⟩
      rw [(howner s q).2 ⟨hq, hqs⟩] at h
      exact (Option.some.inj h).symm
    · intro p q s hp hq hne hps hqs
      have h := htouches p hp s hps q ((howner s q).2 ⟨hq, hqs⟩)
      exact h.resolve_left (Ne.symm hne)
    · exact (hgreedy.isInstallOrder hperm).acyclic hpacks.nodup
  · rintro ⟨hcompat, hplan⟩
    -- The owners are entered one pack after the other, so what they do not share is told in pairs.
    have hpair : c.packs.Pairwise fun p q => ∀ s, c.catalog.Owns p s → ¬ c.catalog.Owns q s := by
      apply List.Pairwise.imp_of_mem _ hpacks
      intro p q hp hq hlt s hps hqs
      have := hcompat.oneOwner p q s hp hq hps hqs
      subst this
      exact String.lt_irrefl p hlt
    have hfree : ∀ p ∈ c.packs, ∀ s, c.catalog.Owns p s → (.empty : KeyMap PackId).get? s = none :=
      fun _ _ s _ => KeyMap.get?_empty s
    rcases exists_ownersOf hnodup hfree hpair with ⟨owners, howners⟩
    refine ⟨(), hcompat.engine, (), ?_, owners, howners, (), ?_, hplan.perm, hplan.greedy⟩
    · intro p hp q hq
      exact hcompat.conflictFree p q hp hq
    · intro p hp s hps q hq
      have hq : q ∈ c.packs ∧ c.catalog.Owns q s := by
        simpa using ((ownersOf_spec howners).2.2 s q).1 hq
      by_cases heq : q = p
      · exact .inl heq
      · exact .inr (hcompat.ownerRequired p q s hp hq.1 (Ne.symm heq) hps hq.2)

theorem checkSelection_eq_ok_iff {catalog : Catalog} {ids : List PackId} {u : Unit} :
    checkSelection catalog ids = .ok u ↔
      ids ≠ [] ∧ ∀ id ∈ ids, catalog.contains id = true := by
  have hnone : ids.find? (!catalog.contains ·) = none ↔
      ∀ id ∈ ids, catalog.contains id = true := by
    rw [List.find?_eq_none]
    simp
  rw [← hnone]
  unfold checkSelection
  split
  · next h =>
    rw [List.isEmpty_iff] at h
    simp [h]
  · next h =>
    rw [List.isEmpty_iff] at h
    split
    · next hfind => simp [hfind]
    · next hfind => simp [h, hfind]

theorem close_eq_ok_iff {records : KeyMap Record} {selected : List String} {engineText : String}
    {c : Closed} :
    close records selected engineText = .ok c ↔
      Normalizes records c.catalog ∧ c.selection = selection selected ∧ c.selection ≠ [] ∧
        (∀ id ∈ c.selection, c.catalog.contains id = true) ∧
        Version.parse engineText = .ok c.engine ∧ c.catalog.closure c.selection = .ok c.packs := by
  unfold close
  simp only [bind_eq_ok_iff, mapError_eq_ok_iff, pure_eq_ok_iff, normalizeAll_eq_ok_iff,
    checkSelection_eq_ok_iff]
  constructor
  · rintro ⟨catalog, hcatalog, _, hsel, engine, hengine, packs, hpacks, rfl⟩
    exact ⟨hcatalog, rfl, hsel.1, hsel.2, hengine, hpacks⟩
  · rintro ⟨hcatalog, hsel, hne, hknown, hengine, hpacks⟩
    rcases c with ⟨catalog, ids, engine, packs⟩
    dsimp only at hsel
    subst hsel
    exact ⟨catalog, hcatalog, (), ⟨hne, hknown⟩, engine, hengine, packs, hpacks, rfl⟩

/--
Records with the same catalog, and texts that select the same packs and denote the same engine
version, are resolved into the same lock.
-/
theorem resolve_congr {records records' : KeyMap Record} {selected selected' : List String}
    {engineText engineText' : String} {lock : Lock}
    (hrecords : ∀ catalog, Normalizes records catalog → Normalizes records' catalog)
    (hselected : selection selected' = selection selected)
    (hengine : ∀ v, Version.parse engineText = .ok v → Version.parse engineText' = .ok v)
    (h : resolve records selected engineText = .ok lock) :
    resolve records' selected' engineText' = .ok lock := by
  unfold resolve at h ⊢
  rw [bind_eq_ok_iff] at h ⊢
  rcases h with ⟨c, hclose, h⟩
  refine ⟨c, ?_, h⟩
  rw [close_eq_ok_iff] at hclose ⊢
  rcases hclose with ⟨hcatalog, hids, hne, hknown, hparse, hclosure⟩
  rw [← hselected] at hids
  exact ⟨hrecords c.catalog hcatalog, hids, hne, hknown, hengine c.engine hparse, hclosure⟩

theorem resolve_of_ofRecord_eq {records records' : KeyMap Record} {selected : List String}
    {engineText : String} {lock : Lock}
    (heq : ∀ key, (records'.get? key).map Manifest.ofRecord
      = (records.get? key).map Manifest.ofRecord)
    (h : resolve records selected engineText = .ok lock) :
    resolve records' selected engineText = .ok lock := by
  apply resolve_congr _ rfl (fun _ hparse => hparse) h
  intro catalog hcatalog
  apply hcatalog.of_rel
  intro key
  have hkey := heq key
  cases hr : records.get? key with
  | none =>
    rw [hr, Option.map_none, Option.map_eq_none_iff] at hkey
    rw [hkey]
    exact .none
  | some r =>
    rw [hr, Option.map_some, Option.map_eq_some_iff] at hkey
    rcases hkey with ⟨r', hr', hsame⟩
    rw [hr']
    apply Option.Rel.some
    intro m hm
    rw [hsame, hm]

/--
The records are all in order, and the packs that the selection leads to can be locked for the
engine.
-/
structure Resolvable (records : KeyMap Record) (selected : List String) (engineText : String)
    (catalog : Catalog) (engine : Version) : Prop where
  normalizes : Normalizes records catalog
  nonempty : ∃ id, Selected selected id
  known : ∀ id, Selected selected id → id ∈ records.keys
  parses : Version.parse engineText = .ok engine
  complete : ∀ p, catalog.ReachesFrom (Selected selected) p →
    ∀ q ∈ catalog.requires p, q ∈ records.keys
  compatible : Compatible catalog engine (catalog.ReachesFrom (Selected selected))

theorem selection_ne_nil_iff {selected : List String} :
    selection selected ≠ [] ↔ ∃ id, Selected selected id := by
  constructor
  · intro h
    rcases List.exists_mem_of_ne_nil _ h with ⟨id, hid⟩
    exact ⟨id, mem_selection_iff.1 hid⟩
  · rintro ⟨id, hid⟩
    exact List.ne_nil_of_mem (mem_selection_iff.2 hid)

theorem mem_selection_eq {selected : List String} :
    (· ∈ selection selected) = Selected selected := by
  funext id
  rw [mem_selection_iff]

theorem Normalizes.contains_iff_mem_keys {records : KeyMap Record} {catalog : Catalog}
    (h : Normalizes records catalog) {id : PackId} :
    catalog.contains id = true ↔ id ∈ records.keys := by
  rw [h.contains_iff, KeyMap.mem_keys_iff]
  rfl

theorem Normalizes.surfacesOf_nodup {records : KeyMap Record} {catalog : Catalog}
    (h : Normalizes records catalog) (p : PackId) : (surfacesOf catalog p).Nodup := by
  unfold surfacesOf
  cases hm : catalog.get? p with
  | none => exact .nil
  | some m => exact (h.ordered hm).ownsSurfaces.nodup

theorem Resolvable.contains {records : KeyMap Record} {selected : List String} {engineText : String}
    {catalog : Catalog} {engine : Version}
    (h : Resolvable records selected engineText catalog engine) {p : PackId}
    (hp : catalog.ReachesFrom (Selected selected) p) : catalog.contains p = true := by
  rw [h.normalizes.contains_iff_mem_keys]
  rcases hp.cases_tail with hstart | ⟨q, hq, hpq⟩
  · exact h.known p hstart
  · exact h.complete q hq p hpq

theorem exists_order_iff {records : KeyMap Record} {selected : List String} {c : Closed}
    {order : List PackId} (hcatalog : Normalizes records c.catalog)
    (hsel : c.selection = selection selected) :
    c.catalog.closure c.selection = .ok c.packs ∧ c.order = .ok order ↔
      (∀ p, c.catalog.ReachesFrom (Selected selected) p → c.catalog.contains p = true) ∧
        Compatible c.catalog c.engine (c.catalog.ReachesFrom (Selected selected)) ∧
        Planned c.catalog (c.catalog.ReachesFrom (Selected selected)) c.packs order := by
  rw [Catalog.closure_eq_ok_iff, hsel, mem_selection_eq]
  have horder : (∀ p ∈ c.packs, c.catalog.contains p = true) → Ascending c.packs →
      (c.order = .ok order ↔ _) := fun hknown hasc =>
    order_eq_ok_iff hasc hknown fun p _ => hcatalog.surfacesOf_nodup p
  constructor
  · rintro ⟨⟨hcontains, hasc, hmem⟩, h⟩
    rw [horder (fun p hp => hcontains p ((hmem p).1 hp)) hasc] at h
    rw [funext fun p => propext (hmem p)] at h
    exact ⟨hcontains, h⟩
  · rintro ⟨hcontains, hcompat, hplan⟩
    refine ⟨⟨hcontains, hplan.ascending, hplan.mem⟩, ?_⟩
    rw [horder (fun p hp => hcontains p ((hplan.mem p).1 hp)) hplan.ascending]
    rw [funext fun p => propext (hplan.mem p)]
    exact ⟨hcompat, hplan⟩

/--
A selection is resolved iff it can be locked, and into one lock only.
-/
theorem resolve_eq_ok_iff {records : KeyMap Record} {selected : List String} {engineText : String}
    {lock : Lock} :
    resolve records selected engineText = .ok lock ↔
      ∃ catalog engine packs order, Resolvable records selected engineText catalog engine ∧
        Planned catalog (catalog.ReachesFrom (Selected selected)) packs order ∧
        lock = Lock.assemble engine (selection selected) (manifestsOf catalog order) := by
  unfold resolve
  simp only [bind_eq_ok_iff, pure_eq_ok_iff, close_eq_ok_iff]
  constructor
  · rintro ⟨c, ⟨hcatalog, hsel, hne, hknown, hengine, hclosure⟩, order, horder, rfl⟩
    rcases (exists_order_iff hcatalog hsel).1 ⟨hclosure, horder⟩ with ⟨hcontains, hcompat, hplan⟩
    rw [hsel] at hne hknown
    refine ⟨c.catalog, c.engine, c.packs, order, ?_, hplan, by rw [hsel]⟩
    refine ⟨hcatalog, selection_ne_nil_iff.1 hne, ?_, hengine, ?_, hcompat⟩
    · intro id hid
      rw [← hcatalog.contains_iff_mem_keys]
      exact hknown id (mem_selection_iff.2 hid)
    · intro p hp q hq
      rw [← hcatalog.contains_iff_mem_keys]
      exact hcontains q (hp.tail hq)
  · rintro ⟨catalog, engine, packs, order, hres, hplan, rfl⟩
    have horder := (exists_order_iff (c := ⟨catalog, selection selected, engine, packs⟩)
      hres.normalizes rfl).2 ⟨fun p hp => hres.contains hp, hres.compatible, hplan⟩
    refine ⟨⟨catalog, selection selected, engine, packs⟩, ?_, order, horder.2, rfl⟩
    refine ⟨hres.normalizes, rfl, selection_ne_nil_iff.2 hres.nonempty, ?_, hres.parses, horder.1⟩
    intro id hid
    exact hres.contains (.of_start (mem_selection_iff.1 hid))

end GovernanceLock.Resolution
