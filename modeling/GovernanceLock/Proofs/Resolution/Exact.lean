import GovernanceLock.Proofs.Resolution.Accepted

/-!
This module contains the statement that resolution accepts exactly the selections that can be
locked, and that the lock says exactly what was resolved.
-/

namespace GovernanceLock.Resolution

open Except (bind_eq_ok_iff)
open Json (Record)

/--
What a lock says about a pack: what its manifest declares besides the artifacts, and the SHA-256
value of the canonical text of the manifest.
-/
structure Records (pack : LockedPack) (m : Manifest) : Prop where
  id : pack.id = m.id
  version : pack.version = m.version
  digest : pack.digest = Sha256.hex m.canonicalText.toUTF8.toList
  compat : pack.compat = m.compat
  requires : pack.requires = m.requires
  conflictsWith : pack.conflictsWith = m.conflictsWith
  ownsSurfaces : pack.ownsSurfaces = m.ownsSurfaces
  touchesSurfaces : pack.touchesSurfaces = m.touchesSurfaces

/--
What a lock says about a selection: for which engine it is, what was selected, in which order the
packs that the selection leads to are installed, and what the manifest of each of them declares. Its
hash is the SHA-256 value of the canonical text of all that.
-/
structure Describes (catalog : Catalog) (selected : List String) (engine : Version) (lock : Lock) :
    Prop where
  schema : lock.schema = Lock.schemaName
  engineVersion : lock.engineVersion = engine
  selectedAscending : Ascending lock.selected
  mem_selected : ∀ id, id ∈ lock.selected ↔ Selected selected id
  nodup : lock.resolvedOrder.Nodup
  mem_resolvedOrder : ∀ id,
    id ∈ lock.resolvedOrder ↔ catalog.ReachesFrom (Selected selected) id
  requiresFirst : ∀ before p after, lock.resolvedOrder = before ++ p :: after →
    ∀ q ∈ catalog.requires p, q ∈ before
  packs : List.Forall₂ (fun id pack => ∃ m, catalog.get? id = some m ∧ Records pack m)
    lock.resolvedOrder lock.packs
  lockHash : lock.lockHash = Sha256.hex
    (Json.canonical
      (.object
        [("engine_version", lock.engineVersion.toJson),
         ("packs", .array (lock.packs.map fun pack =>
           .object
             [("compat", pack.compat.toJson),
              ("conflicts_with", .strings pack.conflictsWith),
              ("id", .string pack.id),
              ("owns_surfaces", .strings pack.ownsSurfaces),
              ("requires", .strings pack.requires),
              ("sha256", .string pack.digest),
              ("touches_surfaces", .strings pack.touchesSurfaces),
              ("version", pack.version.toJson)])),
         ("resolved_order", .strings lock.resolvedOrder),
         ("schema", .string lock.schema),
         ("selected", .strings lock.selected)])).toUTF8.toList

theorem records_ofManifest (m : Manifest) : Records (.ofManifest m) m where
  id := rfl
  version := rfl
  digest := rfl
  compat := rfl
  requires := rfl
  conflictsWith := rfl
  ownsSurfaces := rfl
  touchesSurfaces := rfl

theorem manifestsOf_cons {catalog : Catalog} {id : PackId} {ids : List PackId} {m : Manifest}
    (hm : catalog.get? id = some m) :
    manifestsOf catalog (id :: ids) = m :: manifestsOf catalog ids := by
  unfold manifestsOf
  rw [List.filterMap_cons, hm]

theorem manifestsOf_map_id {catalog : Catalog} {ids : List PackId}
    (h : ∀ id ∈ ids, ∃ m, catalog.get? id = some m ∧ m.id = id) :
    (manifestsOf catalog ids).map (·.id) = ids := by
  induction ids with
  | nil => rfl
  | cons id ids ih =>
    rw [List.forall_mem_cons] at h
    rcases h with ⟨⟨m, hm, hid⟩, h⟩
    rw [manifestsOf_cons hm, List.map_cons, hid, ih h]

theorem forall₂_manifestsOf {catalog : Catalog} {ids : List PackId}
    (h : ∀ id ∈ ids, ∃ m, catalog.get? id = some m ∧ m.id = id) :
    List.Forall₂ (fun id pack => ∃ m, catalog.get? id = some m ∧ Records pack m) ids
      ((manifestsOf catalog ids).map LockedPack.ofManifest) := by
  induction ids with
  | nil => exact .nil
  | cons id ids ih =>
    rw [List.forall_mem_cons] at h
    rcases h with ⟨⟨m, hm, _⟩, h⟩
    rw [manifestsOf_cons hm, List.map_cons]
    exact .cons ⟨m, hm, records_ofManifest m⟩ (ih h)

section

variable {records : KeyMap Record} {selected : List String} {engineText : String}
variable {catalog : Catalog} {engine : Version}

theorem Resolvable.exists_manifest (h : Resolvable records selected engineText catalog engine)
    {p : PackId} (hp : catalog.ReachesFrom (Selected selected) p) :
    ∃ m, catalog.get? p = some m ∧ m.id = p := by
  rcases KeyMap.contains_iff.1 (h.contains hp) with ⟨m, hm⟩
  rcases h.normalizes.exists_record hm with ⟨_, _, _, hid⟩
  exact ⟨m, hm, hid⟩

theorem Resolvable.exists_plan (h : Resolvable records selected engineText catalog engine) :
    ∃ packs order, Planned catalog (catalog.ReachesFrom (Selected selected)) packs order := by
  have hcontains : ∀ p, catalog.ReachesFrom (· ∈ selection selected) p →
      catalog.contains p = true := by
    rw [mem_selection_eq]
    exact fun p hp => h.contains hp
  rcases Catalog.exists_closure hcontains with ⟨packs, hpacks⟩
  rw [Catalog.closure_eq_ok_iff, mem_selection_eq] at hpacks
  rcases hpacks with ⟨hknown, hasc, hmem⟩
  have hknown : ∀ p ∈ packs, catalog.contains p = true := fun p hp => hknown p ((hmem p).1 hp)
  have hacyclic : catalog.Acyclic (· ∈ packs) := by
    rw [funext fun p => propext (hmem p)]
    exact h.compatible.acyclic
  rcases Catalog.exists_installOrder hasc hknown hacyclic with ⟨order, horder⟩
  rcases (Catalog.installOrder_eq_ok_iff hasc hknown).1 horder with ⟨hperm, hgreedy⟩
  exact ⟨packs, order, hasc, hmem, hperm, hgreedy⟩

theorem Planned.mem_order {C : PackId → Prop} {packs order : List PackId}
    (h : Planned catalog C packs order) (p : PackId) : p ∈ order ↔ C p := by
  rw [h.perm.mem_iff, h.mem]

theorem Resolvable.describes {packs order : List PackId}
    (h : Resolvable records selected engineText catalog engine)
    (hplan : Planned catalog (catalog.ReachesFrom (Selected selected)) packs order) :
    Describes catalog selected engine
      (.assemble engine (selection selected) (manifestsOf catalog order)) := by
  have hmanifest : ∀ p ∈ order, ∃ m, catalog.get? p = some m ∧ m.id = p := fun p hp =>
    h.exists_manifest ((hplan.mem_order p).1 hp)
  have horder : (Lock.assemble engine (selection selected)
      (manifestsOf catalog order)).resolvedOrder = order := manifestsOf_map_id hmanifest
  constructor
  · rfl
  · rfl
  · exact Ascending.ofList_ascending _
  · intro id
    exact Ascending.mem_ofList.trans mem_selection_iff
  · rw [horder]
    exact hplan.perm.nodup_iff.2 hplan.ascending.nodup
  · intro id
    rw [horder]
    exact hplan.mem_order id
  · rw [horder]
    intro before p after heq q hq
    have hp : p ∈ order := by
      rw [heq]
      simp
    apply (hplan.greedy.isInstallOrder hplan.perm).requiresFirst before p after heq q hq
    rw [hplan.mem]
    exact ((hplan.mem_order p).1 hp).tail hq
  · rw [horder]
    exact forall₂_manifestsOf hmanifest
  · rfl

end

/--
A selection is resolved iff its packs can be locked, and then the lock says exactly what they are.
-/
theorem resolve_accepts_exactly (records : KeyMap Record) (selected : List String)
    (engineText : String) :
    ((∃ lock, resolve records selected engineText = .ok lock) ↔
      ∃ catalog engine, Resolvable records selected engineText catalog engine) ∧
      ∀ lock, resolve records selected engineText = .ok lock →
        ∃ catalog engine, Resolvable records selected engineText catalog engine ∧
          Describes catalog selected engine lock := by
  refine ⟨⟨?_, ?_⟩, ?_⟩
  · rintro ⟨lock, h⟩
    rcases resolve_eq_ok_iff.1 h with ⟨catalog, engine, _, _, hres, _, _⟩
    exact ⟨catalog, engine, hres⟩
  · rintro ⟨catalog, engine, hres⟩
    rcases hres.exists_plan with ⟨packs, order, hplan⟩
    exact ⟨_, resolve_eq_ok_iff.2 ⟨catalog, engine, packs, order, hres, hplan, rfl⟩⟩
  · intro lock h
    rcases resolve_eq_ok_iff.1 h with ⟨catalog, engine, packs, order, hres, hplan, rfl⟩
    exact ⟨catalog, engine, hres, hres.describes hplan⟩

section

/-!
Records of three packs, two of which are locked.
-/

def packRecord (id : String) (requires : List String) : Record :=
  [("compat", .object [("engine_max", .string "3.0.0"), ("engine_min", .string "1.0.0")]),
   ("id", .string id),
   ("requires", .strings requires),
   ("version", .string "1.2.3")]

def packManifest (id : PackId) (requires : List PackId) : Manifest :=
  { (default : Manifest) with
    id
    version := ⟨1, 2, 3⟩
    compat := ⟨⟨1, 0, 0⟩, ⟨3, 0, 0⟩⟩
    requires }

def lockedRecords : KeyMap Record :=
  .ofList
    [("app", packRecord "app" ["base"]),
     ("base", packRecord "base" []),
     ("other", packRecord "other" ["app"])]

def appLock : Lock :=
  .assemble ⟨2, 0, 0⟩ ["app"] [packManifest "base" [], packManifest "app" ["base"]]

def appClosure : Closed where
  catalog := .ofList
    [("app", packManifest "app" ["base"]),
     ("base", packManifest "base" []),
     ("other", packManifest "other" ["app"])]
  selection := ["app"]
  engine := ⟨2, 0, 0⟩
  packs := ["app", "base"]

theorem appClosure_closure :
    appClosure.catalog.closure appClosure.selection = .ok appClosure.packs := by
  have hsearch : Closure.search appClosure.catalog ["app"] ["app"] = .ok ["app", "base"] :=
    calc
      Closure.search appClosure.catalog ["app"] ["app"]
        = Closure.search appClosure.catalog ["app", "base"] ["base"] :=
          Closure.search_scan (m := packManifest "app" ["base"]) rfl (by decide)
      _ = Closure.search appClosure.catalog ["app", "base"] [] :=
          Closure.search_scan (m := packManifest "base" []) rfl (by decide)
      _ = .ok ["app", "base"] := Closure.search_nil
  unfold Catalog.closure
  rw [Except.map_eq_ok_iff]
  exact ⟨["app", "base"], hsearch, by decide⟩

theorem lockedRecords_close :
    close lockedRecords ["app", " ", " app "] "02.0.0" = .ok appClosure := by
  rw [close_eq_ok_iff]
  exact ⟨normalizeAll_eq_ok_iff.1 rfl, by decide, by decide, by decide, rfl,
    appClosure_closure⟩

theorem lockedRecords_resolve :
    resolve lockedRecords ["app", " ", " app "] "02.0.0" = .ok appLock := by
  have horder : appClosure.order = .ok ["base", "app"] := by decide
  unfold resolve
  rw [lockedRecords_close, bind_eq_ok_iff]
  refine ⟨appClosure, rfl, ?_⟩
  rw [bind_eq_ok_iff]
  exact ⟨["base", "app"], horder, rfl⟩

theorem packManifest_base_digest : (packManifest "base" []).digest =
    "f427be3dd15b1d9b6c4c140307d3c6c08d8bd6dbd3748885ab4f89909bc8728e" := by
  decide +kernel

theorem packManifest_app_digest : (packManifest "app" ["base"]).digest =
    "933a8072d7625dee586d2bdc32c6df688c87932468bc04c6a3ddda77562fb3a6" := by
  decide +kernel

theorem appLock_digests : appLock.packs.map (·.digest) =
    ["f427be3dd15b1d9b6c4c140307d3c6c08d8bd6dbd3748885ab4f89909bc8728e",
     "933a8072d7625dee586d2bdc32c6df688c87932468bc04c6a3ddda77562fb3a6"] := by
  have hpacks : appLock.packs.map (·.digest)
      = [(packManifest "base" []).digest, (packManifest "app" ["base"]).digest] := rfl
  rw [hpacks, packManifest_base_digest, packManifest_app_digest]

theorem lockedRecords_accepted :
    resolve lockedRecords ["app", " ", " app "] "02.0.0" = .ok appLock ∧
      appLock.selected = ["app"] ∧ appLock.resolvedOrder = ["base", "app"] ∧
      appLock.packs.map (·.digest) =
        ["f427be3dd15b1d9b6c4c140307d3c6c08d8bd6dbd3748885ab4f89909bc8728e",
         "933a8072d7625dee586d2bdc32c6df688c87932468bc04c6a3ddda77562fb3a6"] ∧
      (∃ catalog engine, Resolvable lockedRecords ["app", " ", " app "] "02.0.0" catalog engine ∧
        Describes catalog ["app", " ", " app "] engine appLock) ∧
      ¬ ∃ catalog engine, Resolvable lockedRecords ["app"] "two" catalog engine := by
  refine ⟨lockedRecords_resolve, rfl, rfl, appLock_digests,
    (resolve_accepts_exactly _ _ _).2 appLock lockedRecords_resolve, ?_⟩
  rw [← (resolve_accepts_exactly lockedRecords ["app"] "two").1]
  rintro ⟨lock, h⟩
  cases h

end

end GovernanceLock.Resolution
