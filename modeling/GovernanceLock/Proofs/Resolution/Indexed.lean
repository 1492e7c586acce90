import GovernanceLock.Proofs.InstallOrder.Cycle
import GovernanceLock.Proofs.Resolution.Exact

/-!
This module contains the proof that a resolution looks up no pack that the catalog does not have:
one that stops at such a pack gives the same result.

The closure starts from a selection that is known, and everything after it runs through the packs of
the closure, all of which are known.
-/

namespace GovernanceLock.Resolution

open Except (map_eq_error_iff mapError_bind mapError_congr mapError_eq_ok_iff mapError_mapError)
open Except (mapError_ok)
open Json (Record)

namespace Indexed

/--
Why a resolution stops: it refuses the selection, or it looks up a pack that is not there.
-/
inductive Stop where
  | refused (cause : Error)
  | absent (id : PackId)
  deriving DecidableEq

def entry (catalog : Catalog) (id : PackId) : Except Stop Manifest :=
  match catalog.get? id with
  | some m => .ok m
  | none => .error (.absent id)

def visit (catalog : Catalog) (step : PackId → Manifest → σ → Except Error σ) (s : σ) :
    List PackId → Except Stop σ
  | [] => .ok s
  | id :: rest => do
    let m ← entry catalog id
    let s ← (step id m s).mapError .refused
    visit catalog step s rest

def engineStep (engine : Version) (id : PackId) (m : Manifest) (_ : Unit) : Except Error Unit :=
  if m.compat.contains engine then .ok () else .error (.incompatibleEngine id engine m.compat)

def conflictStep (packs : List PackId) (id : PackId) (m : Manifest) (_ : Unit) :
    Except Error Unit :=
  match m.conflictsWith.find? (· ∈ packs) with
  | some other => .error (.conflict id other)
  | none => .ok ()

def ownerStep (id : PackId) (m : Manifest) (owners : KeyMap PackId) :
    Except Error (KeyMap PackId) :=
  enterOwner owners id m.ownsSurfaces

def touchStep (owners : KeyMap PackId) (id : PackId) (m : Manifest) (_ : Unit) :
    Except Error Unit :=
  match m.touchesSurfaces.findSome? fun surface =>
    (unrequired? owners id m surface).map fun owner => Error.unrequiredOwner id surface owner with
  | some e => .error e
  | none => .ok ()

def ofClosureError : Closure.Error → Stop
  | .unknown id => .absent id
  | .missing id dependency => .refused (.missingDependency id dependency)

def ofOrderError : InstallOrder.Error → Stop
  | .unknown id => .absent id
  | .cycle ids => .refused (.cycle ids)

def close (records : KeyMap Record) (selected : List String) (engineText : String) :
    Except Stop Closed := do
  let catalog ← (normalizeAll .empty records.entries).mapError .refused
  let ids := selection selected
  (checkSelection catalog ids).mapError .refused
  let engine ← (Version.parse engineText).mapError fun e => .refused (.invalidEngineVersion e)
  let packs ← (catalog.closure ids).mapError ofClosureError
  return { catalog, selection := ids, engine, packs }

def order (c : Closed) : Except Stop (List PackId) := do
  visit c.catalog (engineStep c.engine) () c.packs
  visit c.catalog (conflictStep c.packs) () c.packs
  let owners ← visit c.catalog ownerStep .empty c.packs
  visit c.catalog (touchStep owners) () c.packs
  (c.catalog.installOrder c.packs).mapError ofOrderError

def resolve (records : KeyMap Record) (selected : List String) (engineText : String) :
    Except Stop Lock := do
  let c ← close records selected engineText
  let order ← order c
  let manifests ← order.mapM (entry c.catalog)
  return Lock.assemble c.engine c.selection manifests

section

variable {catalog : Catalog} {ids : List PackId}

def Known (catalog : Catalog) (ids : List PackId) : Prop :=
  ∀ p ∈ ids, catalog.contains p = true

theorem Known.cons_iff {id : PackId} :
    Known catalog (id :: ids) ↔ (∃ m, catalog.get? id = some m) ∧ Known catalog ids := by
  unfold Known
  rw [List.forall_mem_cons, KeyMap.contains_iff]

theorem entry_eq {id : PackId} {m : Manifest} (hm : catalog.get? id = some m) :
    entry catalog id = .ok m := by
  unfold entry
  rw [hm]

theorem visit_eq {step : PackId → Manifest → σ → Except Error σ}
    (check : σ → List PackId → Except Error σ) (hnil : ∀ s, check s [] = .ok s)
    (hcons : ∀ s id ids m, catalog.get? id = some m →
      check s (id :: ids) = step id m s >>= fun s => check s ids)
    (hknown : Known catalog ids) (s : σ) :
    visit catalog step s ids = (check s ids).mapError .refused := by
  induction ids generalizing s with
  | nil =>
    rw [visit, hnil, mapError_ok]
  | cons id ids ih =>
    rw [Known.cons_iff] at hknown
    rcases hknown with ⟨⟨m, hm⟩, hknown⟩
    rw [visit, entry_eq hm, hcons s id ids m hm, mapError_bind]
    change ((step id m s).mapError .refused >>= fun s => visit catalog step s ids) = _
    simp only [ih hknown]

theorem visit_engineStep (hknown : Known catalog ids) (engine : Version) :
    visit catalog (engineStep engine) () ids
      = (checkEngine catalog engine ids).mapError .refused := by
  apply visit_eq (fun _ => checkEngine catalog engine) _ _ hknown
  · intro _
    rfl
  · intro _ id ids m hm
    rw [checkEngine, hm]
    unfold engineStep
    dsimp only
    split
    · rfl
    · rfl

theorem visit_conflictStep (hknown : Known catalog ids) (packs : List PackId) :
    visit catalog (conflictStep packs) () ids
      = (checkConflicts catalog packs ids).mapError .refused := by
  apply visit_eq (fun _ => checkConflicts catalog packs) _ _ hknown
  · intro _
    rfl
  · intro _ id ids m hm
    rw [checkConflicts, hm, Option.bind_some]
    unfold conflictStep
    cases m.conflictsWith.find? (· ∈ packs) with
    | none => rfl
    | some other => rfl

theorem visit_ownerStep (hknown : Known catalog ids) (owners : KeyMap PackId) :
    visit catalog ownerStep owners ids = (ownersOf catalog owners ids).mapError .refused := by
  apply visit_eq (ownersOf catalog) _ _ hknown
  · intro _
    rfl
  · intro owners id ids m hm
    rw [ownersOf, hm]
    rfl

theorem visit_touchStep (hknown : Known catalog ids) (owners : KeyMap PackId) :
    visit catalog (touchStep owners) () ids
      = (checkTouches catalog owners ids).mapError .refused := by
  apply visit_eq (fun _ => checkTouches catalog owners) _ _ hknown
  · intro _
    rfl
  · intro _ id ids m hm
    rw [checkTouches, hm, Option.bind_some]
    unfold touchStep
    cases m.touchesSurfaces.findSome? _ with
    | none => rfl
    | some e => rfl

theorem mapM_entry (hknown : Known catalog ids) :
    ids.mapM (entry catalog) = .ok (manifestsOf catalog ids) := by
  induction ids with
  | nil => rfl
  | cons id ids ih =>
    rw [Known.cons_iff] at hknown
    rcases hknown with ⟨⟨m, hm⟩, hknown⟩
    rw [List.mapM_cons, entry_eq hm, ih hknown]
    unfold manifestsOf
    rw [List.filterMap_cons, hm]
    rfl

end

theorem closure_eq {catalog : Catalog} {ids : List PackId} (hknown : Known catalog ids) :
    (catalog.closure ids).mapError ofClosureError
      = ((catalog.closure ids).mapError Resolution.ofClosureError).mapError .refused := by
  rw [mapError_mapError]
  apply mapError_congr
  intro e he
  unfold Catalog.closure at he
  rw [map_eq_error_iff] at he
  rcases Closure.exists_missing_of_search_eq_error .init hknown he with ⟨p, _, q, _, _, _, rfl⟩
  rfl

theorem installOrder_eq {catalog : Catalog} {packs : List PackId} (hpacks : Ascending packs)
    (hknown : Known catalog packs) :
    (catalog.installOrder packs).mapError ofOrderError
      = ((catalog.installOrder packs).mapError Resolution.ofOrderError).mapError .refused := by
  rw [mapError_mapError]
  apply mapError_congr
  intro e he
  rcases Catalog.installOrder_eq_error hpacks hknown he with ⟨ids, rfl, _⟩
  rfl

theorem order_eq {c : Closed} (hpacks : Ascending c.packs) (hknown : Known c.catalog c.packs) :
    order c = c.order.mapError .refused := by
  unfold order Closed.order
  simp only [mapError_bind, visit_engineStep hknown, visit_conflictStep hknown,
    visit_ownerStep hknown, visit_touchStep hknown, installOrder_eq hpacks hknown]

section

variable {records : KeyMap Record} {selected : List String} {engineText : String} {c : Closed}

theorem close_eq :
    close records selected engineText
      = (Resolution.close records selected engineText).mapError .refused := by
  unfold close Resolution.close
  simp only [mapError_bind, mapError_mapError]
  apply Except.bind_congr
  intro catalog _
  apply Except.bind_congr
  intro _ hselection
  rw [mapError_eq_ok_iff, checkSelection_eq_ok_iff] at hselection
  rw [closure_eq hselection.2, mapError_mapError]
  rfl

theorem known_packs (h : Resolution.close records selected engineText = .ok c) :
    Ascending c.packs ∧ Known c.catalog c.packs := by
  rw [close_eq_ok_iff] at h
  rcases h with ⟨_, _, _, _, _, hclosure⟩
  rw [Catalog.closure_eq_ok_iff] at hclosure
  rcases hclosure with ⟨hcontains, hasc, hmem⟩
  refine ⟨hasc, ?_⟩
  intro p hp
  exact hcontains p ((hmem p).1 hp)

theorem known_order {ids : List PackId}
    (h : Resolution.close records selected engineText = .ok c) (horder : c.order = .ok ids) :
    Known c.catalog ids := by
  rw [close_eq_ok_iff] at h
  rcases h with ⟨hcatalog, hsel, _, _, _, hclosure⟩
  rcases (exists_order_iff hcatalog hsel).1 ⟨hclosure, horder⟩ with ⟨hcontains, _, hplan⟩
  intro p hp
  exact hcontains p ((hplan.mem_order p).1 hp)

end

theorem resolve_eq (records : KeyMap Record) (selected : List String) (engineText : String) :
    resolve records selected engineText
      = (Resolution.resolve records selected engineText).mapError .refused := by
  unfold resolve Resolution.resolve
  rw [close_eq, mapError_bind]
  apply Except.bind_congr
  intro c hclose
  rw [mapError_eq_ok_iff] at hclose
  rcases known_packs hclose with ⟨hpacks, hknown⟩
  rw [mapError_bind, order_eq hpacks hknown]
  apply Except.bind_congr
  intro ids horder
  rw [mapError_eq_ok_iff] at horder
  rw [mapM_entry (known_order hclose horder)]
  rfl

end Indexed

end GovernanceLock.Resolution
