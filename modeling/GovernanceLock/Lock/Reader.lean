import GovernanceLock.Json.Fields
import GovernanceLock.Lock.Basic

/-!
This module contains the reading of locks from JSON texts. Versions are read as versions, hence
without blanks and leading zeros; every other text is taken as it stands.
-/

namespace GovernanceLock

open Json (Tree)

def Version.ofTree? (t : Tree) : Option Version :=
  t.text?.bind fun text => (Version.parse text).toOption

def CompatRange.ofTree? (t : Tree) : Option CompatRange :=
  match t.fields? ["engine_min", "engine_max"] with
  | some [engineMin, engineMax] => do
    return ⟨← Version.ofTree? engineMin, ← Version.ofTree? engineMax⟩
  | _ => none

namespace LockedPack

def fieldNames : List String :=
  ["id", "version", "sha256", "compat", "requires", "conflicts_with", "owns_surfaces",
   "touches_surfaces"]

def ofTree? (t : Tree) : Option LockedPack :=
  match t.fields? fieldNames with
  | some [id, version, digest, compat, requires, conflictsWith, ownsSurfaces, touchesSurfaces] => do
    return {
      id := ← id.text?
      version := ← Version.ofTree? version
      digest := ← digest.text?
      compat := ← CompatRange.ofTree? compat
      requires := ← requires.texts?
      conflictsWith := ← conflictsWith.texts?
      ownsSurfaces := ← ownsSurfaces.texts?
      touchesSurfaces := ← touchesSurfaces.texts? }
  | _ => none

end LockedPack

namespace Lock

def fieldNames : List String :=
  ["schema", "engine_version", "selected", "resolved_order", "packs", "lock_hash"]

def packsOf? : Tree → Option (List LockedPack)
  | .array items => items.mapM LockedPack.ofTree?
  | _ => none

def ofTree? (t : Tree) : Option Lock :=
  match t.fields? fieldNames with
  | some [schema, engineVersion, selected, resolvedOrder, packs, lockHash] => do
    return {
      schema := ← schema.text?
      engineVersion := ← Version.ofTree? engineVersion
      selected := ← selected.texts?
      resolvedOrder := ← resolvedOrder.texts?
      packs := ← packsOf? packs
      lockHash := ← lockHash.text? }
  | _ => none

def parse? (text : String) : Option Lock :=
  (Tree.parse? text.toList).bind ofTree?

def ofJson? (v : Json) : Option Lock :=
  (Tree.ofJson? v).bind ofTree?

end Lock

end GovernanceLock
