import GovernanceLock.Lock.Seal
import GovernanceLock.Manifest.Normalize
import GovernanceLock.Requirement.Order

/-!
This module contains the resolution of a selection of packs into a lock. The checks run in a fixed
order and the first that fails is reported, about the least packs it fails for: every manifest
normalizes under its own id, something is selected, everything selected is known, the engine version
is a version, the requirements are all there, the engine is supported, no pack is in conflict with
another, every surface has one owner, every pack that touches a surface requires its owner, and the
requirements have no cycle.
-/

namespace GovernanceLock

open Json (Record)

namespace Resolution

inductive Error where
  | manifest (cause : Manifest.Error)
  | idMismatch (key id : PackId)
  | invalidEngineVersion (cause : Version.Error)
  | emptySelection
  | unknownSelection (id : PackId)
  | missingDependency (id dependency : PackId)
  | incompatibleEngine (id : PackId) (engine : Version) (range : CompatRange)
  | conflict (id other : PackId)
  | surfaceConflict (surface : SurfaceTag) (first second : PackId)
  | unrequiredOwner (id : PackId) (surface : SurfaceTag) (owner : PackId)
  | cycle (ids : List PackId)
  deriving DecidableEq

def Error.message : Error → String
  | .manifest cause => "manifest error: " ++ cause.message
  | .idMismatch key id => "manifest registered as '" ++ key ++ "' declares id '" ++ id ++ "'"
  | .invalidEngineVersion cause => "invalid engine version: " ++ cause.message
  | .emptySelection => "no packs selected"
  | .unknownSelection id => "selected pack '" ++ id ++ "' has no activated manifest"
  | .missingDependency id dependency =>
    "missing required dependency '" ++ dependency ++ "' for pack '" ++ id ++ "'"
  | .incompatibleEngine id engine range =>
    "engine version " ++ engine.toString ++ " incompatible with pack '" ++ id ++ "' (supports "
      ++ range.engineMin.toString ++ " through " ++ range.engineMax.toString ++ ")"
  | .conflict id other =>
    "pack conflict detected: '" ++ id ++ "' conflicts with '" ++ other ++ "'"
  | .surfaceConflict surface first second =>
    "surface conflict detected: '" ++ first ++ "' and '" ++ second ++ "' both own '" ++ surface
      ++ "'"
  | .unrequiredOwner id surface owner =>
    "pack '" ++ id ++ "' touches surface '" ++ surface ++ "' but does not require owner '"
      ++ owner ++ "'"
  | .cycle ids =>
    "dependency cycle detected among required packs: " ++ Text.joinTexts ", " ids

def ofClosureError : Closure.Error → Error
  | .unknown id => .unknownSelection id
  | .missing id dependency => .missingDependency id dependency

def ofOrderError : InstallOrder.Error → Error
  | .unknown id => .unknownSelection id
  | .cycle ids => .cycle ids

def normalize (key : PackId) (r : Record) : Except Error Manifest := do
  let m ← (Manifest.ofRecord r).mapError .manifest
  if m.id = key then return m else .error (.idMismatch key m.id)

def normalizeAll (catalog : Catalog) : List (PackId × Record) → Except Error Catalog
  | [] => .ok catalog
  | (key, r) :: rest => do
    let m ← normalize key r
    normalizeAll (catalog.insert key m) rest

def selection (selected : List String) : List PackId :=
  Ascending.ofList ((selected.map Text.trimmed).filter (· ≠ ""))

def checkEngine (catalog : Catalog) (engine : Version) : List PackId → Except Error Unit
  | [] => .ok ()
  | id :: rest =>
    match catalog.get? id with
    | some m =>
      if m.compat.contains engine then checkEngine catalog engine rest
      else .error (.incompatibleEngine id engine m.compat)
    | none => checkEngine catalog engine rest

def checkConflicts (catalog : Catalog) (packs : List PackId) : List PackId → Except Error Unit
  | [] => .ok ()
  | id :: rest =>
    match (catalog.get? id).bind fun m => m.conflictsWith.find? (· ∈ packs) with
    | some other => .error (.conflict id other)
    | none => checkConflicts catalog packs rest

def enterOwner (owners : KeyMap PackId) (id : PackId) :
    List SurfaceTag → Except Error (KeyMap PackId)
  | [] => .ok owners
  | surface :: rest =>
    match owners.get? surface with
    | some first => .error (.surfaceConflict surface first id)
    | none => enterOwner (owners.insert surface id) id rest

def ownersOf (catalog : Catalog) (owners : KeyMap PackId) :
    List PackId → Except Error (KeyMap PackId)
  | [] => .ok owners
  | id :: rest => do
    let owners ← enterOwner owners id (((catalog.get? id).map (·.ownsSurfaces)).getD [])
    ownersOf catalog owners rest

def unrequired? (owners : KeyMap PackId) (id : PackId) (m : Manifest) (surface : SurfaceTag) :
    Option PackId :=
  (owners.get? surface).filter fun owner => owner ≠ id && owner ∉ m.requires

def checkTouches (catalog : Catalog) (owners : KeyMap PackId) : List PackId → Except Error Unit
  | [] => .ok ()
  | id :: rest =>
    let found := (catalog.get? id).bind fun m =>
      m.touchesSurfaces.findSome? fun surface =>
        (unrequired? owners id m surface).map fun owner => Error.unrequiredOwner id surface owner
    match found with
    | some e => .error e
    | none => checkTouches catalog owners rest

def manifestsOf (catalog : Catalog) (ids : List PackId) : List Manifest :=
  ids.filterMap catalog.get?

def checkSelection (catalog : Catalog) (ids : List PackId) : Except Error Unit :=
  if ids.isEmpty then .error .emptySelection
  else
    match ids.find? (!catalog.contains ·) with
    | some id => .error (.unknownSelection id)
    | none => .ok ()

/--
A selection together with everything that it requires.
-/
structure Closed where
  catalog : Catalog
  selection : List PackId
  engine : Version
  packs : List PackId

def close (records : KeyMap Record) (selected : List String) (engineText : String) :
    Except Error Closed := do
  let catalog ← normalizeAll .empty records.entries
  let ids := selection selected
  checkSelection catalog ids
  let engine ← (Version.parse engineText).mapError .invalidEngineVersion
  let packs ← (catalog.closure ids).mapError ofClosureError
  return { catalog, selection := ids, engine, packs }

def Closed.order (c : Closed) : Except Error (List PackId) := do
  checkEngine c.catalog c.engine c.packs
  checkConflicts c.catalog c.packs c.packs
  let owners ← ownersOf c.catalog .empty c.packs
  checkTouches c.catalog owners c.packs
  (c.catalog.installOrder c.packs).mapError ofOrderError

/--
The lock of a selection of registered records for an engine version.
-/
def resolve (records : KeyMap Record) (selected : List String) (engineText : String) :
    Except Error Lock := do
  let c ← close records selected engineText
  let order ← c.order
  return Lock.assemble c.engine c.selection (manifestsOf c.catalog order)

end Resolution

end GovernanceLock
