import GovernanceLock.Manifest.Basic

/-!
This module contains lock files: what they record and the JSON text they consist of.
-/

namespace GovernanceLock

structure LockedPack where
  id : PackId
  version : Version
  digest : Digest
  compat : CompatRange
  requires : List PackId
  conflictsWith : List PackId
  ownsSurfaces : List SurfaceTag
  touchesSurfaces : List SurfaceTag
  deriving DecidableEq, Inhabited

namespace LockedPack

def ofManifest (m : Manifest) : LockedPack where
  id := m.id
  version := m.version
  digest := m.digest
  compat := m.compat
  requires := m.requires
  conflictsWith := m.conflictsWith
  ownsSurfaces := m.ownsSurfaces
  touchesSurfaces := m.touchesSurfaces

def toJson (p : LockedPack) : Json :=
  .object
    [("compat", p.compat.toJson),
     ("conflicts_with", .strings p.conflictsWith),
     ("id", .string p.id),
     ("owns_surfaces", .strings p.ownsSurfaces),
     ("requires", .strings p.requires),
     ("sha256", .string p.digest),
     ("touches_surfaces", .strings p.touchesSurfaces),
     ("version", p.version.toJson)]

end LockedPack

/--
A resolved set of packs, in installation order, for one engine version. The hash is meant to be the
digest of everything else.
-/
structure Lock where
  schema : String
  engineVersion : Version
  selected : List PackId
  resolvedOrder : List PackId
  packs : List LockedPack
  lockHash : Digest
  deriving DecidableEq, Inhabited

namespace Lock

def toJson (l : Lock) : Json :=
  .object
    [("engine_version", l.engineVersion.toJson),
     ("lock_hash", .string l.lockHash),
     ("packs", .array (l.packs.map LockedPack.toJson)),
     ("resolved_order", .strings l.resolvedOrder),
     ("schema", .string l.schema),
     ("selected", .strings l.selected)]

def fileText (l : Lock) : String :=
  l.toJson.render .file ++ "\n"

end Lock

end GovernanceLock
