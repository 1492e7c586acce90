import GovernanceLock.Json.Printer
import GovernanceLock.Sha256
import GovernanceLock.Version

/-!
This module contains pack manifests in normal form, their canonical text and their digest.
-/

namespace GovernanceLock

abbrev PackId := String

/--
The name of a domain of which at most one resolved pack is the owner.
-/
abbrev SurfaceTag := String

/--
A SHA-256 digest as sixty-four lowercase hexadecimal digits.
-/
abbrev Digest := String

def Digest.ofText (text : String) : Digest :=
  Sha256.hex text.toUTF8.toList

/--
What a pack declares. `Manifest.ofRecord` makes every list ascending.
-/
structure Manifest where
  id : PackId
  version : Version
  compat : CompatRange
  requires : List PackId
  conflictsWith : List PackId
  ownsSurfaces : List SurfaceTag
  touchesSurfaces : List SurfaceTag
  artifacts : List String
  deriving DecidableEq, Inhabited

namespace Manifest

def toRecord (m : Manifest) : Json.Record :=
  (if m.artifacts.isEmpty then [] else [("artifacts", .strings m.artifacts)]) ++
    [("compat", m.compat.toJson),
     ("conflicts_with", .strings m.conflictsWith),
     ("id", .string m.id),
     ("owns_surfaces", .strings m.ownsSurfaces),
     ("requires", .strings m.requires),
     ("touches_surfaces", .strings m.touchesSurfaces),
     ("version", m.version.toJson)]

def toJson (m : Manifest) : Json :=
  .object m.toRecord

/--
The text that the digest of a manifest is taken of.
-/
def canonicalText (m : Manifest) : String :=
  m.toJson.canonical

def digest (m : Manifest) : Digest :=
  .ofText m.canonicalText

end Manifest

end GovernanceLock
