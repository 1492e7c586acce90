import GovernanceLock.Manifest.ArtifactPath
import GovernanceLock.Manifest.Basic
import GovernanceLock.Order.Ascending

/-!
This module contains the normalization of untyped manifest records. The conditions are checked in a
fixed order and the first that fails is reported: id, version, compatibility range, the two lists of
pack ids, references of a pack to itself, artifacts, the two lists of surfaces.
-/

namespace GovernanceLock.Manifest

open Json (Record)

inductive Shape where
  | text
  | textList
  | object
  deriving DecidableEq

def Shape.describe : Shape → String
  | .text => "a string"
  | .textList => "a list of strings"
  | .object => "an object"

inductive Fault where
  | missing
  | empty
  | wrongType (expected : Shape)
  | invalidVersion (cause : Version.Error)
  | unsafePath (path : String)
  | selfReference
  deriving DecidableEq

/--
The first condition that a record violates. As long as no id is known, the pack is called
`unknownPack`.
-/
structure Error where
  pack : String
  field : String
  fault : Fault
  deriving DecidableEq

def unknownPack : String := "<unknown>"

def Error.message (e : Error) : String :=
  let field := "field '" ++ e.field ++ "'"
  "pack '" ++ e.pack ++ "': " ++
    match e.fault with
    | .missing => "missing required " ++ field
    | .empty => field ++ " must not be empty"
    | .wrongType expected => field ++ " must be " ++ expected.describe
    | .invalidVersion cause => field ++ " is not a valid version: " ++ cause.message
    | .unsafePath path => field ++ " contains unsafe path '" ++ path ++ "'"
    | .selfReference => field ++ " must not reference the pack itself"

def nonBlank : Json → Except Fault String
  | .null => .error .missing
  | .string s => if (Text.trim s.toList).isEmpty then .error .empty else .ok (Text.trimmed s)
  | _ => .error (.wrongType .text)

def versionText (v : Json) : Except Fault Version := do
  (Version.parse (← nonBlank v)).mapError .invalidVersion

def entries : List Json → Except Fault (List String)
  | [] => .ok []
  | .string s :: rest =>
    if (Text.trim s.toList).isEmpty then .error .empty
    else (entries rest).map (Text.trimmed s :: ·)
  | _ :: _ => .error (.wrongType .textList)

def textSet : Json → Except Fault (List String)
  | .null => .ok []
  | .array items => (entries items).map Ascending.ofList
  | _ => .error (.wrongType .textList)

def members : Json → Except Fault Record
  | .null => .error .missing
  | .object members => .ok members
  | _ => .error (.wrongType .object)

def blame (pack field : String) (r : Except Fault α) : Except Error α :=
  r.mapError (Error.mk pack field ·)

def notItself (id : PackId) (ids : List PackId) : Except Fault Unit :=
  if id ∈ ids then .error .selfReference else .ok ()

def allSafe (paths : List String) : Except Fault Unit :=
  match paths.find? (!ArtifactPath.isSafe ·) with
  | some path => .error (.unsafePath path)
  | none => .ok ()

/--
The manifest of a record. Members other than the eight of a manifest are passed over.
-/
def ofRecord (r : Record) : Except Error Manifest := do
  let id ← blame unknownPack "id" (nonBlank (r.field "id"))
  let version ← blame id "version" (versionText (r.field "version"))
  let range ← blame id "compat" (members (r.field "compat"))
  let engineMin ← blame id "compat.engine_min" (versionText (range.field "engine_min"))
  let engineMax ← blame id "compat.engine_max" (versionText (range.field "engine_max"))
  let requires ← blame id "requires" (textSet (r.field "requires"))
  let conflictsWith ← blame id "conflicts_with" (textSet (r.field "conflicts_with"))
  blame id "requires" (notItself id requires)
  blame id "conflicts_with" (notItself id conflictsWith)
  let artifacts ← blame id "artifacts" (textSet (r.field "artifacts"))
  blame id "artifacts" (allSafe artifacts)
  let ownsSurfaces ← blame id "owns_surfaces" (textSet (r.field "owns_surfaces"))
  let touchesSurfaces ← blame id "touches_surfaces" (textSet (r.field "touches_surfaces"))
  return { id, version, compat := ⟨engineMin, engineMax⟩, requires, conflictsWith, ownsSurfaces,
           touchesSurfaces, artifacts }

end GovernanceLock.Manifest
