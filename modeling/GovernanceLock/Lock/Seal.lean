import GovernanceLock.Lock.Basic
import GovernanceLock.Order.Ascending

/-!
This module contains the sealing of locks with their hash and the checks of sealed locks: that the
lock is the one that was sealed, and that the manifests are the ones that were locked.
-/

namespace GovernanceLock.Lock

def schemaName : String := "governance-lock.v1"

/--
Everything but the hash; this is what the hash is taken of.
-/
def unsealed (l : Lock) : Json :=
  .object
    [("engine_version", l.engineVersion.toJson),
     ("packs", .array (l.packs.map LockedPack.toJson)),
     ("resolved_order", .strings l.resolvedOrder),
     ("schema", .string l.schema),
     ("selected", .strings l.selected)]

def computeHash (l : Lock) : Digest :=
  .ofText l.unsealed.canonical

def sealUp (l : Lock) : Lock :=
  { l with lockHash := l.computeHash }

/--
The sealed lock of manifests in installation order.
-/
def assemble (engine : Version) (selected : List PackId) (ordered : List Manifest) : Lock :=
  sealUp
    { schema := schemaName
      engineVersion := engine
      selected := Ascending.ofList selected
      resolvedOrder := ordered.map (·.id)
      packs := ordered.map LockedPack.ofManifest
      lockHash := "" }

inductive Flaw where
  | unsupportedSchema (schema : String)
  | hashMismatch (stored computed : Digest)
  | packsOutOfOrder
  | selectedMissing (id : PackId)
  | packGone (id : PackId)
  | packChanged (id : PackId) (locked current : Digest)
  deriving DecidableEq

def Flaw.message : Flaw → String
  | .unsupportedSchema schema =>
    "unsupported lock schema '" ++ schema ++ "', expected '" ++ schemaName ++ "'"
  | .hashMismatch stored computed =>
    "lock hash mismatch: lock has '" ++ stored ++ "', recomputed '" ++ computed ++ "'"
  | .packsOutOfOrder =>
    "lock file is internally inconsistent: packs are not listed in resolved_order"
  | .selectedMissing id =>
    "lock file is internally inconsistent: selected pack '" ++ id
      ++ "' is missing from resolved_order"
  | .packGone id =>
    "lock file manifest drift: pack '" ++ id ++ "' is locked but no longer available"
  | .packChanged id locked current =>
    "lock file manifest drift: pack '" ++ id ++ "' changed: lock has sha256 '" ++ locked
      ++ "', manifest has '" ++ current ++ "'. Re-run 'packlock lock' to re-resolve."

/--
Check that a lock has the known schema and its own hash, lists its packs in installation order, and
orders everything that was selected.
-/
def verifyIntegrity (l : Lock) : Except Flaw Unit :=
  if l.schema ≠ schemaName then .error (.unsupportedSchema l.schema)
  else if l.computeHash ≠ l.lockHash then .error (.hashMismatch l.lockHash l.computeHash)
  else if l.packs.map (·.id) ≠ l.resolvedOrder then .error .packsOutOfOrder
  else
    match l.selected.find? (· ∉ l.resolvedOrder) with
    | some id => .error (.selectedMissing id)
    | none => .ok ()

def drift? (current : KeyMap Manifest) (p : LockedPack) : Option Flaw :=
  match current.get? p.id with
  | none => some (.packGone p.id)
  | some m => if m.digest = p.digest then none else some (.packChanged p.id p.digest m.digest)

/--
Check that every locked pack still has the manifest it was locked with.
-/
def verifyManifests (l : Lock) (current : KeyMap Manifest) : Except Flaw Unit :=
  match l.packs.findSome? (drift? current) with
  | some flaw => .error flaw
  | none => .ok ()

end GovernanceLock.Lock
