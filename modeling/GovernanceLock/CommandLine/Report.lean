import GovernanceLock.FileTree.Contents
import GovernanceLock.CommandLine.Sources
import GovernanceLock.Lock.Seal
import GovernanceLock.Screening.Basic

/-!
This module contains what commands find out, and how they tell it: in lines or as JSON.
-/

namespace GovernanceLock.CommandLine

def lines (ls : List String) : String :=
  String.join (ls.map (· ++ "\n"))

def jsonReport (members : Json.Record) : String :=
  (Json.ofMembers members).render .report ++ "\n"

structure LockReport where
  outcome : Outcome
  out : Path
  dryRun : Bool

namespace LockReport

def tierName (active : ActivePacks) (id : PackId) : String :=
  match (active.get? id).bind (KeyMap.lookup "source") with
  | some (.string name) => name
  | _ => "?"

def packLine (active : ActivePacks) (p : LockedPack) : String :=
  "  " ++ p.id ++ " " ++ p.version.toString ++ " (" ++ tierName active p.id ++ ")"

def text (r : LockReport) : String :=
  let policy := r.outcome.policy
  let lock := r.outcome.lock
  lines
    (["trust policy: workspace overrides "
        ++ (if policy.workspaceOverrides then "enabled" else "disabled")
        ++ " (" ++ policy.source.name ++ ")",
      "resolved " ++ lock.packs.length.repr ++ " pack(s):"]
      ++ lock.packs.map (packLine r.outcome.active)
      ++ ["lock_hash: " ++ lock.lockHash,
          if r.dryRun then "dry run: " ++ r.out.toString ++ " not written"
          else "wrote " ++ r.out.toString])

def json (r : LockReport) : String :=
  jsonReport
    [("lock_path", if r.dryRun then .null else .string r.out.toString),
     ("policy", r.outcome.policy.toJson),
     ("active", .strings r.outcome.active.keys),
     ("lock", r.outcome.lock.toJson)]

end LockReport

structure VerifyReport where
  path : Path
  lock : Lock
  driftChecked : Bool
  problems : List Lock.Flaw

namespace VerifyReport

def text (r : VerifyReport) : String :=
  if r.problems.isEmpty then
    lines
      ([r.path.toString ++ ": ok (" ++ r.lock.packs.length.repr ++ " pack(s), lock_hash "
          ++ r.lock.lockHash ++ ")"]
        ++ if r.driftChecked then [] else
            ["no candidate lists given; manifest drift not checked"])
  else lines ((r.path.toString ++ ": FAILED") :: r.problems.map fun p => "  " ++ p.message)

def json (r : VerifyReport) : String :=
  jsonReport
    [("lock_path", .string r.path.toString),
     ("lock_hash", .string r.lock.lockHash),
     ("packs", .natural r.lock.packs.length),
     ("drift_checked", .bool r.driftChecked),
     ("ok", .bool r.problems.isEmpty),
     ("problems", .strings (r.problems.map Lock.Flaw.message))]

def exitCode (r : VerifyReport) : Nat :=
  if r.problems.isEmpty then ExitCode.success else ExitCode.violation

end VerifyReport

structure ScanReport where
  directory : Path
  files : Nat
  violations : List Screening.Violation

namespace ScanReport

def violationLine (v : Screening.Violation) : String :=
  "  " ++ v.path ++ " [" ++ v.rule.name ++ "] " ++ v.detail

def text (r : ScanReport) : String :=
  if r.violations.isEmpty then
    lines [r.directory.toString ++ ": " ++ r.files.repr ++ " file(s), no violations"]
  else
    lines
      ((r.directory.toString ++ ": " ++ r.violations.length.repr ++ " violation(s) in "
        ++ r.files.repr ++ " file(s)") :: r.violations.map violationLine)

def json (r : ScanReport) : String :=
  jsonReport
    [("dir", .string r.directory.toString),
     ("files", .natural r.files),
     ("violations", .array (r.violations.map Screening.Violation.toJson))]

def exitCode (r : ScanReport) : Nat :=
  if r.violations.isEmpty then ExitCode.success else ExitCode.violation

end ScanReport

end GovernanceLock.CommandLine
