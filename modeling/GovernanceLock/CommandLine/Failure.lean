import GovernanceLock.PolicyFiles
import GovernanceLock.Request.Write

/-!
This module contains the ways in which a command fails, and the exit codes. The exit code of a
failure is read off its message.
-/

namespace GovernanceLock.CommandLine

namespace ExitCode

def success : Nat := 0

def failure : Nat := 1

def badManifest : Nat := 2

def badUsage : Nat := 2

def unresolved : Nat := 3

def violation : Nat := 4

def manifestOpenings : List String :=
  ["discovery error:", "manifest error:", "record error:", "configuration error:",
   "resolution error: manifest error:", "resolution error: manifest registered as"]

def resolutionOpenings : List String :=
  ["activation error:", "resolution error:"]

def opens (openings : List String) (text : String) : Bool :=
  openings.any fun opening => opening.toList.isPrefixOf text.toList

def ofMessage (message : String) : Nat :=
  if opens manifestOpenings message then badManifest
  else if opens resolutionOpenings message then unresolved
  else failure

end ExitCode

/--
Why a command fails.
-/
inductive Failure where
  | records (cause : RecordFile.Error)
  | policies (cause : PolicyFiles.Error)
  | badOverride (raw : String)
  | request (cause : Request.Error)
  | write (cause : Request.WriteError)
  | manifest (cause : Manifest.Error)
  | unreadableLock (path : String) (cause : Lock.FileError)
  | notADirectory (path : String)
  | unreadable (path : String) (cause : FileTree.Error)
  deriving DecidableEq

namespace Failure

def message : Failure → String
  | records cause => "record error: " ++ cause.message
  | policies cause => "configuration error: " ++ cause.message
  | badOverride raw =>
    "invalid --workspace-overrides value '" ++ raw ++ "': expected true or false"
  | request cause => cause.message
  | write cause => cause.message
  | manifest cause => "manifest error: " ++ cause.message
  | unreadableLock path cause => "failed to read lock '" ++ path ++ "': " ++ cause.message
  | notADirectory path => "'" ++ path ++ "' is not a directory"
  | unreadable path cause => "failed to read '" ++ path ++ "': " ++ cause.message

def exitCode (f : Failure) : Nat :=
  ExitCode.ofMessage f.message

end Failure

end GovernanceLock.CommandLine
