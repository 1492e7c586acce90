import GovernanceLock.Lock.File
import GovernanceLock.Lock.Guard
import GovernanceLock.Request

/-!
This module contains the writing of the lock that a request leads to. Nothing is touched before the
whole outcome is known, and the guard is there before the lock file is replaced.
-/

namespace GovernanceLock.Request

/--
Why no lock is written.
-/
inductive WriteError where
  | request (cause : Error)
  | guard (cause : FileTree.Error)
  | lock (cause : Lock.FileError)
  deriving DecidableEq

def WriteError.message : WriteError → String
  | request cause => cause.message
  | guard cause => "I/O error: " ++ cause.message
  | lock cause => "lock error: " ++ cause.message

/--
Run a request and write its lock.
-/
def write (r : Request) (here : Location) (path : Path) : FileTree.Action WriteError Outcome := do
  match r.run with
  | .error cause => throw (.request cause)
  | .ok outcome =>
    (Guard.acquire here path).mapError .guard
    (outcome.lock.write here path).mapError .lock
    return outcome

end GovernanceLock.Request
