import GovernanceLock.FileTree.Change

/-!
This module contains the guard of a lock file: a file beside it that whoever writes the lock holds.
-/

namespace GovernanceLock.Guard

def defaultName : String := "governance-lock"

def path (lock : Path) : Path :=
  lock.withFileName (lock.fileName?.getD defaultName ++ ".guard")

/--
Make sure that the guard of a lock file is there, with the directories above it.
-/
def acquire (here : Location) (lock : Path) : FileTree.Action FileTree.Error Unit := do
  FileTree.makeDirectories here ((path lock).parent?.getD .empty)
  FileTree.ensureFile here (path lock)

end GovernanceLock.Guard
