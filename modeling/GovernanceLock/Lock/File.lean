import GovernanceLock.FileTree.Change
import GovernanceLock.Lock.Reader

/-!
This module contains the reading and writing of lock files. A lock file is replaced as a whole, so
it holds a whole lock at any time.
-/

namespace GovernanceLock.Lock

inductive FileError where
  | tree (cause : FileTree.Error)
  | content (detail : String)
  deriving DecidableEq

def FileError.message : FileError → String
  | tree cause => "lock file I/O error: " ++ cause.message
  | content detail => "lock file serialization error: " ++ detail

def read (t : FileTree) (here : Location) (path : Path) : Except FileError Lock := do
  let text ← (t.readText here path).mapError .tree
  match parse? text with
  | some lock => return lock
  | none => throw (.content "the text is not a lock")

def writeFile (l : Lock) (here : Location) (path : Path) : FileTree.Action FileTree.Error Unit := do
  let parent := path.parent?.getD .empty
  let directory := if parent.isEmpty then Path.ofString "." else parent
  FileTree.makeDirectories here directory
  FileTree.replaceFile here directory path l.fileText.toUTF8

def write (l : Lock) (here : Location) (path : Path) : FileTree.Action FileError Unit :=
  (l.writeFile here path).mapError .tree

end GovernanceLock.Lock
