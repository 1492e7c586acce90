import GovernanceLock.FileTree.Basic
import GovernanceLock.Text.Utf8

/-!
This module contains the way from a path to a location in a file tree, and what can be read there.
Nothing in it changes the tree.
-/

namespace GovernanceLock

namespace FileTree

/--
Why a file tree refuses an operation.
-/
inductive Error where
  | notFound
  | denied
  | busy
  | occupied
  | notADirectory
  | isADirectory
  | invalid
  | nameTooLong
  | tooManyLinks
  | nulInName
  | notText
  deriving DecidableEq, Inhabited

namespace Error

def message : Error → String
  | notFound => "No such file or directory (os error 2)"
  | denied => "Permission denied (os error 13)"
  | busy => "Device or resource busy (os error 16)"
  | occupied => "File exists (os error 17)"
  | notADirectory => "Not a directory (os error 20)"
  | isADirectory => "Is a directory (os error 21)"
  | invalid => "Invalid argument (os error 22)"
  | nameTooLong => "File name too long (os error 36)"
  | tooManyLinks => "Too many levels of symbolic links (os error 40)"
  | nulInName => "file name contained an unexpected NUL byte"
  | notText => "stream did not contain valid UTF-8"

end Error

def linkLimit : Nat := 40

def nameLimit : Nat := 255

def pathLimit : Nat := 4095

/--
What the last place of a path is looked up for.
-/
inductive Purpose where
  /-- For what stands there, which is what a link there leads to. -/
  | target
  /-- For the place itself. Slashes behind its name are passed over. -/
  | place
  /-- For a file, which is made if nothing is there. No slash may stand behind its name. -/
  | file
  deriving DecidableEq

def Purpose.endsBefore (purpose : Purpose) (rest : List String) : Bool :=
  if purpose = .place then rest.all (· == "") else rest.isEmpty

/--
The location that `pieces` lead to from the directory `here`. Every place before the last has to be
there. At most `links` links are followed. In a closed directory nothing is looked up, not even the
directory itself or the one above it.
-/
def walk (t : FileTree) (purpose : Purpose) (links : Nat) (here : Location) :
    (pieces : List String) → Except Error Location
  | [] => .ok here
  | piece :: rest =>
    if piece ≠ "" ∧ t.get? here = some .closedDirectory then .error .denied
    else if Path.isIdle piece then walk t purpose links here rest
    else if piece = ".." then walk t purpose links here.dropLast rest
    else if purpose = .file ∧ rest ≠ [] ∧ rest.all (· == "") then .error .isADirectory
    else if nameLimit < piece.utf8ByteSize then .error .nameTooLong
    else
      match t.get? (here ++ [piece]) with
      | some .directory | some .closedDirectory => walk t purpose links (here ++ [piece]) rest
      | some (.file _) | some .closedFile =>
        if purpose.endsBefore rest then .ok (here ++ [piece]) else .error .notADirectory
      | some (.link target) =>
        if purpose = .place ∧ purpose.endsBefore rest then .ok (here ++ [piece])
        else
          match links with
          | 0 => .error .tooManyLinks
          | links + 1 =>
            let path := Path.ofString target
            walk t purpose links (if path.rooted then [] else here) (path.pieces ++ rest)
      | none => if purpose.endsBefore rest then .ok (here ++ [piece]) else .error .notFound
  termination_by pieces => (links, pieces.length)

def accept (path : Path) : Except Error Unit :=
  if path.pieces.any (·.toList.contains '\x00') then .error .nulInName
  else if path.isEmpty then .error .notFound
  else if pathLimit < path.toString.utf8ByteSize then .error .nameTooLong
  else .ok ()

/--
The location that `path` leads to from the directory `here`.
-/
def locate (t : FileTree) (purpose : Purpose) (here : Location) (path : Path) :
    Except Error Location := do
  accept path
  t.walk purpose linkLimit (if path.rooted then [] else here) path.pieces

def at? (t : FileTree) (here : Location) (path : Path) : Option Node :=
  match t.locate .target here path with
  | .ok location => t.get? location
  | .error _ => none

def isPresent (t : FileTree) (here : Location) (path : Path) : Bool :=
  (t.at? here path).isSome

def isFile (t : FileTree) (here : Location) (path : Path) : Bool :=
  (t.at? here path).any Node.isFile

def isDirectory (t : FileTree) (here : Location) (path : Path) : Bool :=
  (t.at? here path).any Node.isDirectory

def read (t : FileTree) (here : Location) (path : Path) : Except Error ByteArray := do
  match t.get? (← t.locate .target here path) with
  | some (.file bytes) => return bytes
  | some .closedFile | some .closedDirectory => throw .denied
  | some .directory => throw .isADirectory
  | some (.link _) => throw .tooManyLinks
  | none => throw .notFound

def readText (t : FileTree) (here : Location) (path : Path) : Except Error String := do
  match Text.ofUtf8? (← t.read here path) with
  | some text => return text
  | none => throw .notText

end FileTree

end GovernanceLock
