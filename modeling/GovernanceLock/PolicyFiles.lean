import GovernanceLock.RecordFile
import GovernanceLock.Trust

/-!
This module contains the files that policies come from: where they are looked for, and what they
say. A file that is not there says nothing; one that is there has to hold a record.
-/

namespace GovernanceLock

open Json (Record)

structure PolicyFiles where
  repo : Option Path
  global : Option Path
  deriving DecidableEq, Inhabited

namespace PolicyFiles

def fileNames : List String := ["policy.json", "policy.toml"]

def firstIn (t : FileTree) (here : Location) (directory : Path) : Option Path :=
  (fileNames.map fun name => directory.join (.ofString name)).find? (t.isFile here)

def repoDirectory (root : Path) : Path :=
  root.join (.ofString ".packlock")

def globalDirectory (home : String) : Path :=
  (Path.ofString home).join (.ofString ".config/packlock")

def discover (t : FileTree) (here : Location) (root : Path) (home : Option String) :
    PolicyFiles where
  repo := firstIn t here (repoDirectory root)
  global := home.bind fun home => firstIn t here (globalDirectory home)

def orElse (files others : PolicyFiles) : PolicyFiles where
  repo := files.repo <|> others.repo
  global := files.global <|> others.global

structure Error where
  cause : RecordFile.Error
  deriving DecidableEq

def Error.message (e : Error) : String :=
  "policy file error: " ++ e.cause.message

def loadFile (t : FileTree) (here : Location) : Option Path → Except Error (Option Record)
  | none => .ok none
  | some path =>
    if t.isPresent here path then ((RecordFile.read t here path).map some).mapError .mk
    else .ok none

def load (files : PolicyFiles) (t : FileTree) (here : Location) :
    Except Error (Option Record × Option Record) := do
  return (← loadFile t here files.repo, ← loadFile t here files.global)

end PolicyFiles

end GovernanceLock
