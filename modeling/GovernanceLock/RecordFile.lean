import GovernanceLock.FileTree.Lookup
import GovernanceLock.Json.Reader
import GovernanceLock.Toml.Document

/-!
This module contains the reading of records, and of lists of records, from JSON and TOML files.
-/

namespace GovernanceLock.RecordFile

open Json (Record)

inductive Format where
  | json
  | toml
  deriving DecidableEq

namespace Format

def name : Format → String
  | json => "JSON"
  | toml => "TOML"

def ofPath (path : Path) : Format :=
  match path.extension? with
  | some ext => if ext.toList.map Text.asciiLower = ['t', 'o', 'm', 'l'] then toml else json
  | none => json

def parse? : Format → String → Option Json
  | json, text => Json.parse? text
  | toml, text => Toml.parse? text.toList

end Format

inductive Shape where
  | record
  | list
  | packs
  deriving DecidableEq

def Shape.message : Shape → String
  | record => "expected an object at the top level"
  | list => "expected an array of records or a 'packs' table"
  | packs => "'packs' must be an array"

inductive Fault where
  | unreadable (cause : FileTree.Error)
  | unparsable (format : Format) (detail : String)
  | shape (expected : Shape)
  deriving DecidableEq

structure Error where
  path : String
  fault : Fault
  deriving DecidableEq

def Error.message (e : Error) : String :=
  match e.fault with
  | .unreadable cause => "failed to read '" ++ e.path ++ "': " ++ cause.message
  | .unparsable format detail =>
    "failed to parse " ++ format.name ++ " in '" ++ e.path ++ "': " ++ detail
  | .shape expected => "'" ++ e.path ++ "': " ++ expected.message

def readValue (t : FileTree) (here : Location) (path : Path) : Except Fault Json := do
  let text ← (t.readText here path).mapError .unreadable
  let format := Format.ofPath path
  match format.parse? text with
  | some v => return v
  | none => throw (.unparsable format ("the text is not " ++ format.name))

def recordOf : Json → Except Fault Record
  | .object members => .ok members
  | _ => .error (.shape .record)

def listOf : Json → Except Fault (List Json)
  | .array items => .ok items
  | .object members =>
    match KeyMap.lookup "packs" members with
    | some (.array items) => .ok items
    | some _ => .error (.shape .packs)
    | none => .ok []
  | _ => .error (.shape .list)

def read (t : FileTree) (here : Location) (path : Path) : Except Error Record :=
  (readValue t here path >>= recordOf).mapError (⟨path.toString, ·⟩)

def readList (t : FileTree) (here : Location) (path : Path) : Except Error (List Json) :=
  (readValue t here path >>= listOf).mapError (⟨path.toString, ·⟩)

end GovernanceLock.RecordFile
