import GovernanceLock.Json.Basic
import GovernanceLock.Manifest.ArtifactPath
import GovernanceLock.Screening.LineRule
import GovernanceLock.Text.Line

/-!
This module contains the screening of pack artifacts. Packs carry prose and configuration, so a file
is reported when its path is not safe, when its type is not on the list of allowed ones, and for
every line of an allowed file that looks like a request to run something. The report is ascending by
path, rule and detail.
-/

namespace GovernanceLock.Screening

/--
What the rules look for.
-/
inductive Rule where
  | unsafePath
  | disallowedExtension
  | shellSigil
  | executionKey
  | shellFence
  deriving DecidableEq

def Rule.name : Rule → String
  | .unsafePath => "unsafe-path"
  | .disallowedExtension => "disallowed-extension"
  | .shellSigil => "shell-sigil"
  | .executionKey => "exec-directive"
  | .shellFence => "shell-fence"

/--
One finding.
-/
structure Violation where
  path : String
  rule : Rule
  detail : String
  deriving DecidableEq

namespace Violation

def before (v w : Violation) : Bool :=
  v.path < w.path || (v.path = w.path &&
    (v.rule.name < w.rule.name || (v.rule.name = w.rule.name && v.detail < w.detail)))

def toJson (v : Violation) : Json :=
  .object [("detail", .string v.detail), ("path", .string v.path), ("rule", .string v.rule.name)]

def sort (vs : List Violation) : List Violation :=
  vs.mergeSort fun v w => !w.before v

theorem mem_sort {a : Violation} {l : List Violation} : a ∈ sort l ↔ a ∈ l :=
  List.mem_mergeSort

end Violation

def allowedExtensions : List String := ["md", "yaml", "yml", "txt", "template"]

def extension? (path : String) : Option String :=
  let name := ((ArtifactPath.components path).getLast?).getD []
  let ext := ((Text.parts '.' name).getLast?).getD []
  if ext.length + 1 < name.length ∧ ¬ ext.isEmpty then
    some (String.ofList (ext.map Text.asciiLower))
  else none

def onLine (path : String) (number : Nat) (rule : Rule) (what : String) : Violation :=
  ⟨path, rule, "line " ++ number.repr ++ ": " ++ what⟩

def scanLine (path : String) (number : Nat) (line : List Char) : List Violation :=
  ((shellSigil line).map fun sigil =>
      onLine path number .shellSigil ("starts with shell sigil '" ++ sigil ++ "'")).toList ++
    ((executionKey line).map fun key =>
      onLine path number .executionKey ("execution key '" ++ key ++ "'")).toList ++
    ((shellFence line).map fun tag =>
      onLine path number .shellFence ("code fence tagged '" ++ tag ++ "'")).toList

def scanLines (path : String) (number : Nat) : List (List Char) → List Violation
  | [] => []
  | line :: rest => scanLine path number line ++ scanLines path (number + 1) rest

def scanContent (path text : String) : List Violation :=
  match extension? path with
  | some ext =>
    if ext ∈ allowedExtensions then scanLines path 1 (Text.lines text.toList)
    else [⟨path, .disallowedExtension, "file type '." ++ ext ++ "' is not allowed"⟩]
  | none => [⟨path, .disallowedExtension, "file has no extension"⟩]

def scanFile (path text : String) : List Violation :=
  (if ArtifactPath.isSafe path then []
    else [⟨path, .unsafePath, "path must be relative and must not contain '..'"⟩])
    ++ scanContent path text

/--
The report on the files of a pack; an empty one accepts them.
-/
def scan (files : KeyMap String) : List Violation :=
  Violation.sort (files.entries.flatMap fun file => scanFile file.1 file.2)

end GovernanceLock.Screening
