import GovernanceLock.CommandLine.Journal
import GovernanceLock.CommandLine.Report

/-!
This module contains the running of commands on a file tree.
-/

namespace GovernanceLock.CommandLine

/--
What a program leaves behind besides its changes of files.
-/
structure Output where
  exitCode : Nat
  out : String
  err : String
  deriving DecidableEq, Inhabited

namespace Command

def runLock (selected : List String) (engineVersion : String) (sources : Sources) (out : Path)
    (dryRun : Bool) (here : Location) (env : Environment) :
    FileTree.Action Failure LockReport := do
  match sources.load (← get) here env selected engineVersion with
  | .error e => throw e
  | .ok request =>
    if dryRun then
      match request.run with
      | .error e => throw (.request e)
      | .ok outcome => return ⟨outcome, out, dryRun⟩
    else
      let outcome ← (request.write here out).mapError .write
      return ⟨outcome, out, dryRun⟩

def currentManifests (sources : Sources) (t : FileTree) (here : Location) (env : Environment) :
    Except Failure Catalog := do
  let request ← sources.load t here env [] ""
  let (_, active) ← request.activate.mapError .request
  active.entries.foldlM
    (fun catalog e => do
      return catalog.insert e.1 (← (Manifest.ofRecord e.2).mapError .manifest))
    .empty

def problems (lock : Lock) (current : Option Catalog) : List Lock.Flaw :=
  let flaw : Except Lock.Flaw Unit → List Lock.Flaw
    | .error e => [e]
    | .ok () => []
  flaw lock.verifyIntegrity ++
    match current with
    | some catalog => flaw (lock.verifyManifests catalog)
    | none => []

def runVerify (path : Path) (sources : Sources) (t : FileTree) (here : Location)
    (env : Environment) : Except Failure VerifyReport := do
  let lock ← (Lock.read t here path).mapError (.unreadableLock path.toString)
  if sources.haveCandidates then
    let current ← currentManifests sources t here env
    return ⟨path, lock, true, problems lock (some current)⟩
  else
    return ⟨path, lock, false, problems lock none⟩

def runScan (directory : Path) (t : FileTree) (here : Location) : Except Failure ScanReport :=
  match t.locate .target here directory with
  | .ok location =>
    if t.holdsDirectory location then
      match t.texts location directory with
      | .ok texts => .ok ⟨directory, texts.entries.length, Screening.scan texts⟩
      | .error e => .error (.unreadable directory.toString e)
    else .error (.notADirectory directory.toString)
  | .error _ => .error (.notADirectory directory.toString)

def perform (c : Command) (json : Bool) (here : Location) (env : Environment) :
    FileTree.Action Failure (Nat × String) := do
  match c with
  | .lock selected engineVersion sources out dryRun =>
    let r ← runLock selected engineVersion sources out dryRun here env
    return (ExitCode.success, if json then r.json else r.text)
  | .verify path sources =>
    match runVerify path sources (← get) here env with
    | .ok r => return (r.exitCode, if json then r.json else r.text)
    | .error e => throw e
  | .scan directory =>
    match runScan directory (← get) here with
    | .ok r => return (r.exitCode, if json then r.json else r.text)
    | .error e => throw e

end Command

namespace Stop

def helpText : String :=
  lines
    ["Usage: packlock [--json] [-v|--verbose] [--trace] COMMAND",
     "",
     "Commands:",
     "  lock --select ID... --engine-version VERSION [SOURCES] [--out FILE] [--dry-run]",
     "  verify [FILE] [SOURCES]",
     "  scan DIRECTORY",
     "",
     "Sources:",
     "  --workspace FILE, --installer FILE, --user FILE",
     "  --repo-policy FILE, --global-policy FILE, --workspace-overrides BOOLEAN"]

def output : Stop → Output
  | usage => ⟨ExitCode.badUsage, "", "error: the arguments are not valid\n\n" ++ helpText⟩
  | help => ⟨ExitCode.success, helpText, ""⟩
  | version => ⟨ExitCode.success, "packlock 0.1.0\n", ""⟩

end Stop

namespace Invocation

/--
Run a command, with its journal.
-/
def run (i : Invocation) (here : Location) (env : Environment) (t : FileTree) :
    Output × FileTree :=
  let journal :=
    Journal.render (Journal.filter env.log i.verbose i.trace) (i.command.journal t here env)
  match (i.command.perform i.json here env).runOn t with
  | (.ok (exitCode, out), t') => (⟨exitCode, out, journal⟩, t')
  | (.error e, t') => (⟨e.exitCode, "", journal ++ "error: " ++ e.message ++ "\n"⟩, t')

end Invocation

def run (args : List String) (here : Location) (env : Environment) (t : FileTree) :
    Output × FileTree :=
  match Invocation.parse args with
  | .ok i => i.run here env t
  | .error stop => (stop.output, t)

end GovernanceLock.CommandLine
