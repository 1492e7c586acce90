import GovernanceLock.CommandLine.Options
import GovernanceLock.FileTree.Path

/-!
This module contains the commands that arguments can ask for.
-/

namespace GovernanceLock.CommandLine

/--
The files that candidates and policies are read from, and the override of the run.
-/
structure Sources where
  workspace : Option Path
  installer : Option Path
  user : Option Path
  repoPolicy : Option Path
  globalPolicy : Option Path
  overrides : Option String
  deriving DecidableEq, Inhabited

def Sources.haveCandidates (s : Sources) : Bool :=
  s.workspace.isSome || s.installer.isSome || s.user.isSome

inductive Command where
  /-- Resolve packs, and write the lock unless it is a dry run. -/
  | lock (selected : List String) (engineVersion : String) (sources : Sources) (out : Path)
      (dryRun : Bool)
  /-- Check a lock, and its packs too if there are candidates. -/
  | verify (lock : Path) (sources : Sources)
  /-- Screen the files of a directory. -/
  | scan (directory : Path)
  deriving DecidableEq, Inhabited

/--
A command with the options that all commands have.
-/
structure Invocation where
  json : Bool
  verbose : Bool
  trace : Bool
  command : Command
  deriving DecidableEq, Inhabited

namespace Command

def defaultLock : String := "governance.lock.json"

def commonOptions : List (String × Arity) :=
  [("json", .flag), ("verbose", .flag), ("trace", .flag), ("help", .help)]

def commonLetters : List (Char × String) :=
  [('v', "verbose"), ('h', "help")]

def sourceOptions : List (String × Arity) :=
  [("workspace", .once false), ("installer", .once false), ("user", .once false),
   ("repo-policy", .once false), ("global-policy", .once false),
   ("workspace-overrides", .once true)]

def leadGrammar : Grammar :=
  ⟨("version", .version) :: commonOptions, ('V', "version") :: commonLetters, 0⟩

def lockGrammar : Grammar where
  options := commonOptions ++ sourceOptions ++
    [("select", .repeated), ("engine-version", .once true), ("out", .once false),
     ("dry-run", .flag)]
  letters := commonLetters
  operands := 0

def verifyGrammar : Grammar :=
  ⟨commonOptions ++ sourceOptions, commonLetters, 1⟩

def scanGrammar : Grammar :=
  ⟨commonOptions, commonLetters, 1⟩

end Command

namespace Given

def path? (given : Given) (name : String) : Option Path :=
  (given.value? name).map Path.ofString

def sources (given : Given) : Sources where
  workspace := given.path? "workspace"
  installer := given.path? "installer"
  user := given.path? "user"
  repoPolicy := given.path? "repo-policy"
  globalPolicy := given.path? "global-policy"
  overrides := given.value? "workspace-overrides"

def lock (given : Given) : Except Stop Command :=
  match given.values "select", given.value? "engine-version" with
  | [], _ | _, none => .error .usage
  | selected, some engineVersion =>
    .ok (.lock selected engineVersion given.sources
      (.ofString ((given.value? "out").getD Command.defaultLock)) (given.has "dry-run"))

def verify (given : Given) : Command :=
  .verify (.ofString (given.operands.head?.getD Command.defaultLock)) given.sources

def scan (given : Given) : Except Stop Command :=
  match given.operands with
  | directory :: _ => .ok (.scan (.ofString directory))
  | [] => .error .usage

end Given

namespace Invocation

def commandOf (name : String) (args : List String) : Except Stop (Given × Command) := do
  match name with
  | "lock" =>
    let given ← Command.lockGrammar.read .nothing args
    return (given, ← given.lock)
  | "verify" =>
    let given ← Command.verifyGrammar.read .nothing args
    return (given, given.verify)
  | "scan" =>
    let given ← Command.scanGrammar.read .nothing args
    return (given, ← given.scan)
  | "help" =>
    match args with
    | [] | ["lock"] | ["verify"] | ["scan"] | ["help"] => throw .help
    | _ => throw .usage
  | _ => throw .usage

/--
What arguments ask for. The common options may stand before the name of the command or behind it.
-/
def parse (args : List String) : Except Stop Invocation := do
  match ← Command.leadGrammar.lead .nothing args with
  | (_, []) => throw .usage
  | (lead, name :: rest) =>
    let (given, command) ← commandOf name rest
    return {
      json := lead.has "json" || given.has "json"
      verbose := lead.has "verbose" || given.has "verbose"
      trace := lead.has "trace" || given.has "trace"
      command }

end Invocation

end GovernanceLock.CommandLine
