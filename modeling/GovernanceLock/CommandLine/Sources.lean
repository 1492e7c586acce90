import GovernanceLock.CommandLine.Command
import GovernanceLock.CommandLine.Failure
import GovernanceLock.Environment

/-!
This module contains the loading of requests from the files that a command names. Policies come from
the usual places where no file is named, and the override of the run from the environment where none
is given.
-/

namespace GovernanceLock.CommandLine.Sources

def candidates (t : FileTree) (here : Location) : Option Path → Except Failure (List Json)
  | some path => (RecordFile.readList t here path).mapError .records
  | none => .ok []

def offers (s : Sources) (t : FileTree) (here : Location) : Except Failure Offers := do
  return {
    workspace := ← candidates t here s.workspace
    installer := ← candidates t here s.installer
    user := ← candidates t here s.user }

def policyFiles (s : Sources) (t : FileTree) (here : Location) (home : Option String) :
    PolicyFiles :=
  PolicyFiles.orElse ⟨s.repoPolicy, s.globalPolicy⟩
    (PolicyFiles.discover t here ⟨true, here⟩ home)

def runtimeOverride (s : Sources) (env : Environment) : Except Failure (Option Bool) :=
  match s.overrides with
  | none => .ok env.runtimeOverride
  | some raw =>
    match TrustPolicy.parseOverride raw with
    | some b => .ok (some b)
    | none => .error (.badOverride raw)

/--
The request that a command stands for.
-/
def load (s : Sources) (t : FileTree) (here : Location) (env : Environment)
    (selected : List String) (engineVersion : String) : Except Failure Request := do
  let offers ← s.offers t here
  let (repoPolicy, globalPolicy) ←
    ((s.policyFiles t here env.home).load t here).mapError .policies
  let runtimeOverride ← s.runtimeOverride env
  return { offers, repoPolicy, globalPolicy, runtimeOverride, selected, engineVersion }

end GovernanceLock.CommandLine.Sources
