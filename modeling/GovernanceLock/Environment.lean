import GovernanceLock.Trust

/-!
This module contains what a run takes from its environment.
-/

namespace GovernanceLock

structure Environment where
  home : Option String
  workspaceOverrides : Option String
  log : Option String
  deriving DecidableEq, Inhabited

namespace Environment

def overrideVariable : String := "PACKLOCK_WORKSPACE_OVERRIDES"

/--
The override that the environment gives; a word that is none counts as no override.
-/
def runtimeOverride (e : Environment) : Option Bool :=
  e.workspaceOverrides.bind TrustPolicy.parseOverride

end Environment

end GovernanceLock
