import GovernanceLock.Text.Parts

/-!
This module contains the rule for paths of pack artifacts: relative, with `/` between the
components, and without a component that would leave or alias a directory.
-/

namespace GovernanceLock.ArtifactPath

def components (path : String) : List (List Char) :=
  Text.parts '/' path.toList

/--
Whether a path names a place inside the directory it is relative to, in the one way that there is to
name it.
-/
def isSafe (path : String) : Bool :=
  !path.toList.contains '\\' && !path.toList.contains ':'
    && (components path).all fun c => !c.isEmpty && c != ['.'] && c != ['.', '.']

end GovernanceLock.ArtifactPath
