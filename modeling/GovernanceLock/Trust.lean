import GovernanceLock.Candidate
import GovernanceLock.Json.Fields
import GovernanceLock.Text.Ascii

/-!
This module contains the trust policy: whether workspace manifests may take part in activation. The
repository's policy decides before the global one, that before the override of the run, and without
any of them the workspace is not trusted.
-/

namespace GovernanceLock

open Json (Record)

inductive PolicySource where
  | repoPolicy
  | globalPolicy
  | runtimeOverride
  | default
  deriving DecidableEq, Inhabited

namespace PolicySource

def name : PolicySource → String
  | .repoPolicy => "repo-policy"
  | .globalPolicy => "global-policy"
  | .runtimeOverride => "runtime-override"
  | .default => "default"

def all : List PolicySource := [.repoPolicy, .globalPolicy, .runtimeOverride, .default]

def ofName? (name : String) : Option PolicySource :=
  all.find? (·.name == name)

end PolicySource

structure TrustPolicy where
  workspaceOverrides : Bool
  source : PolicySource
  deriving DecidableEq, Inhabited

namespace TrustPolicy

def field : String := "workspace_overrides_enabled"

def flag? (r : Option Record) : Option Bool :=
  match r.bind (KeyMap.lookup field) with
  | some (.bool b) => some b
  | _ => none

/--
The policy that follows from what the repository, the user's global settings and the run say.
-/
def decide (repo global : Option Record) (override : Option Bool) : TrustPolicy :=
  match flag? repo, flag? global, override with
  | some b, _, _ => ⟨b, .repoPolicy⟩
  | none, some b, _ => ⟨b, .globalPolicy⟩
  | none, none, some b => ⟨b, .runtimeOverride⟩
  | none, none, none => ⟨false, .default⟩

def parseOverride (text : String) : Option Bool :=
  let word := String.ofList ((Text.trim text.toList).map Text.asciiLower)
  if word ∈ ["1", "true", "yes", "on"] then some true
  else if word ∈ ["0", "false", "no", "off"] then some false
  else none

/--
The tiers whose manifests may be activated, most trusted first.
-/
def allowed (p : TrustPolicy) : List Tier :=
  if p.workspaceOverrides then [.installer, .user, .workspace] else [.installer, .user]

def ofJson? (v : Json) : Option TrustPolicy :=
  match (Json.Tree.ofJson? v).bind (Json.Tree.fields? [field, "policy_source"]) with
  | some [enabled, source] => do
    return ⟨← enabled.bool?, ← source.choice?.bind PolicySource.ofName?⟩
  | _ => none

def toJson (p : TrustPolicy) : Json :=
  .object [("policy_source", .string p.source.name), (field, .bool p.workspaceOverrides)]

end TrustPolicy

end GovernanceLock
