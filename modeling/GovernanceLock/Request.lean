import GovernanceLock.Activation
import GovernanceLock.Resolution

/-!
This module contains lock requests and what becomes of them in memory: the candidates are collected,
the policy is decided, one record per pack is activated, and the selection is resolved.
-/

namespace GovernanceLock

open Json (Record)

structure Request where
  offers : Offers
  repoPolicy : Option Record
  globalPolicy : Option Record
  runtimeOverride : Option Bool
  selected : List String
  engineVersion : String
  deriving Inhabited

structure Outcome where
  policy : TrustPolicy
  active : ActivePacks
  lock : Lock

namespace Request

inductive Error where
  | discovery (cause : Candidate.Error)
  | activation (cause : Activation.Error)
  | resolution (cause : Resolution.Error)
  deriving DecidableEq

def Error.message : Error → String
  | .discovery cause => "discovery error: " ++ cause.message
  | .activation cause => "activation error: " ++ cause.message
  | .resolution cause => "resolution error: " ++ cause.message

def policy (r : Request) : TrustPolicy :=
  .decide r.repoPolicy r.globalPolicy r.runtimeOverride

/--
The policy and the activated records; neither depends on what is selected.
-/
def activate (r : Request) : Except Error (TrustPolicy × ActivePacks) := do
  let candidates ← (Candidate.collect r.offers).mapError .discovery
  let active ← (Activation.select candidates r.policy).mapError .activation
  return (r.policy, active)

def run (r : Request) : Except Error Outcome := do
  let (policy, active) ← r.activate
  let lock ← (Resolution.resolve active r.selected r.engineVersion).mapError .resolution
  return { policy, active, lock }

end Request

end GovernanceLock
