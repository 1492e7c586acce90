import GovernanceLock.Order.Ascending
import GovernanceLock.Text.Parts
import GovernanceLock.Trust

/-!
This module contains activation: for every offered pack id, the record of the most trusted tier that
offers it and may be used. An activated record says which tier it came from and which policy let it
in.
-/

namespace GovernanceLock

open Json (Record)

/--
The activated record of every pack id.
-/
abbrev ActivePacks := KeyMap Record

namespace Activation

/--
No tier that offers the pack may be used. `offered` and `allowed` are the tiers that do and that
may.
-/
structure Error where
  id : PackId
  offered : List Tier
  allowed : List Tier
  deriving DecidableEq

def nameTiers (tiers : List Tier) : String :=
  if tiers.isEmpty then "none" else Text.joinTexts ", " (tiers.map Tier.name)

def Error.message (e : Error) : String :=
  "pack '" ++ e.id ++ "' has no candidate from a trusted source (offered by: "
    ++ nameTiers e.offered ++ "; allowed: " ++ nameTiers e.allowed ++ ")"

def offer? (candidates : List Candidate) (id : PackId) (tier : Tier) : Option Candidate :=
  candidates.find? fun c => c.id = id && c.tier = tier

def offering (candidates : List Candidate) (id : PackId) : List Tier :=
  Tier.all.filter fun tier => (offer? candidates id tier).isSome

/--
The record of a candidate, marked with its tier and with the source of the policy.
-/
def mark (policy : TrustPolicy) (c : Candidate) : Record :=
  (c.record.set "source" (.string c.tier.name)).set "policy_source" (.string policy.source.name)

def choose (candidates : List Candidate) (policy : TrustPolicy) (id : PackId) :
    Except Error Candidate :=
  match policy.allowed.findSome? (offer? candidates id) with
  | some c => .ok c
  | none => .error ⟨id, offering candidates id, policy.allowed⟩

def offeredIds (candidates : List Candidate) : List PackId :=
  Ascending.ofList (candidates.map Candidate.id)

def activateAll (candidates : List Candidate) (policy : TrustPolicy) (active : ActivePacks) :
    List PackId → Except Error ActivePacks
  | [] => .ok active
  | id :: rest => do
    let c ← choose candidates policy id
    activateAll candidates policy (active.insert id (mark policy c)) rest

def select (candidates : List Candidate) (policy : TrustPolicy) : Except Error ActivePacks :=
  activateAll candidates policy .empty (offeredIds candidates)

end Activation

end GovernanceLock
