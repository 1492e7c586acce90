import GovernanceLock.Manifest.Basic
import GovernanceLock.Text.Blank

/-!
This module contains the candidates for activation: the manifest records that the workspace, the
installer and the user offer, each under the pack id that it names.
-/

namespace GovernanceLock

open Json (Record)

/--
Who offers a manifest.
-/
inductive Tier where
  | workspace
  | installer
  | user
  deriving DecidableEq, Inhabited

namespace Tier

def name : Tier → String
  | .workspace => "workspace"
  | .installer => "installer"
  | .user => "user"

def all : List Tier := [.workspace, .installer, .user]

def ofName? (name : String) : Option Tier :=
  all.find? (·.name == name)

end Tier

structure Candidate where
  id : PackId
  tier : Tier
  record : Record

/--
The lists that the tiers offer, as they were read.
-/
structure Offers where
  workspace : List Json
  installer : List Json
  user : List Json
  deriving Inhabited

def Offers.list (offers : Offers) : Tier → List Json
  | .workspace => offers.workspace
  | .installer => offers.installer
  | .user => offers.user

namespace Candidate

/--
Why the lists have no candidates. Positions are counted from zero.
-/
inductive Error where
  | notAnObject (tier : Tier) (index : Nat)
  | missingId (tier : Tier) (index : Nat)
  | duplicate (tier : Tier) (id : PackId)
  deriving DecidableEq

def Error.message : Error → String
  | .notAnObject tier index => tier.name ++ " candidate #" ++ index.repr ++ " is not an object"
  | .missingId tier index => tier.name ++ " candidate #" ++ index.repr ++ " has no pack id"
  | .duplicate tier id => tier.name ++ " supplies pack '" ++ id ++ "' more than once"

def idOf? (r : Record) : Option PackId :=
  match KeyMap.lookup "id" r with
  | some (.string s) => if (Text.trim s.toList).isEmpty then none else some (Text.trimmed s)
  | _ => none

def ofJson (tier : Tier) (index : Nat) : Json → Except Error Candidate
  | .object r =>
    match idOf? r with
    | some id => .ok ⟨id, tier, r⟩
    | none => .error (.missingId tier index)
  | _ => .error (.notAnObject tier index)

def collectFrom (tier : Tier) (index : Nat) (seen : List PackId) :
    List Json → Except Error (List Candidate)
  | [] => .ok []
  | v :: rest => do
    let c ← ofJson tier index v
    if c.id ∈ seen then .error (.duplicate tier c.id)
    else return c :: (← collectFrom tier (index + 1) (c.id :: seen) rest)

def collectTier (offers : Offers) (tier : Tier) : Except Error (List Candidate) :=
  collectFrom tier 0 [] (offers.list tier)

def collectTiers (offers : Offers) : List Tier → Except Error (List Candidate)
  | [] => .ok []
  | tier :: rest => do
    let cs ← collectTier offers tier
    return cs ++ (← collectTiers offers rest)

/--
All candidates, tier by tier. One element that offers none refuses the whole.
-/
def collect (offers : Offers) : Except Error (List Candidate) :=
  collectTiers offers Tier.all

end Candidate

end GovernanceLock
