import GovernanceLock.Requirement.Closure

/-!
This module contains the installation order of a set of packs. Every pack counts the requirements it
still waits for; of the packs that wait for nothing the one with the least id is placed next, and
the packs that require it wait for one less. Packs on a cycle of requirements, and packs that need
one of those, wait forever.

There are as many rounds as packs, since each round places one pack or finds none that is ready.
-/

namespace GovernanceLock

namespace InstallOrder

/--
Why a set of packs has no installation order. A cycle comes with the packs that cannot be placed.
-/
inductive Error where
  | unknown (id : PackId)
  | cycle (ids : List PackId)
  deriving DecidableEq

/--
How far the packs have been placed.
-/
structure Progress where
  /-- Each pack with the number of requirements it waits for, ascending. -/
  waiting : List (PackId × Nat)
  /-- The packs that wait for nothing and have not been placed, ascending. -/
  ready : List PackId
  /-- The packs that have been placed, the last one first. -/
  placed : List PackId
  deriving DecidableEq

def inside (catalog : Catalog) (packs : List PackId) (id : PackId) : List PackId :=
  (catalog.requires id).filter (· ∈ packs)

def start (catalog : Catalog) (packs : List PackId) : Progress :=
  let waiting := packs.map fun id => (id, (inside catalog packs id).length)
  { waiting, ready := (waiting.filter (·.2 = 0)).map (·.1), placed := [] }

def release (catalog : Catalog) (id : PackId) (entry : PackId × Nat) : PackId × Nat :=
  (entry.1, entry.2 - (catalog.requires entry.1).count id)

def frees (catalog : Catalog) (id : PackId) (entry : PackId × Nat) : Bool :=
  id ∈ catalog.requires entry.1 && (release catalog id entry).2 = 0

def Progress.next (catalog : Catalog) (p : Progress) : Progress :=
  match p.ready with
  | [] => p
  | id :: rest =>
    let freed := (p.waiting.filter (frees catalog id)).map (·.1)
    { waiting := p.waiting.map (release catalog id)
      ready := freed.foldr Ascending.insert rest
      placed := id :: p.placed }

def after (catalog : Catalog) (packs : List PackId) : (rounds : Nat) → Progress
  | 0 => start catalog packs
  | rounds + 1 => (after catalog packs rounds).next catalog

end InstallOrder

/--
The installation order of an ascending list of packs.
-/
def Catalog.installOrder (catalog : Catalog) (packs : List PackId) :
    Except InstallOrder.Error (List PackId) :=
  match packs.find? (!catalog.contains ·) with
  | some id => .error (.unknown id)
  | none =>
    let p := InstallOrder.after catalog packs packs.length
    if p.placed.length < packs.length then
      .error (.cycle ((p.waiting.filter (0 < ·.2)).map (·.1)))
    else .ok p.placed.reverse

end GovernanceLock
