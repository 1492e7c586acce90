import GovernanceLock.Toml.Quoted

/-!
This module contains attempts to read a value of one of several kinds. An attempt either finds no
such value, or finds one that is broken, or succeeds. A broken value is broken whatever the other
kinds would make of it.
-/

namespace GovernanceLock.Toml

inductive Attempt (α : Type) where
  | absent
  | broken
  | found (value : α) (rest : List Char)

namespace Attempt

def orElse (a : Attempt α) (b : Unit → Attempt α) : Attempt α :=
  match a with
  | .absent => b ()
  | a => a

instance : OrElse (Attempt α) := ⟨orElse⟩

def map (f : α → β) : Attempt α → Attempt β
  | .absent => .absent
  | .broken => .broken
  | .found a rest => .found (f a) rest

def ofReading : Reading α → Attempt α
  | some (a, rest) => .found a rest
  | none => .broken

def toReading : Attempt α → Reading α
  | .found a rest => some (a, rest)
  | _ => none

end Attempt

end GovernanceLock.Toml
