import GovernanceLock.Json.Basic
import GovernanceLock.Text.Ascii
import GovernanceLock.Text.Blank
import GovernanceLock.Text.Parts

/-!
This module contains strict versions of three numeric components and the inclusive ranges of engine
versions that packs support.
-/

namespace GovernanceLock

structure Version where
  major : UInt64
  minor : UInt64
  patch : UInt64
  deriving DecidableEq, Inhabited

namespace Version

/--
Why a text is no version. The malformed text is kept without the blanks around it.
-/
inductive Error where
  | empty
  | malformed (text : String)
  deriving DecidableEq

def Error.message : Error → String
  | .empty => "version must not be empty"
  | .malformed text =>
    "invalid version '" ++ text ++ "': expected major.minor.patch with numeric components"

def component? (digits : List Char) : Option UInt64 :=
  if digits.isEmpty ∨ ¬ digits.all Text.isAsciiDigit then none
  else
    let n := Text.digitsValue digits
    if n < UInt64.size then some (UInt64.ofNat n) else none

def ofParts? : List (List Char) → Option Version
  | [a, b, c] => do some ⟨← component? a, ← component? b, ← component? c⟩
  | _ => none

def parse (text : String) : Except Error Version :=
  let trimmed := Text.trim text.toList
  if trimmed.isEmpty then .error .empty
  else
    match ofParts? (Text.parts '.' trimmed) with
    | some v => .ok v
    | none => .error (.malformed (String.ofList trimmed))

def toString (v : Version) : String :=
  v.major.toNat.repr ++ "." ++ v.minor.toNat.repr ++ "." ++ v.patch.toNat.repr

instance : ToString Version := ⟨toString⟩

def compare (v w : Version) : Ordering :=
  (Ord.compare v.major w.major).then
    ((Ord.compare v.minor w.minor).then (Ord.compare v.patch w.patch))

instance : Ord Version := ⟨compare⟩

def toJson (v : Version) : Json :=
  .string v.toString

end Version

/--
The engine versions from `engineMin` through `engineMax`.
-/
structure CompatRange where
  engineMin : Version
  engineMax : Version
  deriving DecidableEq, Inhabited

namespace CompatRange

/--
Whether an engine version lies between the bounds, which belong to the range.
-/
def contains (r : CompatRange) (engine : Version) : Bool :=
  (r.engineMin.compare engine).isLE && (engine.compare r.engineMax).isLE

def toJson (r : CompatRange) : Json :=
  .object [("engine_max", r.engineMax.toJson), ("engine_min", r.engineMin.toJson)]

end CompatRange

end GovernanceLock
