import GovernanceLock.Order.KeyMap

/-!
This module contains the JSON values.
-/

namespace GovernanceLock

/--
A JSON number: an integer, or a double given by its bits.
-/
inductive Json.Number where
  | integer (n : Int)
  | double (bits : UInt64)
  deriving DecidableEq

/--
A JSON value. The members of an object stand in ascending order of their keys.
-/
inductive Json where
  | null
  | bool (b : Bool)
  | number (n : Json.Number)
  | string (s : String)
  | array (items : List Json)
  | object (members : List (String × Json))
  deriving Inhabited, BEq

namespace Json

/--
An untyped record: the members of a JSON object.
-/
abbrev Record := List (String × Json)

/--
The value of the member `key`, `null` counting as absent.
-/
def Record.field (r : Record) (key : String) : Json :=
  (KeyMap.lookup key r).getD .null

def Record.set (r : Record) (key : String) (value : Json) : Record :=
  KeyMap.put key value r

def ofMembers (members : List (String × Json)) : Json :=
  .object (KeyMap.ofList members).entries

def strings (l : List String) : Json :=
  .array (l.map .string)

def natural (n : Nat) : Json :=
  .number (.integer n)

mutual

def depth : Json → Nat
  | .array items => depthOfItems items + 1
  | .object members => depthOfMembers members + 1
  | _ => 0

def depthOfItems : List Json → Nat
  | [] => 0
  | v :: rest => max (depth v) (depthOfItems rest)

def depthOfMembers : List (String × Json) → Nat
  | [] => 0
  | (_, v) :: rest => max (depth v) (depthOfMembers rest)

end

end Json

end GovernanceLock
