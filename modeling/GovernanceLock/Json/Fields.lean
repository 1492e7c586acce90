import GovernanceLock.Json.Printer
import GovernanceLock.Json.Reader

/-!
This module contains the reading of structures from the trees of JSON texts. A structure with named
fields stands as an object that has every field once, and whatever else, or as an array of exactly
its fields in their declared order. Members that are no fields are passed over without being given a
value.
-/

namespace GovernanceLock.Json.Tree

def keyed? : List (Units × Tree) → Option (List (String × Tree))
  | [] => some []
  | (units, t) :: rest => do
    let key ← textOfUnits? units
    return (key, t) :: (← keyed? rest)

def only? (members : List (String × Tree)) (key : String) : Option Tree :=
  match members.filter (·.1 = key) with
  | [(_, t)] => some t
  | _ => none

def fields? (names : List String) : Tree → Option (List Tree)
  | .array items => if items.length = names.length then some items else none
  | .object members => (keyed? members).bind fun members => names.mapM (only? members)
  | _ => none

def text? : Tree → Option String
  | .string units => textOfUnits? units
  | _ => none

def texts? : Tree → Option (List String)
  | .array items => items.mapM text?
  | _ => none

def bool? : Tree → Option Bool
  | .bool b => some b
  | _ => none

def choice? : Tree → Option String
  | .object [(units, .null)] => textOfUnits? units
  | t => t.text?

def ofJson? (v : Json) : Option Tree :=
  parse? (v.write .plain 0)

end GovernanceLock.Json.Tree
