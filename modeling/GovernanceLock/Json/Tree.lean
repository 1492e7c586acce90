import GovernanceLock.Json.Numeral

/-!
This module contains JSON texts as trees: what a text says before its strings, numbers and objects
are given values. Strings are lists of code units, in which an escape can stand for half a
character; numbers are kept as written; members keep their order and their repeats.

`Tree.value?` gives a tree its value. Readers that pass over parts of a text read the tree instead,
because a part that nobody looks at need not have a value.
-/

namespace GovernanceLock.Json

/--
The characters of a string as code points, together with the surrogates that its escapes name.
-/
abbrev Units := List Nat

/--
What a JSON text says.
-/
inductive Tree where
  | null
  | bool (b : Bool)
  | number (n : Numeral)
  | string (units : Units)
  | array (items : List Tree)
  | object (members : List (Units × Tree))
  deriving Inhabited

def isHighSurrogate (u : Nat) : Bool :=
  0xD800 ≤ u && u < 0xDC00

def isLowSurrogate (u : Nat) : Bool :=
  0xDC00 ≤ u && u < 0xE000

def joinSurrogates (high low : Nat) : Char :=
  Char.ofNat (0x10000 + (high - 0xD800) * 0x400 + (low - 0xDC00))

def charsOfUnits? : Units → Option (List Char)
  | [] => some []
  | u :: rest =>
    if isHighSurrogate u then
      match rest with
      | v :: rest =>
        if isLowSurrogate v then (charsOfUnits? rest).map (joinSurrogates u v :: ·) else none
      | [] => none
    else if isLowSurrogate u then none
    else (charsOfUnits? rest).map (Char.ofNat u :: ·)

def textOfUnits? (units : Units) : Option String :=
  (charsOfUnits? units).map String.ofList

namespace Tree

mutual

def depth : Tree → Nat
  | .array items => depthOfItems items + 1
  | .object members => depthOfMembers members + 1
  | _ => 0

def depthOfItems : List Tree → Nat
  | [] => 0
  | t :: rest => max (depth t) (depthOfItems rest)

def depthOfMembers : List (Units × Tree) → Nat
  | [] => 0
  | (_, t) :: rest => max (depth t) (depthOfMembers rest)

end

mutual

def value? : Tree → Option Json
  | .null => some .null
  | .bool b => some (.bool b)
  | .number n => n.number?.map .number
  | .string units => (textOfUnits? units).map .string
  | .array items => (valueOfItems? items).map .array
  | .object members => (valueOfMembers? members).map Json.ofMembers

def valueOfItems? : List Tree → Option (List Json)
  | [] => some []
  | t :: rest =>
    match value? t, valueOfItems? rest with
    | some v, some vs => some (v :: vs)
    | _, _ => none

def valueOfMembers? : List (Units × Tree) → Option (List (String × Json))
  | [] => some []
  | (key, t) :: rest =>
    match textOfUnits? key, value? t, valueOfMembers? rest with
    | some k, some v, some vs => some ((k, v) :: vs)
    | _, _, _ => none

end

end Tree

end GovernanceLock.Json
