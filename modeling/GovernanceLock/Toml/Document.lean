import GovernanceLock.Text.Ascii
import GovernanceLock.Toml.Scalar

/-!
This module contains TOML documents as JSON values. A document is first read as a list of
statements, headers and entries, and then assembled statement by statement. A table may be opened by
a header once, unless only tables inside it have been opened before; dotted keys extend the tables
that dotted keys have made, and no other ones; a value is never extended.
-/

namespace GovernanceLock.Toml

/--
How a table came to be.
-/
inductive Origin where
  /-- By a header of its own, or as an element of a list of tables. -/
  | header
  /-- By the header of a table inside it. -/
  | implied
  /-- By a dotted key. -/
  | dotted
  deriving DecidableEq

inductive Item where
  | scalar (v : Json)
  | array (items : List Item)
  /-- A table that is written as a value. -/
  | inline (entries : List (String × Item))
  | table (origin : Origin) (entries : List (String × Item))
  /-- A list of tables, the last one first. -/
  | tables (elements : List (List (String × Item)))
  deriving Inhabited

abbrev Entries := List (String × Item)

def Entries.put (key : String) (item : Item) : Entries → Entries
  | [] => [(key, item)]
  | (k, i) :: rest => if k = key then (key, item) :: rest else (k, i) :: put key item rest

def Entries.erase (key : String) (entries : Entries) : Entries :=
  entries.filter (·.1 ≠ key)

def change (made : Origin) (f : Origin → Entries → Option Entries) :
    (path : List String) → Origin → Entries → Option Entries
  | [], origin, entries => f origin entries
  | key :: path, _, entries =>
    match KeyMap.lookup key entries with
    | none => do
      return entries.put key (.table made (← change made f path made []))
    | some (.table origin inner) =>
      if made = .dotted ∧ origin = .header then none
      else do return entries.put key (.table origin (← change made f path origin inner))
    | some (.tables (last :: others)) => do
      return entries.put key (.tables ((← change made f path .header last) :: others))
    | some _ => none

def enter (path : List String) (key : String) (v : Item) (entries : Entries) : Option Entries :=
  change .dotted
    (fun origin inner =>
      if path ≠ [] ∧ origin ≠ .dotted then none
      else if (KeyMap.lookup key inner).isSome then none
      else some (inner ++ [(key, v)]))
    path .header entries

def itemAt? (path : List String) (key : String) (entries : Entries) : Option Item :=
  match path with
  | [] => KeyMap.lookup key entries
  | k :: path =>
    match KeyMap.lookup k entries with
    | some (.table _ inner) => itemAt? path key inner
    | some (.tables (last :: _)) => itemAt? path key last
    | _ => none

def inherited (path : List String) (key : String) (root : Entries) : Entries :=
  match itemAt? path key root with
  | some (.table .implied inner) => inner
  | _ => []

def openTable (path : List String) (key : String) (root : Entries) : Option Entries :=
  change .implied
    (fun _ entries =>
      match KeyMap.lookup key entries with
      | none | some (.table .implied _) => some (entries.erase key)
      | some _ => none)
    path .header root

def closeTable (path : List String) (key : String) (table root : Entries) : Option Entries :=
  change .implied (fun _ entries => some (entries.put key (.table .header table))) path .header root

def appendTable (path : List String) (key : String) (table root : Entries) : Option Entries :=
  change .implied
    (fun _ entries =>
      match KeyMap.lookup key entries with
      | none => some (entries.put key (.tables [table]))
      | some (.tables elements) => some (entries.put key (.tables (table :: elements)))
      | some _ => none)
    path .header root

def dateTimeOf? : Item → Option Json
  | .scalar (.string s) => (givenDateTime? s.toList).map dateTimeJson
  | _ => none

mutual

def Item.json? : Item → Option Json
  | .scalar v => some v
  | .array items => (jsonOfItems? items).map .array
  | .inline entries => jsonOfTable? entries
  | .table _ entries => jsonOfTable? entries
  | .tables elements => (jsonOfTables? elements).map fun tables => .array tables.reverse

/--
The object of the entries of a table. A table whose first key is the one reserved for dates and
times stands for a date or time, and has to hold the text of one; what follows is passed over.
-/
def jsonOfTable? : List (String × Item) → Option Json
  | [] => some (.object [])
  | (key, item) :: rest =>
    if key = dateTimeKey then dateTimeOf? item
    else
      match item.json?, jsonOfEntries? rest with
      | some v, some vs => some (Json.ofMembers ((key, v) :: vs))
      | _, _ => none

def jsonOfEntries? : List (String × Item) → Option (List (String × Json))
  | [] => some []
  | (key, item) :: rest =>
    match item.json?, jsonOfEntries? rest with
    | some v, some vs => some ((key, v) :: vs)
    | _, _ => none

def jsonOfItems? : List Item → Option (List Json)
  | [] => some []
  | item :: rest =>
    match item.json?, jsonOfItems? rest with
    | some v, some vs => some (v :: vs)
    | _, _ => none

def jsonOfTables? : List (List (String × Item)) → Option (List Json)
  | [] => some []
  | entries :: rest =>
    match jsonOfTable? entries, jsonOfTables? rest with
    | some v, some vs => some (v :: vs)
    | _, _ => none

end

/-! ## Reading -/

def nestingLimit : Nat := 79

def isBareKeyChar (c : Char) : Bool :=
  Text.isAsciiLetter c || Text.isAsciiDigit c || c == '_' || c == '-'

def simpleKey (cs : List Char) : Reading String :=
  match cs with
  | '"' :: _ | '\x27' :: _ => quotedLine cs
  | _ =>
    let name := cs.takeWhile isBareKeyChar
    if name.isEmpty then none else some (String.ofList name, cs.dropWhile isBareKeyChar)

def dottedKey : Nat → List Char → Reading (List String)
  | 0, _ => none
  | limit + 1, cs =>
    (simpleKey (skipWhite cs)).bind fun (name, cs) =>
      match skipWhite cs with
      | '.' :: cs => (dottedKey limit cs).map fun (names, cs) => (name :: names, cs)
      | cs => some ([name], cs)

def keyPath (cs : List Char) : Reading (List String × String) :=
  (dottedKey nestingLimit cs).bind fun (names, cs) =>
    names.getLast?.map fun last => ((names.dropLast, last), cs)

def skipComment : List Char → List Char
  | '#' :: cs => cs.dropWhile isPrintable
  | cs => cs

def lineEnd? (cs : List Char) : Option (List Char) :=
  match skipComment (skipWhite cs) with
  | [] => some []
  | cs => newline? cs

def skipSpace : Nat → List Char → List Char
  | 0, cs => cs
  | steps + 1, cs =>
    let cs := skipWhite cs
    match newline? (skipComment cs) with
    | some rest => skipSpace steps rest
    | none => cs

mutual

def value : Nat → Nat → List Char → Reading Item
  | 0, _, _ => none
  | steps + 1, nesting, cs =>
    match cs, nesting with
    | '[' :: cs, nesting + 1 => (arrayItems steps nesting cs).map fun (vs, cs) => (.array vs, cs)
    | '\x7b' :: cs, nesting + 1 =>
      match skipWhite cs with
      | '\x7d' :: cs => some (.inline [], cs)
      | cs => (inlineEntries steps nesting [] cs).map fun (entries, cs) => (.inline entries, cs)
    | '"' :: _, _ | '\x27' :: _, _ => (quoted cs).map fun (s, cs) => (.scalar (.string s), cs)
    | _, _ => (scalar cs).map fun (v, cs) => (.scalar v, cs)

def arrayItems : Nat → Nat → List Char → Reading (List Item)
  | 0, _, _ => none
  | steps + 1, nesting, cs =>
    match skipSpace cs.length cs with
    | ']' :: cs => some ([], cs)
    | cs =>
      (value steps nesting cs).bind fun (v, cs) =>
        match skipSpace cs.length cs with
        | ',' :: cs => (arrayItems steps nesting cs).map fun (vs, cs) => (v :: vs, cs)
        | ']' :: cs => some ([v], cs)
        | _ => none

def inlineEntries : Nat → Nat → Entries → List Char → Reading Entries
  | 0, _, _, _ => none
  | steps + 1, nesting, entries, cs =>
    match keyPath cs with
    | some ((path, key), '=' :: cs) =>
      (value steps nesting (skipWhite cs)).bind fun (v, cs) =>
        (enter path key v entries).bind fun entries =>
          match skipWhite cs with
          | ',' :: cs => inlineEntries steps nesting entries cs
          | '\x7d' :: cs => some (entries, cs)
          | _ => none
    | _ => none

end

inductive Statement where
  | table (path : List String) (key : String)
  | element (path : List String) (key : String)
  | entry (path : List String) (key : String) (v : Item)

def statement (cs : List Char) : Reading Statement :=
  match cs with
  | '[' :: '[' :: cs =>
    match keyPath cs with
    | some ((path, key), ']' :: ']' :: cs) => some (.element path key, cs)
    | _ => none
  | '[' :: cs =>
    match keyPath cs with
    | some ((path, key), ']' :: cs) => some (.table path key, cs)
    | _ => none
  | cs =>
    match keyPath cs with
    | some ((path, key), '=' :: cs) =>
      (value (2 * cs.length + 1) nestingLimit (skipWhite cs)).map fun (v, cs) =>
        (.entry path key v, cs)
    | _ => none

def statements : Nat → List Char → Option (List Statement)
  | 0, _ => none
  | steps + 1, cs =>
    match skipComment (skipSpace cs.length cs) with
    | [] => some []
    | cs =>
      (statement cs).bind fun (s, cs) =>
        (lineEnd? cs).bind fun cs => (statements steps cs).map (s :: ·)

/-! ## Assembly -/

/--
A document in the making: the root table, and the table that entries go to with the way to its
place, if that is not the root.
-/
structure Draft where
  root : Entries
  place : Option (Bool × List String × String)
  current : Entries

def Draft.close (d : Draft) : Option Entries :=
  match d.place with
  | none => some d.current
  | some (false, path, key) => closeTable path key d.current d.root
  | some (true, path, key) => appendTable path key d.current d.root

def admitsElement (path : List String) (key : String) (root : Entries) : Option Entries :=
  change .implied
    (fun _ entries =>
      match KeyMap.lookup key entries with
      | none | some (.tables _) => some entries
      | some _ => none)
    path .header root

def Draft.add (d : Draft) : Statement → Option Draft
  | .entry path key v => (enter path key v d.current).map fun current => { d with current }
  | .element path key => do
    let root ← admitsElement path key (← d.close)
    return { root, place := some (true, path, key), current := [] }
  | .table path key => do
    let root ← d.close
    return {
      root := ← openTable path key root
      place := some (false, path, key)
      current := inherited path key root }

/--
The JSON object of a document. A byte order mark in front is passed over.
-/
def parse? (text : List Char) : Option Json := do
  let text :=
    match text with
    | '\uFEFF' :: rest => rest
    | text => text
  let lines ← statements (text.length + 1) text
  let draft ← lines.foldlM Draft.add ⟨[], none, []⟩
  jsonOfTable? (← draft.close)

end GovernanceLock.Toml
