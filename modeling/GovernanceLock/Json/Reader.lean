import GovernanceLock.Json.Tree

/-!
This module contains the reading of JSON texts. The reader is a push-down machine that takes one
character at a time: its mode says what may stand next, its stack holds the arrays and objects that
are open around that place, innermost first. Since a number ends only where the next character is no
part of it, a text is read with a blank behind it.
-/

namespace GovernanceLock.Json

namespace Reader

/--
An open array or object that waits for a value. What it holds already stands last first.
-/
inductive Frame where
  | array (items : List Tree)
  | object (members : List (Units × Tree)) (key : Units)

inductive Role where
  | value
  | key (members : List (Units × Tree))

inductive Phase where
  | sign
  | zero
  | whole
  | point
  | fraction
  | mark
  | markSign
  | exponent
  deriving DecidableEq

inductive Mode where
  /-- A value. -/
  | value
  /-- The first value of an array, or its end. -/
  | firstItem
  /-- The first key of an object, or its end. -/
  | firstKey
  /-- A key, after a comma. -/
  | nextKey (members : List (Units × Tree))
  /-- The colon behind a key. -/
  | colon (members : List (Units × Tree)) (key : Units)
  /-- A comma or the end, after a value in an array. -/
  | nextItem (items : List Tree)
  /-- A comma or the end, after a member of an object. -/
  | nextMember (members : List (Units × Tree))
  /-- Nothing but space, after the whole value. -/
  | finished (tree : Tree)
  /-- The rest of a word that stands for a value. -/
  | word (next : Char) (left : List Char) (tree : Tree)
  /-- The rest of a number. -/
  | numeral (phase : Phase) (n : Numeral)
  /-- The rest of a string. -/
  | text (role : Role) (units : Units)
  /-- What follows a backslash. -/
  | escape (role : Role) (units : Units)
  /-- The last hexadecimal digits of an escape: `left` more after the next one. -/
  | hex (role : Role) (units : Units) (left : Nat) (code : Nat)

structure Machine where
  mode : Mode
  stack : List Frame

def isSpace (c : Char) : Bool :=
  c == ' ' || c == '\t' || c == '\n' || c == '\r'

def digit? (c : Char) : Option Nat :=
  if '0' ≤ c ∧ c ≤ '9' then some (c.toNat - '0'.toNat) else none

def hexDigit? (c : Char) : Option Nat :=
  if '0' ≤ c ∧ c ≤ '9' then some (c.toNat - '0'.toNat)
  else if 'a' ≤ c ∧ c ≤ 'f' then some (c.toNat - 'a'.toNat + 10)
  else if 'A' ≤ c ∧ c ≤ 'F' then some (c.toNat - 'A'.toNat + 10)
  else none

def complete (t : Tree) : List Frame → Machine
  | [] => ⟨.finished t, []⟩
  | .array items :: stack => ⟨.nextItem (t :: items), stack⟩
  | .object members key :: stack => ⟨.nextMember ((key, t) :: members), stack⟩

def start (stack : List Frame) (c : Char) : Option Machine :=
  match c with
  | 'n' => some ⟨.word 'u' ['l', 'l'] .null, stack⟩
  | 't' => some ⟨.word 'r' ['u', 'e'] (.bool true), stack⟩
  | 'f' => some ⟨.word 'a' ['l', 's', 'e'] (.bool false), stack⟩
  | '"' => some ⟨.text .value [], stack⟩
  | '[' => some ⟨.firstItem, stack⟩
  | '\x7b' => some ⟨.firstKey, stack⟩
  | '-' => some ⟨.numeral .sign ⟨true, [], [], none⟩, stack⟩
  | '0' => some ⟨.numeral .zero ⟨false, [0], [], none⟩, stack⟩
  | c => (digit? c).map fun d => ⟨.numeral .whole ⟨false, [d], [], none⟩, stack⟩

def between (m : Machine) (c : Char) : Option Machine :=
  if isSpace c then some m
  else
    match m.mode with
    | .value => start m.stack c
    | .firstItem =>
      if c = ']' then some (complete (.array []) m.stack) else start (.array [] :: m.stack) c
    | .firstKey =>
      if c = '"' then some ⟨.text (.key []) [], m.stack⟩
      else if c = '\x7d' then some (complete (.object []) m.stack)
      else none
    | .nextKey members => if c = '"' then some ⟨.text (.key members) [], m.stack⟩ else none
    | .colon members key =>
      if c = ':' then some ⟨.value, .object members key :: m.stack⟩ else none
    | .nextItem items =>
      if c = ',' then some ⟨.value, .array items :: m.stack⟩
      else if c = ']' then some (complete (.array items.reverse) m.stack)
      else none
    | .nextMember members =>
      if c = ',' then some ⟨.nextKey members, m.stack⟩
      else if c = '\x7d' then some (complete (.object members.reverse) m.stack)
      else none
    | _ => none

def Phase.ends : Phase → Bool
  | .zero | .whole | .fraction | .exponent => true
  | .sign | .point | .mark | .markSign => false

def extend? (phase : Phase) (n : Numeral) (c : Char) : Option (Phase × Numeral) :=
  let exponentDigit (d : Nat) : Option (Phase × Numeral) :=
    let x := n.exponent.getD ⟨false, []⟩
    some (.exponent, { n with exponent := some { x with digits := x.digits ++ [d] } })
  match phase with
  | .sign =>
    (digit? c).map fun d => (if d = 0 then .zero else .whole, { n with whole := [d] })
  | .zero | .whole =>
    if c = '.' then some (.point, n)
    else if c = 'e' ∨ c = 'E' then some (.mark, { n with exponent := some ⟨false, []⟩ })
    else if phase = .zero then none
    else (digit? c).map fun d => (.whole, { n with whole := n.whole ++ [d] })
  | .point | .fraction =>
    if phase = .fraction ∧ (c = 'e' ∨ c = 'E') then
      some (.mark, { n with exponent := some ⟨false, []⟩ })
    else (digit? c).map fun d => (.fraction, { n with fraction := n.fraction ++ [d] })
  | .mark =>
    if c = '+' then some (.markSign, n)
    else if c = '-' then some (.markSign, { n with exponent := some ⟨true, []⟩ })
    else (digit? c).bind exponentDigit
  | .markSign | .exponent => (digit? c).bind exponentDigit

def escaped? (c : Char) : Option Char :=
  match c with
  | '"' => some '"'
  | '\\' => some '\\'
  | '/' => some '/'
  | 'b' => some '\x08'
  | 'f' => some '\x0c'
  | 'n' => some '\n'
  | 'r' => some '\r'
  | 't' => some '\t'
  | _ => none

def closeText (role : Role) (units : Units) (stack : List Frame) : Machine :=
  match role with
  | .value => complete (.string units) stack
  | .key members => ⟨.colon members units, stack⟩

/--
The machine after one more character, if the character may stand there.
-/
def step (m : Machine) (c : Char) : Option Machine :=
  match m.mode with
  | .word next left t =>
    if c = next then
      match left with
      | [] => some (complete t m.stack)
      | d :: left => some ⟨.word d left t, m.stack⟩
    else none
  | .numeral phase n =>
    match extend? phase n c with
    | some (phase, n) => some ⟨.numeral phase n, m.stack⟩
    | none => if phase.ends then between (complete (.number n) m.stack) c else none
  | .text role units =>
    if c = '"' then some (closeText role units.reverse m.stack)
    else if c = '\\' then some ⟨.escape role units, m.stack⟩
    else if c < ' ' then none
    else some ⟨.text role (c.toNat :: units), m.stack⟩
  | .escape role units =>
    if c = 'u' then some ⟨.hex role units 3 0, m.stack⟩
    else (escaped? c).map fun d => ⟨.text role (d.toNat :: units), m.stack⟩
  | .hex role units left code =>
    (hexDigit? c).map fun d =>
      match left with
      | 0 => ⟨.text role ((code * 16 + d) :: units), m.stack⟩
      | left + 1 => ⟨.hex role units left (code * 16 + d), m.stack⟩
  | _ => between m c

def run (m : Machine) : List Char → Option Machine
  | [] => some m
  | c :: cs => (step m c).bind fun m => run m cs

end Reader

open Reader

def Tree.parse? (text : List Char) : Option Tree :=
  match run ⟨.value, []⟩ (text ++ [' ']) with
  | some ⟨.finished t, _⟩ => some t
  | _ => none

/--
How many arrays and objects may be open at a time in a text that is given a value.
-/
def depthLimit : Nat := 127

/--
The value of a text.
-/
def parse? (text : String) : Option Json :=
  (Tree.parse? text.toList).bind fun t => if t.depth ≤ depthLimit then t.value? else none

end GovernanceLock.Json
