import GovernanceLock.Decimal.Layout
import GovernanceLock.Json.Basic
import GovernanceLock.Text.Parts

/-!
This module contains the writing of JSON texts: on one line or indented, with or without escapes for
the characters outside ASCII.
-/

namespace GovernanceLock.Json

/--
How a JSON text is laid out.
-/
structure Style where
  /-- The width of one indentation step; without one the text has no space in it. -/
  indent : Option Nat
  /-- Whether characters outside ASCII are escaped. -/
  ascii : Bool

namespace Style

def canonical : Style := ⟨none, true⟩

def file : Style := ⟨some 2, true⟩

def report : Style := ⟨some 2, false⟩

def plain : Style := ⟨none, false⟩

end Style

def doubleLayout : Decimal.Layout where
  leastPlain := -5
  greatestPlain := 15
  integralEnd := ['.', '0']
  positiveMark := ['e', '+']
  negativeMark := ['e', '-']

def writeInt (n : Int) : List Char :=
  if n < 0 then '-' :: Decimal.natDigits n.natAbs else Decimal.natDigits n.natAbs

def Number.write : Number → List Char
  | .integer n => writeInt n
  | .double bits => doubleLayout.double bits

def hexDigit (n : Nat) : Char :=
  Nat.digitChar n

def unitEscape (u : Nat) : List Char :=
  ['\\', 'u', hexDigit (u / 4096 % 16), hexDigit (u / 256 % 16), hexDigit (u / 16 % 16),
    hexDigit (u % 16)]

def charEscape (c : Char) : List Char :=
  let n := c.toNat
  if n < 0x10000 then unitEscape n
  else
    unitEscape (0xD800 + (n - 0x10000) / 0x400) ++ unitEscape (0xDC00 + (n - 0x10000) % 0x400)

def writeChar (ascii : Bool) (c : Char) : List Char :=
  match c with
  | '"' => ['\\', '"']
  | '\\' => ['\\', '\\']
  | '\x08' => ['\\', 'b']
  | '\x0c' => ['\\', 'f']
  | '\n' => ['\\', 'n']
  | '\r' => ['\\', 'r']
  | '\t' => ['\\', 't']
  | c => if c < ' ' ∨ (ascii ∧ 128 ≤ c.toNat) then charEscape c else [c]

def writeString (ascii : Bool) (s : String) : List Char :=
  '"' :: s.toList.flatMap (writeChar ascii) ++ ['"']

def Style.break (style : Style) (level : Nat) : List Char :=
  match style.indent with
  | none => []
  | some width => '\n' :: List.replicate (width * level) ' '

def Style.colon (style : Style) : List Char :=
  match style.indent with
  | none => [':']
  | some _ => [':', ' ']

def Style.enclose (style : Style) (level : Nat) (opening closing : Char)
    (parts : List (List Char)) : List Char :=
  if parts.isEmpty then [opening, closing]
  else
    opening :: style.break (level + 1) ++ Text.join (',' :: style.break (level + 1)) parts
      ++ style.break level ++ [closing]

mutual

def write (style : Style) (level : Nat) : Json → List Char
  | .null => ['n', 'u', 'l', 'l']
  | .bool true => ['t', 'r', 'u', 'e']
  | .bool false => ['f', 'a', 'l', 's', 'e']
  | .number n => n.write
  | .string s => writeString style.ascii s
  | .array items => style.enclose level '[' ']' (writeItems style (level + 1) items)
  | .object members => style.enclose level '\x7b' '\x7d' (writeMembers style (level + 1) members)

def writeItems (style : Style) (level : Nat) : List Json → List (List Char)
  | [] => []
  | v :: rest => write style level v :: writeItems style level rest

def writeMembers (style : Style) (level : Nat) : List (String × Json) → List (List Char)
  | [] => []
  | (key, v) :: rest =>
    (writeString style.ascii key ++ style.colon ++ write style level v)
      :: writeMembers style level rest

end

def render (style : Style) (v : Json) : String :=
  String.ofList (write style 0 v)

def canonical (v : Json) : String :=
  v.render .canonical

end GovernanceLock.Json
