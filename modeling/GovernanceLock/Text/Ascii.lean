/-!
This module contains the classes, the lowercase forms and the numbers of ASCII characters. Other
characters belong to no class and are their own lowercase form.
-/

namespace GovernanceLock.Text

def isAsciiLetter (c : Char) : Bool :=
  ('a' ≤ c && c ≤ 'z') || ('A' ≤ c && c ≤ 'Z')

def isAsciiDigit (c : Char) : Bool :=
  '0' ≤ c && c ≤ '9'

def asciiLower (c : Char) : Char :=
  if 'A' ≤ c && c ≤ 'Z' then Char.ofNat (c.toNat + 32) else c

def digitsValue (digits : List Char) : Nat :=
  digits.foldl (fun n c => n * 10 + (c.toNat - '0'.toNat)) 0

end GovernanceLock.Text
