/-!
This module contains the division of a text into lines. A line ends at a line feed, and a carriage
return right before the line feed belongs to the line end.
-/

namespace GovernanceLock.Text

def consFirst (c : Char) : List (List Char) → List (List Char)
  | [] => [[c]]
  | line :: rest => (c :: line) :: rest

/--
The lines of a text. Only a line feed ends a line, so a carriage return elsewhere is part of its
line, and nothing stands behind the last line feed of a text that ends in one.
-/
def lines : List Char → List (List Char)
  | [] => []
  | '\n' :: cs => [] :: lines cs
  | '\r' :: '\n' :: cs => [] :: lines cs
  | c :: cs => consFirst c (lines cs)

@[simp]
theorem lines_lineFeed (cs : List Char) : lines ('\n' :: cs) = [] :: lines cs := by
  simp [lines]

@[simp]
theorem lines_carriageReturn_lineFeed (cs : List Char) :
    lines ('\r' :: '\n' :: cs) = [] :: lines cs := by
  simp [lines]

end GovernanceLock.Text
