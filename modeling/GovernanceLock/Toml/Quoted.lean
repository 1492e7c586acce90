import GovernanceLock.Json.Reader

/-!
This module contains the four kinds of quoted text of TOML. Every function is given the text behind
the opening quotes and answers the quoted text with what follows the closing ones.
-/

namespace GovernanceLock.Toml

abbrev Reading (α : Type) := Option (α × List Char)

def prepend (cs : List Char) (r : Reading (List Char)) : Reading (List Char) :=
  r.map fun (text, rest) => (cs ++ text, rest)

def isWhite (c : Char) : Bool :=
  c == ' ' || c == '\t'

def skipWhite (cs : List Char) : List Char :=
  cs.dropWhile isWhite

def newline? : List Char → Option (List Char)
  | '\n' :: cs => some cs
  | '\r' :: '\n' :: cs => some cs
  | _ => none

def isPrintable (c : Char) : Bool :=
  c == '\t' || (' ' ≤ c && c != '\x7f')

def codePoint? (digits : List Char) : Option Char := do
  let values ← digits.mapM Json.Reader.hexDigit?
  let n := values.foldl (fun n d => n * 16 + d) 0
  if n.isValidChar then some (Char.ofNat n) else none

def escaped? : Char → Option Char
  | 'b' => some '\x08'
  | 't' => some '\t'
  | 'n' => some '\n'
  | 'f' => some '\x0c'
  | 'r' => some '\r'
  | '"' => some '"'
  | '\\' => some '\\'
  | _ => none

def basicText : List Char → Reading (List Char)
  | '"' :: cs => some ([], cs)
  | '\\' :: 'u' :: a :: b :: c :: d :: cs =>
    (codePoint? [a, b, c, d]).bind fun x => prepend [x] (basicText cs)
  | '\\' :: 'U' :: a :: b :: c :: d :: e :: f :: g :: h :: cs =>
    (codePoint? [a, b, c, d, e, f, g, h]).bind fun x => prepend [x] (basicText cs)
  | '\\' :: e :: cs => (escaped? e).bind fun x => prepend [x] (basicText cs)
  | c :: cs => if isPrintable c && c != '\\' then prepend [c] (basicText cs) else none
  | [] => none

def literalText : List Char → Reading (List Char)
  | '\x27' :: cs => some ([], cs)
  | c :: cs => if isPrintable c then prepend [c] (literalText cs) else none
  | [] => none

def countFront (mark : Char) (cs : List Char) : Nat :=
  (cs.takeWhile (· == mark)).length

def skipLines : List Char → List Char
  | '\n' :: cs => skipLines cs
  | '\r' :: '\n' :: cs => skipLines cs
  | c :: cs => if isWhite c then skipLines cs else c :: cs
  | [] => []

def continuation? (cs : List Char) : Option (List Char) :=
  (newline? (skipWhite cs)).map skipLines

def closing? (mark : Char) (cs : List Char) : Reading (List Char) :=
  let n := countFront mark cs
  if n < 3 then none
  else
    let extra := min (n - 3) 2
    some (List.replicate extra mark, cs.drop (extra + 3))

def basicLines : Nat → List Char → Reading (List Char)
  | 0, _ => none
  | steps + 1, cs =>
    match closing? '"' cs, newline? cs, cs with
    | some r, _, _ => some r
    | none, some cs, _ => prepend ['\n'] (basicLines steps cs)
    | none, none, '\\' :: cs =>
      match continuation? cs, cs with
      | some cs, _ => basicLines steps cs
      | none, 'u' :: a :: b :: c :: d :: cs =>
        (codePoint? [a, b, c, d]).bind fun x => prepend [x] (basicLines steps cs)
      | none, 'U' :: a :: b :: c :: d :: e :: f :: g :: h :: cs =>
        (codePoint? [a, b, c, d, e, f, g, h]).bind fun x => prepend [x] (basicLines steps cs)
      | none, e :: cs => (escaped? e).bind fun x => prepend [x] (basicLines steps cs)
      | none, [] => none
    | none, none, c :: cs => if isPrintable c then prepend [c] (basicLines steps cs) else none
    | none, none, [] => none

def literalLines : Nat → List Char → Reading (List Char)
  | 0, _ => none
  | steps + 1, cs =>
    match closing? '\x27' cs, newline? cs, cs with
    | some r, _, _ => some r
    | none, some cs, _ => prepend ['\n'] (literalLines steps cs)
    | none, none, c :: cs => if isPrintable c then prepend [c] (literalLines steps cs) else none
    | none, none, [] => none

def skipNewline (cs : List Char) : List Char :=
  (newline? cs).getD cs

def quotedLine : List Char → Reading String
  | '"' :: cs => (basicText cs).map fun (text, rest) => (String.ofList text, rest)
  | '\x27' :: cs => (literalText cs).map fun (text, rest) => (String.ofList text, rest)
  | _ => none

def quoted : List Char → Reading String
  | '"' :: '"' :: '"' :: cs =>
    let cs := skipNewline cs
    (basicLines (cs.length + 1) cs).map fun (text, rest) => (String.ofList text, rest)
  | '\x27' :: '\x27' :: '\x27' :: cs =>
    let cs := skipNewline cs
    (literalLines (cs.length + 1) cs).map fun (text, rest) => (String.ofList text, rest)
  | cs => quotedLine cs

end GovernanceLock.Toml
