import GovernanceLock.Text.Ascii
import GovernanceLock.Text.Blank

/-!
This module contains the rules for single lines of an artifact. Each looks at the line behind its
leading blanks and answers what it found: a shell sigil, a key that asks for execution, or the
language tag of a code fence. The parts of a line that the rules tell apart cannot start with the
same character, so there is never more than one way to read it.
-/

namespace GovernanceLock.Screening

open Text (asciiLower isAsciiDigit isAsciiLetter isBlank trimStart)

def after? : (start text : List Char) → Option (List Char)
  | [], text => some text
  | _ :: _, [] => none
  | s :: start, c :: text => if s = c then after? start text else none

/--
The sigil that a line without leading blanks starts with: `$` alone or before a space, `#!`, or `!`
before an ASCII letter or digit, since `![` opens an image.
-/
def sigilOf : List Char → Option String
  | ['$'] => some "$"
  | '$' :: ' ' :: _ => some "$"
  | '#' :: '!' :: _ => some "#!"
  | '!' :: c :: _ => if isAsciiLetter c || isAsciiDigit c then some "!" else none
  | _ => none

def shellSigil (line : List Char) : Option String :=
  sigilOf (trimStart line)

def executionKeys : List String := ["exec", "run", "shell"]

def skipListMark : List Char → List Char
  | '-' :: c :: rest => if isBlank c then trimStart rest else '-' :: c :: rest
  | cs => cs

def isKeyOf (text : List Char) (key : String) : Bool :=
  match after? key.toList text with
  | some rest => (trimStart rest).head? == some ':'
  | none => false

def executionKey (line : List Char) : Option String :=
  executionKeys.find? (isKeyOf (skipListMark (trimStart line)))

def backtick : Char := Char.ofNat 96

def afterFence? (mark : Char) (cs : List Char) : Option (List Char) :=
  (after? (List.replicate 3 mark) cs).map fun rest => rest.dropWhile (· == mark)

def skipMark (mark : Char) (cs : List Char) : List Char :=
  (after? [mark] cs).getD cs

def isTagChar (c : Char) : Bool :=
  isAsciiLetter c || isAsciiDigit c || c == '_' || c == '+' || c == '-'

def tagOf (cs : List Char) : Option String :=
  let tag := (skipMark '.' (trimStart (skipMark '\x7b' (trimStart cs)))).takeWhile isTagChar
  if tag.isEmpty then none else some (String.ofList (tag.map asciiLower))

def fenceTag (line : List Char) : Option String :=
  let cs := trimStart line
  ((afterFence? backtick cs).or (afterFence? '~' cs)).bind tagOf

def shellLanguages : List String :=
  ["sh", "bash", "zsh", "fish", "shell", "console", "shell-session", "powershell", "pwsh", "ps1",
   "cmd", "bat"]

def shellFence (line : List Char) : Option String :=
  (fenceTag line).filter (· ∈ shellLanguages)

end GovernanceLock.Screening
