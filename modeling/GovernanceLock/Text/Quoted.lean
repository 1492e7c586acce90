import GovernanceLock.Text.Unprintable

/-!
This module contains texts in quotes as messages show them: on one line, with everything visible.
-/

namespace GovernanceLock.Text

def hexDigits (n : Nat) : List Char :=
  Nat.toDigits 16 n

def codeEscape (c : Char) : List Char :=
  ['\\', 'u', '\x7b'] ++ hexDigits c.toNat ++ ['\x7d']

def quotedChar (c : Char) : List Char :=
  match c with
  | '\x00' => ['\\', '0']
  | '\t' => ['\\', 't']
  | '\r' => ['\\', 'r']
  | '\n' => ['\\', 'n']
  | '"' => ['\\', '"']
  | '\\' => ['\\', '\\']
  | c => if isUnprintable c then codeEscape c else [c]

def quoted (text : String) : String :=
  String.ofList ('"' :: text.toList.flatMap quotedChar ++ ['"'])

end GovernanceLock.Text
