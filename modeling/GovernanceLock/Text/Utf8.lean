/-!
This module contains the reading of bytes as text: strictly, where one byte outside the encoding
refuses the whole, and leniently, where each stretch that is no character is read as U+FFFD.
-/

namespace GovernanceLock.Text

def ofUtf8? (bytes : ByteArray) : Option String :=
  String.fromUTF8? bytes

theorem ofUtf8?_toUTF8 (s : String) : ofUtf8? s.toUTF8 = some s := by
  have h : s.toUTF8.IsValidUTF8 := s.isValidUTF8
  rw [ofUtf8?, String.fromUTF8?, dif_pos h]
  rfl

def replacement : Char := '\uFFFD'

def isContinuation (b : UInt8) : Bool :=
  0x80 ≤ b && b ≤ 0xBF

def continues (a b : UInt8) : Bool :=
  if a < 0xC2 then false
  else if a < 0xE0 then isContinuation b
  else if a == 0xE0 then 0xA0 ≤ b && b ≤ 0xBF
  else if a == 0xED then 0x80 ≤ b && b ≤ 0x9F
  else if a < 0xF0 then isContinuation b
  else if a == 0xF0 then 0x90 ≤ b && b ≤ 0xBF
  else if a < 0xF4 then isContinuation b
  else if a == 0xF4 then 0x80 ≤ b && b ≤ 0x8F
  else false

def assemble (lead : Nat) (rest : List UInt8) : Char :=
  Char.ofNat (rest.foldl (fun n b => n * 64 + b.toNat % 64) lead)

/--
Read bytes leniently: every longest stretch that starts like a character without being one, and
every byte that starts none, becomes one `replacement`.
-/
def ofUtf8Lossy : List UInt8 → List Char
  | [] => []
  | a :: r =>
    if a < 0x80 then Char.ofNat a.toNat :: ofUtf8Lossy r
    else
      match r with
      | [] => [replacement]
      | b :: r₁ =>
        if !continues a b then replacement :: ofUtf8Lossy (b :: r₁)
        else if a < 0xE0 then assemble (a.toNat % 32) [b] :: ofUtf8Lossy r₁
        else
          match r₁ with
          | [] => [replacement]
          | c :: r₂ =>
            if !isContinuation c then replacement :: ofUtf8Lossy (c :: r₂)
            else if a < 0xF0 then assemble (a.toNat % 16) [b, c] :: ofUtf8Lossy r₂
            else
              match r₂ with
              | [] => [replacement]
              | d :: r₃ =>
                if !isContinuation d then replacement :: ofUtf8Lossy (d :: r₃)
                else assemble (a.toNat % 8) [b, c, d] :: ofUtf8Lossy r₃

def decodeLossy (bytes : ByteArray) : String :=
  match ofUtf8? bytes with
  | some s => s
  | none => String.ofList (ofUtf8Lossy bytes.toList)

end GovernanceLock.Text
