/-!
This module contains the SHA-256 digest of a list of bytes.
-/

namespace GovernanceLock.Sha256

structure State where
  a : UInt32
  b : UInt32
  c : UInt32
  d : UInt32
  e : UInt32
  f : UInt32
  g : UInt32
  h : UInt32

def initial : State :=
  ⟨0x6a09e667, 0xbb67ae85, 0x3c6ef372, 0xa54ff53a, 0x510e527f, 0x9b05688c, 0x1f83d9ab, 0x5be0cd19⟩

def roundConstants : List UInt32 :=
  [0x428a2f98, 0x71374491, 0xb5c0fbcf, 0xe9b5dba5, 0x3956c25b, 0x59f111f1, 0x923f82a4, 0xab1c5ed5,
   0xd807aa98, 0x12835b01, 0x243185be, 0x550c7dc3, 0x72be5d74, 0x80deb1fe, 0x9bdc06a7, 0xc19bf174,
   0xe49b69c1, 0xefbe4786, 0x0fc19dc6, 0x240ca1cc, 0x2de92c6f, 0x4a7484aa, 0x5cb0a9dc, 0x76f988da,
   0x983e5152, 0xa831c66d, 0xb00327c8, 0xbf597fc7, 0xc6e00bf3, 0xd5a79147, 0x06ca6351, 0x14292967,
   0x27b70a85, 0x2e1b2138, 0x4d2c6dfc, 0x53380d13, 0x650a7354, 0x766a0abb, 0x81c2c92e, 0x92722c85,
   0xa2bfe8a1, 0xa81a664b, 0xc24b8b70, 0xc76c51a3, 0xd192e819, 0xd6990624, 0xf40e3585, 0x106aa070,
   0x19a4c116, 0x1e376c08, 0x2748774c, 0x34b0bcb5, 0x391c0cb3, 0x4ed8aa4a, 0x5b9cca4f, 0x682e6ff3,
   0x748f82ee, 0x78a5636f, 0x84c87814, 0x8cc70208, 0x90befffa, 0xa4506ceb, 0xbef9a3f7, 0xc67178f2]

def rotateRight (x : UInt32) (n : UInt32) : UInt32 :=
  (x >>> n) ||| (x <<< (32 - n))

def bigEndian : (count : Nat) → (n : Nat) → List UInt8
  | 0, _ => []
  | count + 1, n => UInt8.ofNat (n / Nat.pow 256 count) :: bigEndian count n

def pad (message : List UInt8) : List UInt8 :=
  let n := message.length
  message ++ 0x80 :: List.replicate ((119 - n % 64) % 64) 0 ++ bigEndian 8 (8 * n)

def words : List UInt8 → List UInt32
  | a :: b :: c :: d :: rest =>
    ((a.toUInt32 <<< 24) ||| (b.toUInt32 <<< 16) ||| (c.toUInt32 <<< 8) ||| d.toUInt32)
      :: words rest
  | _ => []

def nextWord (w w₁ w₉ w₁₄ : UInt32) : UInt32 :=
  let s₀ := rotateRight w₁ 7 ^^^ rotateRight w₁ 18 ^^^ (w₁ >>> 3)
  let s₁ := rotateRight w₁₄ 17 ^^^ rotateRight w₁₄ 19 ^^^ (w₁₄ >>> 10)
  w + s₀ + w₉ + s₁

def schedule (block : Array UInt32) : Array UInt32 :=
  (List.range 48).foldl
    (fun w i => w.push
      (nextWord (w.getD i 0) (w.getD (i + 1) 0) (w.getD (i + 9) 0) (w.getD (i + 14) 0)))
    block

def round (s : State) (k w : UInt32) : State :=
  let s₁ := rotateRight s.e 6 ^^^ rotateRight s.e 11 ^^^ rotateRight s.e 25
  let choice := (s.e &&& s.f) ^^^ (~~~s.e &&& s.g)
  let t₁ := s.h + s₁ + choice + k + w
  let s₀ := rotateRight s.a 2 ^^^ rotateRight s.a 13 ^^^ rotateRight s.a 22
  let majority := (s.a &&& s.b) ^^^ (s.a &&& s.c) ^^^ (s.b &&& s.c)
  ⟨t₁ + (s₀ + majority), s.a, s.b, s.c, s.d + t₁, s.e, s.f, s.g⟩

def compress (s : State) (block : Array UInt32) : State :=
  let t := (roundConstants.zip (schedule block).toList).foldl (fun t kw => round t kw.1 kw.2) s
  ⟨s.a + t.a, s.b + t.b, s.c + t.c, s.d + t.d, s.e + t.e, s.f + t.f, s.g + t.g, s.h + t.h⟩

def absorb (s : State) (pending : Array UInt32) : List UInt32 → State
  | [] => s
  | w :: rest =>
    let pending := pending.push w
    if pending.size = 16 then absorb (compress s pending) #[] rest else absorb s pending rest

def digestWords (message : List UInt8) : List UInt32 :=
  let s := absorb initial #[] (words (pad message))
  [s.a, s.b, s.c, s.d, s.e, s.f, s.g, s.h]

def hexWord (w : UInt32) : List Char :=
  let digits := Nat.toDigits 16 w.toNat
  List.replicate (8 - digits.length) '0' ++ digits

/--
The digest of `message` as sixty-four lowercase hexadecimal digits.
-/
def hex (message : List UInt8) : String :=
  String.ofList ((digestWords message).flatMap hexWord)

end GovernanceLock.Sha256
