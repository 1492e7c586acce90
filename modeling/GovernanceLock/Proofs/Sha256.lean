import GovernanceLock.Manifest.Basic
import GovernanceLock.Proofs.Json.Reader.Text

/-!
This module contains the proof that a digest in hexadecimal digits tells all of its words. So two
texts have the same digest iff they are the same, as long as their SHA-256 values do not collide.
-/

namespace GovernanceLock

namespace Sha256

open Json (hexDigit)
open Json.Reader (hexDigit? hexDigit?_hexDigit)

def hexValue (cs : List Char) : Nat :=
  cs.foldl (fun n c => n * 16 + (hexDigit? c).getD 0) 0

theorem hexValue_concat (cs : List Char) {d : Nat} (hd : d < 16) :
    hexValue (cs ++ [Nat.digitChar d]) = hexValue cs * 16 + d := by
  have hdigit : hexDigit? (Nat.digitChar d) = some d := hexDigit?_hexDigit hd
  unfold hexValue
  rw [List.foldl_append, List.foldl_cons, List.foldl_nil, hdigit, Option.getD_some]

theorem hexValue_toDigits (n : Nat) : hexValue (Nat.toDigits 16 n) = n := by
  induction n using Nat.strongRecOn with
  | ind n ih =>
    rw [Nat.toDigits_eq_if (by decide)]
    split
    · next hlt =>
      have := hexValue_concat [] hlt
      rw [List.nil_append] at this
      rw [this]
      exact Nat.zero_add n
    · next hle =>
      rw [hexValue_concat _ (Nat.mod_lt n (by decide)), ih (n / 16) (by omega)]
      omega

theorem hexValue_zeros (k : Nat) (cs : List Char) :
    hexValue (List.replicate k '0' ++ cs) = hexValue cs := by
  induction k with
  | zero => rfl
  | succ k ih =>
    rw [← ih]
    rfl

theorem hexWord_inj {w v : UInt32} : hexWord w = hexWord v ↔ w = v := by
  constructor
  · intro h
    have hvalue := congrArg hexValue h
    unfold hexWord at hvalue
    rw [hexValue_zeros, hexValue_zeros, hexValue_toDigits, hexValue_toDigits] at hvalue
    exact UInt32.toNat_inj.1 hvalue
  · rintro rfl
    rfl

theorem length_hexWord (w : UInt32) : (hexWord w).length = 8 := by
  have hlength : (Nat.toDigits 16 w.toNat).length ≤ 8 := by
    rw [Nat.length_toDigits_le_iff (by decide) (by decide)]
    exact w.toNat_lt
  unfold hexWord
  rw [List.length_append, List.length_replicate, Nat.sub_add_cancel hlength]

theorem flatMap_hexWord_inj {ws vs : List UInt32} (hlength : ws.length = vs.length) :
    ws.flatMap hexWord = vs.flatMap hexWord ↔ ws = vs := by
  constructor
  · intro h
    induction ws generalizing vs with
    | nil => exact (List.length_eq_zero_iff.1 hlength.symm).symm
    | cons w ws ih =>
      cases vs with
      | nil => cases hlength
      | cons v vs =>
        rw [List.flatMap_cons, List.flatMap_cons] at h
        rcases List.append_inj h (by rw [length_hexWord, length_hexWord]) with ⟨hword, hrest⟩
        rw [hexWord_inj.1 hword, ih (Nat.succ.inj hlength) hrest]
  · rintro rfl
    rfl

/--
Messages have the same digest in hexadecimal digits iff they have the same SHA-256 value.
-/
theorem hex_inj {a b : List UInt8} : hex a = hex b ↔ digestWords a = digestWords b := by
  have hlength : (digestWords a).length = (digestWords b).length := rfl
  unfold hex
  rw [String.ofList_inj, flatMap_hexWord_inj hlength]

/--
The SHA-256 values of two texts do not collide: they are equal only if the texts are.
-/
def CollisionFree (s t : String) : Prop :=
  digestWords s.toUTF8.toList = digestWords t.toUTF8.toList → s = t

theorem CollisionFree.of_hex_ne {s t : String}
    (h : hex s.toUTF8.toList ≠ hex t.toUTF8.toList) : CollisionFree s t := by
  intro heq
  exact absurd (hex_inj.2 heq) h

end Sha256

theorem Digest.ofText_eq_iff {s t : String} (hfree : Sha256.CollisionFree s t) :
    Digest.ofText s = Digest.ofText t ↔ s = t := by
  constructor
  · intro h
    exact hfree (Sha256.hex_inj.1 h)
  · rintro rfl
    rfl

end GovernanceLock
