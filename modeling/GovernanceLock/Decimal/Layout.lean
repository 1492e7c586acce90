import GovernanceLock.Decimal.Shortest

/-!
This module contains the layout of decimals as text: where positional notation ends and how the
exponent of the scientific notation is written.
-/

namespace GovernanceLock.Decimal

/--
The choices that fix the text of a decimal `d.ddd * 10 ^ e`.
-/
structure Layout where
  /-- The least `e` written positionally. -/
  leastPlain : Int
  /-- The greatest `e` written positionally. -/
  greatestPlain : Int
  /-- What stands after the digits of an integral number in positional notation. -/
  integralEnd : List Char
  /-- What stands between the digits and the digits of a positive exponent. -/
  positiveMark : List Char
  /-- What stands between the digits and the digits of a negative exponent. -/
  negativeMark : List Char

def natDigits (n : Nat) : List Char :=
  Nat.toDigits 10 n

def Layout.place (layout : Layout) (x : Scaled) : List Char :=
  let digits := natDigits x.digits
  let count := digits.length
  let e : Int := x.exponent + count - 1
  if layout.leastPlain ≤ e ∧ e ≤ layout.greatestPlain then
    if e < 0 then '0' :: '.' :: List.replicate (-e - 1).toNat '0' ++ digits
    else
      let whole := e.toNat + 1
      if count ≤ whole then digits ++ List.replicate (whole - count) '0' ++ layout.integralEnd
      else digits.take whole ++ '.' :: digits.drop whole
  else
    let fraction := digits.drop 1
    let mark := if 0 ≤ e then layout.positiveMark else layout.negativeMark
    digits.take 1 ++ (if fraction.isEmpty then [] else '.' :: fraction) ++ mark
      ++ natDigits e.natAbs

def Layout.double (layout : Layout) (bits : UInt64) : List Char :=
  let sign := if bits.toNat / (UInt64.size / 2) = 1 then ['-'] else []
  let magnitude := UInt64.ofNat (bits.toNat % (UInt64.size / 2))
  sign ++ if magnitude = 0 then '0' :: layout.integralEnd else layout.place (shortest magnitude)

end GovernanceLock.Decimal
