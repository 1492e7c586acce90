import GovernanceLock.Json.Basic

/-!
This module contains the numbers as JSON texts write them. A numeral without fraction and exponent
whose value fits 64 bits stays an integer; every other one is a double.

A double is read from as many leading digits as fit 64 bits. They are rounded to a double once and
then scaled by powers of ten that are themselves doubles, so the result can be a neighbour of the
nearest double when there are many digits or the exponent is large.
-/

namespace GovernanceLock.Json

structure Exponent where
  negative : Bool
  digits : List Nat
  deriving DecidableEq

structure Numeral where
  negative : Bool
  whole : List Nat
  fraction : List Nat
  exponent : Option Exponent
  deriving DecidableEq

def maxWord : Nat := UInt64.size - 1

def takeDigits (n : Nat) : List Nat → Nat × Nat
  | [] => (n, 0)
  | d :: rest =>
    if n * 10 + d ≤ maxWord then
      let (m, count) := takeDigits (n * 10 + d) rest
      (m, count + 1)
    else (n, 0)

def maxPower : Nat := 308

def powerOfTen (k : Nat) : Float :=
  Float.ofScientific 1 false k

def scale (f : Float) (e : Int) : Option Float :=
  if 0 ≤ e then
    if f == 0 then some f
    else if e.toNat ≤ maxPower then
      let g := f * powerOfTen e.toNat
      if g.isInf then none else some g
    else none
  else if (-e).toNat ≤ maxPower then some (f / powerOfTen (-e).toNat)
  else if f == 0 then some f
  else scale (f / powerOfTen maxPower) (e + maxPower)
termination_by (-e).toNat
decreasing_by simp only [maxPower] at *; omega

def exponentLimit : Nat := 2147483648

def clampExponent (e : Int) : Int :=
  if e < -exponentLimit then -exponentLimit
  else if exponentLimit ≤ e then exponentLimit - 1
  else e

def digitsValue (digits : List Nat) : Nat :=
  digits.foldl (fun n d => n * 10 + d) 0

def scaled (significand : Nat) (base : Int) : Option Exponent → Option Float
  | none => scale (UInt64.ofNat significand).toFloat base
  | some x =>
    let e := digitsValue x.digits
    if exponentLimit ≤ e then if significand ≠ 0 ∧ !x.negative then none else some 0
    else
      let total := if x.negative then base - e else base + e
      scale (UInt64.ofNat significand).toFloat (clampExponent total)

def Numeral.double? (n : Numeral) : Option Float :=
  let (significand, taken) := takeDigits 0 n.whole
  let (significand, fractional) := takeDigits significand n.fraction
  let base : Int := n.whole.length - taken - fractional
  (scaled significand base n.exponent).map fun f => if n.negative then -f else f

/--
The number that a numeral stands for. A negative zero is a double, and so is an integer outside the
64-bit range; a number beyond the finite doubles is none.
-/
def Numeral.number? (n : Numeral) : Option Number :=
  let value := digitsValue n.whole
  let plain := n.fraction.isEmpty && n.exponent.isNone
  if plain && !n.negative && value ≤ maxWord then some (.integer value)
  else if plain && n.negative && value ≠ 0 && value ≤ UInt64.size / 2 then some (.integer (-value))
  else n.double?.map fun f => .double f.toBits

def digitsOf (n : Nat) : List Nat :=
  (Nat.toDigits 10 n).map fun c => c.toNat - '0'.toNat

def Numeral.ofInt (n : Int) : Numeral :=
  ⟨n < 0, digitsOf n.natAbs, [], none⟩

end GovernanceLock.Json
