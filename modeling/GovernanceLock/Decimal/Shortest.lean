/-!
This module contains the shortest decimal of a double: the fewest digits that read back as the same
double, the nearest such decimal to its value, the even one of two that are equally near.

A positive double is `m * 2 ^ q`, and the reals that round to it form an interval whose ends belong
to it iff `m` is even. A grid of decimals with spacing `10 ^ k` has a point in that interval iff one
of the two grid points next to the value lies in it, so only those are tried, from the coarsest grid
to the finest.
-/

namespace GovernanceLock.Decimal

structure Scaled where
  digits : Nat
  exponent : Int
  deriving DecidableEq

structure Ratio where
  num : Nat
  den : Nat

def Ratio.scale (n b : Nat) (e : Int) : Ratio :=
  if 0 ≤ e then ⟨n * Nat.pow b e.toNat, 1⟩ else ⟨n, Nat.pow b (-e).toNat⟩

def Ratio.le (x y : Ratio) : Bool :=
  x.num * y.den ≤ y.num * x.den

def Ratio.lt (x y : Ratio) : Bool :=
  x.num * y.den < y.num * x.den

/--
A positive finite double with the reals that round to it.
-/
structure Rounding where
  value : Ratio
  low : Ratio
  high : Ratio
  closed : Bool

def fractionSize : Nat := 4503599627370496

def significand (bits : UInt64) : Nat × Int :=
  let field : Nat := (bits.toNat / fractionSize) % 2048
  let fraction : Nat := bits.toNat % fractionSize
  if field = 0 then (fraction, -1074) else (fractionSize + fraction, (field : Int) - 1075)

/--
Half a step lies between a double and the middle to its upper neighbour, and half a step below it
too, unless it is the first of its binade, where the lower step is half as long.
-/
def Rounding.ofBits (bits : UInt64) : Rounding :=
  let (m, q) := significand bits
  let field := (bits.toNat / fractionSize) % 2048
  let below := if m = fractionSize ∧ 1 < field then 1 else 2
  { value := .scale (4 * m) 2 (q - 2)
    low := .scale (4 * m - below) 2 (q - 2)
    high := .scale (4 * m + 2) 2 (q - 2)
    closed := m % 2 = 0 }

def Rounding.admits (r : Rounding) (x : Ratio) : Bool :=
  if r.closed then r.low.le x && x.le r.high else r.low.lt x && x.lt r.high

def Ratio.floorAt (x : Ratio) (k : Int) : Nat :=
  if 0 ≤ k then x.num / (x.den * Nat.pow 10 k.toNat)
  else x.num * Nat.pow 10 (-k).toNat / x.den

def Ratio.magnitude (x : Ratio) : Int :=
  let guess : Int := (Nat.toDigits 10 x.num).length - (Nat.toDigits 10 x.den).length
  if (Ratio.scale 1 10 guess).le x then guess else guess - 1

def Rounding.pick (r : Rounding) (a : Nat) (k : Int) : Option Nat :=
  let lower := Ratio.scale a 10 k
  let upper := Ratio.scale (a + 1) 10 k
  match r.admits lower, r.admits upper with
  | false, false => none
  | true, false => some a
  | false, true => some (a + 1)
  | true, true =>
    let middle := Ratio.scale (10 * a + 5) 10 (k - 1)
    if r.value.lt middle then some a
    else if middle.lt r.value then some (a + 1)
    else some (if a % 2 = 0 then a else a + 1)

def Rounding.search (r : Rounding) (top : Int) : (count : Nat) → (width : Nat) → Scaled
  | 0, width =>
    let k := top - width + 1
    ⟨r.value.floorAt k, k⟩
  | count + 1, width =>
    let k := top - width + 1
    match r.pick (r.value.floorAt k) k with
    | some d => ⟨d, k⟩
    | none => r.search top count (width + 1)

def Scaled.trim (x : Scaled) : Scaled :=
  if x.digits ≠ 0 ∧ x.digits % 10 = 0 then trim ⟨x.digits / 10, x.exponent + 1⟩ else x
termination_by x.digits
decreasing_by omega

/--
The shortest decimal of the positive finite double with these bits; seventeen digits always suffice.
-/
def shortest (bits : UInt64) : Scaled :=
  let r := Rounding.ofBits bits
  (r.search r.value.magnitude 17 1).trim

end GovernanceLock.Decimal
