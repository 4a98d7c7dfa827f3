/-!
# The double nearest to a decimal

A decimal `m * 10 ^ e` is rounded once, in exact arithmetic, to the nearest double; a tie goes to
the even significand, and a magnitude past the largest double becomes an infinity. Doubles are
handled through their bit patterns, which order the magnitudes.
-/

namespace Hyperparams.Decimal

/-- The magnitude bits of an infinite double; larger patterns are not numbers. -/
def infinityBits : Nat := 0x7FF0000000000000

def signBit : Nat := 0x8000000000000000

/-- A quotient rounded to the nearest natural number, a tie to the even one. -/
def roundDiv (num den : Nat) : Nat :=
  let low := num / den
  let rest := num % den
  if 2 * rest < den then low
  else if den < 2 * rest then low + 1
  else if low % 2 = 0 then low else low + 1

/-- The exponent `a` with `2 ^ a ≤ num / den < 2 ^ (a + 1)`. -/
def binaryExponent (num den : Nat) : Int :=
  let a : Int := (num.log2 : Int) - den.log2
  if den * Nat.pow 2 a.toNat ≤ num * Nat.pow 2 (-a).toNat then a else a - 1

/-- Magnitude bits of the double nearest to a quotient. The significand is an integer multiple of
the unit `2 ^ q`; counting units from the smallest subnormal on makes a carry move into the
exponent field. -/
def nearestQuotient (num den : Nat) : Nat :=
  if num = 0 then 0
  else
    let q : Int := max (binaryExponent num den - 52) (-1074)
    let units := roundDiv (num * Nat.pow 2 (-q).toNat) (den * Nat.pow 2 q.toNat)
    min ((q + 1074).toNat * Nat.pow 2 52 + units) infinityBits

/-- Magnitude bits of the double nearest to `m * 10 ^ e`. The first two cases decide magnitudes
that are far out of range without computing the power. -/
def nearest (m : Nat) (e : Int) : Nat :=
  if m = 0 ∨ (m.log2 : Int) + 1 + 3 * e < -1080 then 0
  else if 310 < e then infinityBits
  else nearestQuotient (m * Nat.pow 10 e.toNat) (Nat.pow 10 (-e).toNat)

def ofMagnitude (negative : Bool) (bits : Nat) : Float :=
  Float.ofBits (UInt64.ofNat (if negative then signBit + bits else bits))

def toFloat (negative : Bool) (m : Nat) (e : Int) : Float :=
  ofMagnitude negative (nearest m e)

def ofInt (n : Int) : Float :=
  toFloat (n < 0) n.natAbs 0

/-- Whether the sign bit of a double is set; true of `-0.0`. -/
def isNegative (x : Float) : Bool :=
  signBit ≤ x.toBits.toNat

def magnitude (x : Float) : Nat :=
  x.toBits.toNat % signBit

end Hyperparams.Decimal
