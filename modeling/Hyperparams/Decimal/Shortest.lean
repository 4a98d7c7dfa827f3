import Hyperparams.Decimal.Digits
import Hyperparams.Decimal.Nearest

/-!
# The shortest decimal that reads back

A finite double is written with the fewest significant digits whose nearest double it is. For one,
two, up to seventeen digits the two neighbours of the double on that decimal grid are read back;
the first grid with a hit wins, and of two hits the nearer one. The exact decimal expansion stands
behind the search.
-/

namespace Hyperparams.Decimal

/-- Which of two equally near decimals is written. -/
inductive Tie where
  | up
  | toEven
deriving DecidableEq, Repr

/-- A positive decimal in scientific form: the digits after the first stand behind the point. -/
structure Scientific where
  digits : List Char
  exponent : Int
deriving DecidableEq, Repr

/-- The scientific form of `m * 10 ^ place`, without trailing zeros. -/
def Scientific.ofPlace (m : Nat) (place : Int) : Scientific :=
  let ds := toDigits m
  { digits := (ds.reverse.dropWhile (· == '0')).reverse
    exponent := place + ds.length - 1 }

def unpack (bits : Nat) : Nat × Int :=
  let field : Nat := bits / Nat.pow 2 52
  let fraction : Nat := bits % Nat.pow 2 52
  if field = 0 then (fraction, -1074) else (Nat.pow 2 52 + fraction, (field : Int) - 1075)

def quotient (bits : Nat) : Nat × Nat :=
  let (m, q) := unpack bits
  (m * Nat.pow 2 q.toNat, Nat.pow 2 (-q).toNat)

/-- The exponent `k` with `10 ^ k ≤ num / den < 10 ^ (k + 1)`. -/
def decimalExponent (num den : Nat) : Int :=
  if den ≤ num then ((toDigits (num / den)).length : Int) - 1
  else -((toDigits ((den - 1) / num)).length : Int)

/-- The nearer of the two neighbours `low` and `low + 1` of `low + rest / den`. -/
def nearer (tie : Tie) (low rest den : Nat) : Nat :=
  if 2 * rest < den then low
  else if den < 2 * rest then low + 1
  else match tie with
    | .up => low + 1
    | .toEven => if low % 2 = 0 then low else low + 1

/-- The neighbour of a double among the multiples of `10 ^ place` that reads back, if one does; the
nearer neighbour is asked first. -/
def candidate (tie : Tie) (bits : Nat) (place : Int) : Option Nat :=
  let (num, den) := quotient bits
  let num := num * Nat.pow 10 (-place).toNat
  let den := den * Nat.pow 10 place.toNat
  let low := num / den
  let near := nearer tie low (num % den) den
  [near, 2 * low + 1 - near].find? fun m => nearest m place = bits

def exact (bits : Nat) : Nat × Int :=
  let (m, q) := unpack bits
  if q < 0 then (m * Nat.pow 5 (-q).toNat, q) else (m * Nat.pow 2 q.toNat, 0)

/-- The decimal chosen for a positive finite double, as `m * 10 ^ place`. -/
def shortestPlace (tie : Tie) (bits : Nat) : Nat × Int :=
  let (num, den) := quotient bits
  let lead := decimalExponent num den
  let found := (List.range 17).findSome? fun (n : Nat) =>
    let place := lead - n
    (candidate tie bits place).map fun m => (m, place)
  found.getD (exact bits)

def shortest (tie : Tie) (bits : Nat) : Scientific :=
  let (m, place) := shortestPlace tie bits
  .ofPlace m place

/-- A neighbour is chosen only if it reads back. -/
theorem nearest_of_candidate {tie : Tie} {bits m : Nat} {place : Int}
    (h : candidate tie bits place = some m) : nearest m place = bits := by
  have hfound := List.find?_some h
  exact of_decide_eq_true hfound

end Hyperparams.Decimal
