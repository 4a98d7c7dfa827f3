import Hyperparams.Decimal.Digits
import Hyperparams.Decimal.Nearest

/-!
# Decimal literals

The grammar of a number on the command line: an optional sign, digits with at most one point and at
least one digit, and an optional exponent. A literal without point and exponent is an integer
literal.
-/

namespace Hyperparams.Decimal

/-- A decimal literal taken apart. -/
structure Literal where
  negative : Bool
  /-- Digits before the point. -/
  whole : List Char
  /-- Digits after the point, if there is one. -/
  fraction : Option (List Char)
  /-- Sign and digits of the exponent, if there is one. -/
  exponent : Option (Bool × List Char)
deriving DecidableEq, Repr

/-- Split an optional sign off; the flag says whether it was a minus. -/
def splitSign : List Char → Bool × List Char
  | '-' :: rest => (true, rest)
  | '+' :: rest => (false, rest)
  | rest => (false, rest)

/-- The exponent part: nothing, or `e` or `E` with an optional sign and digits. -/
def Literal.readExponent? : List Char → Option (Option (Bool × List Char))
  | [] => some none
  | mark :: rest =>
    let (negative, digits) := splitSign rest
    if (mark == 'e' || mark == 'E') && isDigits digits then some (some (negative, digits))
    else none

def Literal.read? (cs : List Char) : Option Literal := do
  let (negative, rest) := splitSign cs
  let whole := rest.takeWhile Char.isDigit
  let rest := rest.dropWhile Char.isDigit
  let (fraction, rest) := match rest with
    | '.' :: rest => (some (rest.takeWhile Char.isDigit), rest.dropWhile Char.isDigit)
    | rest => (none, rest)
  guard !(whole ++ fraction.getD []).isEmpty
  let exponent ← readExponent? rest
  return { negative, whole, fraction, exponent }

/-- A literal without point and exponent. -/
def Literal.isInteger (l : Literal) : Bool :=
  l.fraction.isNone && l.exponent.isNone

/-- The magnitude from which on further digits of an exponent are ignored. -/
def Literal.exponentLimit : Nat := 65536

/-- The magnitude of a written exponent. Its digits count until the limit is reached, so that
`655360` stands for 65536. -/
def Literal.exponentMagnitude (digits : List Char) : Nat :=
  digits.foldl (fun n c => if n < exponentLimit then 10 * n + digit c else n) 0

def Literal.exponentValue (l : Literal) : Int :=
  match l.exponent with
  | none => 0
  | some (negative, digits) =>
    let n := exponentMagnitude digits
    if negative then -(n : Int) else n

/-- How many leading digits can decide the nearest double; of the digits behind them it only
matters whether all are zero. -/
def Literal.decisiveDigits : Nat := 800

def Literal.toFloat (l : Literal) : Float :=
  let fraction := l.fraction.getD []
  let digits := (l.whole ++ fraction).dropWhile (· == '0')
  let place := l.exponentValue - fraction.length
  let rest := digits.drop decisiveDigits
  if rest.isEmpty then Decimal.toFloat l.negative (ofDigits digits) place
  else
    let tail := if rest.all (· == '0') then 0 else 1
    Decimal.toFloat l.negative (10 * ofDigits (digits.take decisiveDigits) + tail)
      (place + rest.length - 1)

def Literal.toInt64? (l : Literal) : Option Int64 :=
  let limit := if l.negative then Nat.pow 2 63 else Nat.pow 2 63 - 1
  (ofDigitsUpTo limit l.whole).map fun n =>
    Int64.ofInt (if l.negative then -(n : Int) else n)

end Hyperparams.Decimal
