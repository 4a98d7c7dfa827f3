import Hyperparams.Decimal.Shortest

/-!
# Layouts of decimals

A layout says how the shortest decimal of a double is spelled: which magnitudes are written
positionally, whether a whole number keeps a point, how an exponent is signed, and the words for
values that are no numbers.
-/

namespace Hyperparams.Decimal

/-- How doubles are spelled. -/
structure Layout where
  /-- Exponents of the first digit that are written positionally. -/
  positional : Int → Bool
  /-- A whole number written positionally ends in `.0`. -/
  point : Bool
  /-- A non-negative exponent is written with a plus sign. -/
  plus : Bool
  tie : Tie
  notANumber : String
  infinity : String

/-- Digits around a decimal point, for a first digit of weight `10 ^ exponent`. -/
def Scientific.positional (s : Scientific) (point : Bool) : List Char :=
  if s.exponent < 0 then
    '0' :: '.' :: (List.replicate (-s.exponent - 1).toNat '0' ++ s.digits)
  else
    let whole := s.exponent.toNat + 1
    if s.digits.length ≤ whole then
      s.digits ++ List.replicate (whole - s.digits.length) '0' ++
        (if point then ['.', '0'] else [])
    else s.digits.take whole ++ '.' :: s.digits.drop whole

/-- One digit before the point and an exponent behind. -/
def Scientific.exponential (s : Scientific) (plus : Bool) : List Char :=
  let rest := s.digits.drop 1
  let sign := if s.exponent < 0 then ['-'] else if plus then ['+'] else []
  s.digits.take 1 ++ (if rest.isEmpty then [] else '.' :: rest) ++
    'e' :: (sign ++ toDigits s.exponent.natAbs)

def Layout.finite (l : Layout) (bits : Nat) : List Char :=
  if bits = 0 then if l.point then ['0', '.', '0'] else ['0']
  else
    let s := shortest l.tie bits
    if l.positional s.exponent then s.positional l.point else s.exponential l.plus

def Layout.write (l : Layout) (x : Float) : String :=
  let bits := magnitude x
  let sign := if isNegative x then ['-'] else []
  if infinityBits < bits then l.notANumber
  else if bits = infinityBits then String.ofList (sign ++ l.infinity.toList)
  else String.ofList (sign ++ l.finite bits)

/-- Exponents from -4 to 15 are positional and a whole number keeps `.0`, so that the text of a
float always reads as a float. -/
def plainLayout : Layout where
  positional k := -4 ≤ k && k < 16
  point := true
  plus := false
  tie := .up
  notANumber := "NaN"
  infinity := "inf"

/-- Every number is written out, without a point where none is needed. -/
def fullLayout : Layout where
  positional _ := true
  point := false
  plus := false
  tie := .up
  notANumber := "NaN"
  infinity := "inf"

end Hyperparams.Decimal
