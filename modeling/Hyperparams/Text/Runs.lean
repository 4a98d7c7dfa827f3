import Hyperparams.Decimal.Digits
import Hyperparams.Text.Pieces

/-!
# Runs of code points

Tables over the code space, told by the lengths of runs. `Runs` gives every run a label; an
ascending table of the points at which membership changes gives a set.
-/

namespace Hyperparams.Text

/-- How many entries of an ascending table are at most `n`, searched between two positions. -/
def countUpTo (table : Array Nat) (n low high : Nat) : Nat :=
  if low < high then
    let middle := (low + high) / 2
    if table.getD middle 0 ≤ n then countUpTo table n (middle + 1) high
    else countUpTo table n low middle
  else low
termination_by high - low

/-- Whether a code point is in the set that changes at the points of a table; the code points in
front of the first one are not. -/
def inTable (table : Array Nat) (n : Nat) : Bool :=
  countUpTo table n 0 table.size % 2 == 1

/-- The words of some rows, separated by blanks. -/
def rowWords (rows : List String) : List (List Char) :=
  rows.flatMap fun row => pieces ' ' row.toList

/-- The sums of the first numbers of a list: of one, of two, and so on, onto a first summand. -/
def partialSums (first : Nat) : List Nat → List Nat
  | [] => []
  | n :: rest => (first + n) :: partialSums (first + n) rest

/-- A table from rows of lengths: of a gap, of a run, of a gap, and so on. -/
def tableOfRows (rows : List String) : Array Nat :=
  (partialSums 0 ((rowWords rows).map Decimal.ofDigits)).toArray

/-- Runs that fill the code space from 0 on: where each begins, and its label. -/
structure Runs (α : Type) where
  starts : Array Nat
  labels : Array α

namespace Runs

variable {α : Type}

/-- Runs from rows of names with lengths, such as `Lu26`. -/
def ofRows (label : String → α) (rows : List String) : Runs α :=
  let words := rowWords rows
  let lengths := words.map fun word => Decimal.ofDigits (word.dropWhile (!·.isDigit))
  { starts := (0 :: partialSums 0 lengths).toArray
    labels := (words.map fun word => label (String.ofList (word.takeWhile (!·.isDigit)))).toArray }

def at? (r : Runs α) (n : Nat) : Option α :=
  r.labels[countUpTo r.starts n 0 r.starts.size - 1]?

end Runs

end Hyperparams.Text
