import Hyperparams.Pattern.Basic

/-!
# Weights of patterns

The weight of a pattern is the memory, in bytes, of an automaton that reads texts as UTF-8 from back
to front and has the repetitions of the pattern written out. Patterns above a limit are refused.
-/

namespace Hyperparams.Pattern

/-! ### Sets as ranges -/

def codeSpace : Nat := 0x110000

/-- Points of which one lies at every place where membership in a set changes. -/
def CharSet.changes : CharSet → List Nat
  | range low high => [low.toNat, high.toNat + 1]
  | categories _ => Text.Category.runs.starts.toList
  | property p => Text.Category.runs.starts.toList ++ p.exceptions.toList
  | script _ => Text.Script.runs.starts.toList
  | union s t => s.changes ++ t.changes
  | intersection s t => s.changes ++ t.changes
  | complement s => s.changes
  | caseless s => s.changes ++ Text.casedCodes.flatMap fun n => [n, n + 1]
  | asciiCaseless s => s.changes ++ (List.range 128)

/-- Join ranges of which each begins where the one before it ends. -/
def joinRanges : List (Nat × Nat) → List (Nat × Nat)
  | [] => []
  | (low, high) :: rest =>
    match joinRanges rest with
    | (low', high') :: others =>
      if low' = high then (low, high') :: others else (low, high) :: (low', high') :: others
    | [] => [(low, high)]

/-- The ranges of the members of a set, each as its first code point and the one behind its last. -/
def CharSet.ranges (s : CharSet) : List (Nat × Nat) :=
  let points := ([0, 0xD800, 0xE000, codeSpace] ++ s.changes).mergeSort
  joinRanges <| (points.zip points.tail).filter fun (low, high) =>
    low < high && high ≤ codeSpace && !(0xD800 ≤ low && low < 0xE000) &&
      s.contains (Char.ofNat low)

/-! ### Ranges as bytes -/

/-- Where a range of code points has to be cut, so that each of its bytes in UTF-8 is independent of
the others. -/
def cutOf? (low high : Nat) : Option Nat :=
  let last := high - 1
  match [0x80, 0x800, 0x10000].find? fun n => low < n && n ≤ last with
  | some cut => some cut
  | none =>
    if last < 0x80 then none
    else [64, 4096, 262144].findSome? fun block =>
      if low / block = last / block then none
      else if low % block ≠ 0 then some ((low / block + 1) * block)
      else if high % block ≠ 0 then some (last / block * block)
      else none

def cutRange : Nat → Nat → Nat → List (Nat × Nat)
  | 0, low, high => [(low, high)]
  | fuel + 1, low, high =>
    match cutOf? low high with
    | some cut => cutRange fuel low cut ++ cutRange fuel cut high
    | none => [(low, high)]

def bytesOf (n : Nat) : List Nat :=
  if n < 0x80 then [n]
  else if n < 0x800 then [0xC0 + n / 64, 0x80 + n % 64]
  else if n < 0x10000 then [0xE0 + n / 4096, 0x80 + n / 64 % 64, 0x80 + n % 64]
  else [0xF0 + n / 262144, 0x80 + n / 4096 % 64, 0x80 + n / 64 % 64, 0x80 + n % 64]

/-- How many entries a list has in front of its first difference from another one. -/
def commonLength {α : Type} [DecidableEq α] : List α → List α → Nat
  | a :: as, b :: bs => if a = b then commonLength as bs + 1 else 0
  | _, _ => 0

/-- How many different beginnings some lists have, where equal beginnings follow each other. -/
def countBeginnings {α : Type} [DecidableEq α] : (last : List α) → List (List α) → Nat
  | _, [] => 0
  | last, l :: rest => (l.length - commonLength last l) + countBeginnings l rest

/-! ### Weights -/

def stateWeight : Nat := 32

/-- The weight of a set of ranges: for ASCII that of a table, for anything else that of a tree with
a branch for each sequence of ranges of bytes. -/
def rangesWeight (ranges : List (Nat × Nat)) : Nat :=
  if ranges.all (·.2 ≤ 0x80) then 2 * stateWeight + 8 * ranges.length
  else
    let branches := (ranges.flatMap fun (low, high) => cutRange 32 low high).map
      fun (low, high) => (bytesOf low).zip (bytesOf (high - 1))
    stateWeight * (countBeginnings [] branches + 2) + 4 * branches.length

/-- The weight of a set. A single character is read as its bytes. -/
def CharSet.weight (s : CharSet) : Nat :=
  match s.ranges with
  | [] => stateWeight
  | [(low, high)] =>
    if high = low + 1 then stateWeight * (bytesOf low).length else rangesWeight [(low, high)]
  | ranges => rangesWeight ranges

def choiceWeight (branches : Nat) : Nat :=
  stateWeight + 4 * branches

/-- Whether a pattern can describe more than the empty text. -/
def isConsuming : Pattern → Bool
  | empty => false
  | one _ => true
  | look _ => false
  | append p q => p.isConsuming || q.isConsuming
  | either p q => p.isConsuming || q.isConsuming
  | times p _ _ => p.isConsuming
  | captured p => p.isConsuming

/-- The weight of a pattern. What reads no character is not written out more than once. -/
def weight : Pattern → Nat
  | empty => 0
  | one s => s.weight
  | look _ => stateWeight
  | append p q => p.weight + q.weight
  | either p q => p.weight + q.weight + choiceWeight 1
  | times p least most =>
    if !p.isConsuming then p.weight + choiceWeight 2
    else match most with
      | none => max 1 least * p.weight + choiceWeight 2
      | some most => least * p.weight + (most - least) * (p.weight + choiceWeight 2) + stateWeight
  | captured p => p.weight + 2 * stateWeight

/-- The weight above which a pattern is refused. -/
def maxWeight : Nat := 10 * Nat.pow 2 20

end Hyperparams.Pattern
