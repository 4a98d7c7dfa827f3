import Hyperparams.Pattern.CharSet

/-!
# Patterns

A pattern describes texts, and it matches a text if it describes a part of it. `ends` follows a
pattern from many positions of a text at once, which takes no search.
-/

namespace Hyperparams

namespace Pattern

/-- The conditions on the characters around a position between words. -/
inductive WordLook where
  | boundary
  | noBoundary
  | start
  | stop
  | startHalf
  | stopHalf
deriving DecidableEq, Repr

namespace WordLook

/-- Whether a condition holds where a character of a word stands in front or not, and behind or
not. -/
def holds : WordLook → (before behind : Bool) → Bool
  | boundary, before, behind => before != behind
  | noBoundary, before, behind => before == behind
  | start, before, behind => !before && behind
  | stop, before, behind => before && !behind
  | startHalf, before, _ => !before
  | stopHalf, _, behind => !behind

end WordLook

/-- The conditions on a position. -/
inductive Look where
  | textStart
  | textEnd
  /-- Whether a carriage return ends a line too, alone or in front of a line feed. -/
  | lineStart (returns : Bool)
  | lineEnd (returns : Bool)
  /-- Words of all letters, or of those of ASCII. -/
  | words (unicode : Bool) (look : WordLook)
deriving DecidableEq, Repr

namespace Look

/-- Whether a condition holds between two characters; there is none at the ends of the text. -/
def holds : Look → (before behind : Option Char) → Bool
  | textStart, before, _ => before.isNone
  | textEnd, _, behind => behind.isNone
  | lineStart false, before, _ => before.isNone || before = some '\n'
  | lineStart true, before, behind =>
    before.isNone || before = some '\n' || (before = some '\r' && behind ≠ some '\n')
  | lineEnd false, _, behind => behind.isNone || behind = some '\n'
  | lineEnd true, before, behind =>
    behind.isNone || behind = some '\r' || (behind = some '\n' && before ≠ some '\r')
  | words unicode look, before, behind =>
    let word := CharSet.ofLetter unicode .word
    look.holds (before.any word.contains) (behind.any word.contains)

end Look

end Pattern

/-- A description of texts. -/
inductive Pattern where
  | empty
  /-- One character of a set. -/
  | one (s : Pattern.CharSet)
  /-- No character, where a condition holds. -/
  | look (l : Pattern.Look)
  | append (p q : Pattern)
  | either (p q : Pattern)
  /-- As often as `least`, and at most as often as `most` if that is given. -/
  | times (p : Pattern) (least : Nat) (most : Option Nat)
  /-- A part that is remembered. -/
  | captured (p : Pattern)

namespace Pattern

def anyOf : List Pattern → Pattern
  | [] => one .empty
  | [p] => p
  | p :: rest => either p (anyOf rest)

def allOf : List Pattern → Pattern
  | [] => empty
  | [p] => p
  | p :: rest => append p (allOf rest)

/-- The union of two ascending lists without repetitions. -/
def merge : List Nat → List Nat → List Nat
  | [], js => js
  | is, [] => is
  | i :: is, j :: js =>
    if i < j then i :: merge is (j :: js)
    else if j < i then j :: merge (i :: is) js
    else i :: merge is js

/-- The members of an ascending list that are not in another one. -/
def without : List Nat → List Nat → List Nat
  | [], _ => []
  | is, [] => is
  | i :: is, j :: js =>
    if i < j then i :: without is (j :: js)
    else if j < i then without (i :: is) js
    else without is js

/-- Take a step a number of times. A step that changes nothing is the last one. -/
def stepTimes (step : List Nat → List Nat) : Nat → List Nat → List Nat
  | 0, ps => ps
  | n + 1, ps =>
    let next := step ps
    if next = ps then ps else stepTimes step n next

/-- Take a step at most a number of times, from the positions that were new last. -/
def stepUpTo (step : List Nat → List Nat) : Nat → (seen new : List Nat) → List Nat
  | 0, seen, _ => seen
  | n + 1, seen, new =>
    match without (step new) seen with
    | [] => seen
    | further => stepUpTo step n (merge seen further) further

def before? (text : Array Char) (i : Nat) : Option Char :=
  if i = 0 then none else text[i - 1]?

/-- The positions, in ascending order, where parts end that a pattern describes and that begin at
one of some positions. Every round of a repetition without a bound finds a new position or is the
last one, so that one more round than there are characters is enough. -/
def ends (text : Array Char) : Pattern → List Nat → List Nat
  | empty, ps => ps
  | one s, ps => (ps.filter fun i => text[i]?.any s.contains).map (· + 1)
  | look l, ps => ps.filter fun i => l.holds (before? text i) text[i]?
  | append p q, ps => q.ends text (p.ends text ps)
  | either p q, ps => merge (p.ends text ps) (q.ends text ps)
  | times p least most, ps =>
    let reached := stepTimes (p.ends text) least ps
    let further := (most.map (· - least)).getD (text.size + 1)
    stepUpTo (p.ends text) further reached reached
  | captured p, ps => p.ends text ps

/-- Whether a part of a text is described. -/
def isMatch (p : Pattern) (text : String) : Bool :=
  let cs := text.toList.toArray
  !(p.ends cs (List.range (cs.size + 1))).isEmpty

end Pattern

end Hyperparams
