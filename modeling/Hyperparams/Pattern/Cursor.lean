import Hyperparams.Pattern.Expression
import Hyperparams.Text.Blank

/-!
# Cursors

A cursor is a place in a pattern with the text behind it. Where a pattern is verbose, white space
and comments between its parts are skipped.
-/

namespace Hyperparams.Pattern

/-- A place in a pattern, the text behind it and what the text before it has settled. -/
structure Cursor where
  rest : List Char
  place : Place := {}
  /-- Whether white space and comments are skipped. -/
  verbose : Bool := false
  /-- The names of the groups so far. -/
  names : List (List Char × Span) := []

/-- A reader gives a result and the cursor behind it, or a fault. -/
abbrev Reader (α : Type) := Cursor → Except Fault (α × Cursor)

namespace Cursor

def peek? (c : Cursor) : Option Char :=
  c.rest.head?

def advance (c : Cursor) : Cursor :=
  match c.rest with
  | [] => c
  | ch :: rest => { c with rest, place := c.place.past ch }

/-- Skip white space and comments, of which each lasts from a number sign to the end of its line. -/
def skipFrom (inComment : Bool) : List Char → Place → List Char × Place
  | [], p => ([], p)
  | c :: rest, p =>
    if inComment then skipFrom (c ≠ '\n') rest (p.past c)
    else if Text.isBlank c then skipFrom false rest (p.past c)
    else if c = '#' then skipFrom true rest (p.past c)
    else (c :: rest, p)

/-- Skip what a verbose pattern skips. -/
def skip (c : Cursor) : Cursor :=
  if c.verbose then
    let (rest, place) := skipFrom false c.rest c.place
    { c with rest, place }
  else c

/-- The cursor behind the next character and what is skipped there. -/
def next (c : Cursor) : Cursor :=
  c.advance.skip

def here (c : Cursor) : Span :=
  .empty c.place

def charSpan (c : Cursor) : Span :=
  ⟨c.place, c.advance.place⟩

def since (c : Cursor) (start : Place) : Span :=
  ⟨start, c.place⟩

/-- The cursor behind a text, if it comes next. -/
def after? (c : Cursor) (text : String) : Option Cursor :=
  if text.toList.isPrefixOf c.rest then some (text.toList.foldl (fun c _ => c.advance) c) else none

/-- At most so many characters of a kind, with what is skipped behind each. -/
def takeSpread (isKind : Char → Bool) : Nat → Cursor → List Char × Cursor
  | 0, c => ([], c)
  | count + 1, c =>
    match c.peek? with
    | none => ([], c)
    | some ch =>
      if isKind ch then
        let (taken, behind) := takeSpread isKind count c.next
        (ch :: taken, behind)
      else ([], c)

/-- All characters of a kind that come next, with what is skipped behind each. -/
def takeWhile (isKind : Char → Bool) (c : Cursor) : List Char × Cursor :=
  c.takeSpread isKind c.rest.length

/-- The character behind the next one. In a verbose pattern it is the first one there that is
neither white space nor the number sign of a comment, if there is any. -/
def second? (c : Cursor) : Option Char :=
  let behind := c.rest.drop 1
  if c.verbose then
    match behind.dropWhile Text.isBlank with
    | '#' :: rest => ((rest.dropWhile Text.isBlank).head?).or behind.head?
    | ch :: _ => some ch
    | [] => behind.head?
  else behind.head?

end Cursor

end Hyperparams.Pattern
