import Hyperparams.Pattern.Cursor
import Hyperparams.Text.Hexadecimal

/-!
# Reading escapes

What a backslash can begin: a character by its code or by a letter, a set, or an assertion.
-/

namespace Hyperparams.Pattern

open Text (hexValue? codeChar?)

def readHexDigits : Nat → Reader (List Char)
  | 0, c => .ok ([], c)
  | count + 1, c =>
    match c.peek? with
    | none => fail .escapeUnfinished c.here
    | some d =>
      if (hexValue? d).isSome then do
        let (digits, behind) ← readHexDigits count c.next
        .ok (d :: digits, behind)
      else fail .hexDigit c.charSpan

def readFixedCode (escape : Place) (count : Nat) : Reader Literal := fun c => do
  let (digits, behind) ← readHexDigits count c
  match codeChar? digits with
  | none => fail .hexCode (behind.since c.place)
  | some char => .ok ({ span := behind.since escape, char, isByte := count = 2 }, behind)

/-- A character by a code in braces, at the opening brace. -/
def readBracedCode (escape : Place) : Reader Literal := fun c => do
  let (digits, behind) := c.next.takeWhile fun d => (hexValue? d).isSome
  match behind.peek? with
  | none => fail .escapeUnfinished (behind.since c.place)
  | some '}' =>
    let closed := behind.next
    if digits.isEmpty then fail .hexEmpty (closed.since c.place)
    else match codeChar? digits with
      | none => fail .hexCode (behind.since c.advance.place)
      | some char => .ok ({ span := closed.since escape, char }, closed)
  | some _ => fail .hexDigit behind.charSpan

/-- A character by its code, at the letter that says how many digits the code has. -/
def readCode (escape : Place) (count : Nat) : Reader Literal := fun c =>
  match c.next.peek? with
  | none => fail .escapeUnfinished c.next.here
  | some '{' => readBracedCode escape c.next
  | some _ => readFixedCode escape count c.next

/-- The two sides of the first place where a text has a separator. -/
def splitAt? (separator : List Char) : List Char → Option (List Char × List Char)
  | [] => none
  | c :: rest =>
    if separator.isPrefixOf (c :: rest) then some ([], (c :: rest).drop separator.length)
    else (splitAt? separator rest).map fun (before, behind) => (c :: before, behind)

def Query.ofList (cs : List Char) : Query :=
  match (splitAt? ['!', '='] cs).or ((splitAt? [':'] cs).or (splitAt? ['='] cs)) with
  | some (name, value) => .valued (String.ofList name) (String.ofList value)
  | none => .named (String.ofList cs)

/-- A set by a property, at the letter that says whether it is negated. -/
def readProperty (escape : Place) (negated : Bool) : Reader Expression := fun c =>
  let c := c.next
  match c.peek? with
  | none => fail .escapeUnfinished c.here
  | some '{' =>
    let (query, behind) := c.next.takeWhile (· ≠ '}')
    if behind.rest.isEmpty then fail .escapeUnfinished behind.here
    else
      let closed := behind.advance
      let kind := .property (.ofList query)
      .ok (.escaped { span := closed.since escape, negated, kind }, closed)
  | some '\\' => fail .propertyForm c.charSpan
  | some letter =>
    let kind := .property (.named letter.toString)
    .ok (.escaped { span := c.next.since escape, negated, kind }, c.next)

def wordBoundaries : List (String × Assertion) := [
  ("start", .wordStart), ("end", .wordEnd), ("start-half", .wordStartHalf),
  ("end-half", .wordEndHalf)]

/-- The word boundary behind `\b`: braces may name a special one, unless a count stands in them. -/
def readWordBoundary (escape : Place) : Reader Expression := fun c =>
  let plain := .assertion (c.since escape) .wordBoundary
  let isNameChar ch := ch.isAlpha || ch = '-'
  match c.peek? with
  | some '{' =>
    match c.next.peek? with
    | none => fail .braceUnfinished (c.next.since escape)
    | some ch =>
      if isNameChar ch then
        let (name, behind) := c.next.takeWhile isNameChar
        if behind.peek? ≠ some '}' then fail .wordBoundaryUnclosed (behind.since c.place)
        else match wordBoundaries.lookup (String.ofList name) with
          | some a => .ok (.assertion (behind.advance.since escape) a, behind.advance)
          | none => fail .wordBoundaryUnknown (behind.since c.next.place)
      else .ok (plain, c)
  | _ => .ok (plain, c)

def letterChars : List (Char × Char) := [
  ('a', '\x07'), ('f', '\x0c'), ('t', '\t'), ('n', '\n'), ('r', '\r'), ('v', '\x0b')]

def letterAssertions : List (Char × Assertion) := [
  ('A', .textStart), ('z', .textEnd), ('B', .noWordBoundary), ('<', .wordStart), ('>', .wordEnd)]

/-- The sets that letters denote; the capital letter denotes the complement. -/
def letterSets : List (Char × LetterSet) := [('d', .digit), ('s', .space), ('w', .word)]

def readEscaped (escape : Place) (letter : Char) : Reader Expression := fun c =>
  let behind := c.advance
  let span := behind.since escape
  let literal char := .ok (.literal { span, char }, behind)
  if letter.isDigit then fail .backreference span
  else if letter = 'x' then (readCode escape 2 c).map fun (l, behind) => (.literal l, behind)
  else if letter = 'u' then (readCode escape 4 c).map fun (l, behind) => (.literal l, behind)
  else if letter = 'U' then (readCode escape 8 c).map fun (l, behind) => (.literal l, behind)
  else if letter = 'p' then readProperty escape false c
  else if letter = 'P' then readProperty escape true c
  else if letter = 'b' then readWordBoundary escape behind
  else match letterSets.lookup letter.toLower with
    | some set =>
      .ok (.escaped { span, negated := letter.isUpper, kind := .letter set }, behind)
    | none =>
      match letterAssertions.lookup letter with
      | some a => .ok (.assertion span a, behind)
      | none =>
        match letterChars.lookup letter with
        | some char => literal char
        | none =>
          if letter.toNat < 128 && !letter.isAlpha then literal letter else fail .escapeUnknown span

def readEscape : Reader Expression := fun c =>
  match c.advance.peek? with
  | none => fail .escapeUnfinished (c.advance.since c.place)
  | some letter => readEscaped c.place letter c.advance

end Hyperparams.Pattern
