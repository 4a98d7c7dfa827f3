import Hyperparams.Decimal.Digits
import Hyperparams.Pattern.Bracket
import Hyperparams.Text.Property

/-!
# Reading patterns

A pattern is read from front to back with one pass over its groups. The first fault ends the
reading; groups that are nested too deeply are a fault of the whole.
-/

namespace Hyperparams.Pattern

/-! ### Groups -/

def flagLetters : List (Char × Flag) := [
  ('i', .ignoresCase), ('m', .multiLine), ('s', .dotMatchesAll), ('U', .swapsGreed),
  ('u', .unicode), ('R', .carriageReturns), ('x', .verbose)]

/-- The flags that have been read: each with what it was changed to and where. -/
structure FlagsRead where
  changes : List (Flag × Bool × Span) := []
  /-- Where the dash stands behind which flags are cleared. -/
  negation : Option Span := none
  /-- Whether the dash was read last. -/
  dangling : Bool := false

/-- Flags up to a colon or a closing parenthesis. -/
def readFlags : Nat → FlagsRead → Reader FlagChanges
  | 0, _, c => fail .flagUnfinished c.here
  | fuel + 1, r, c =>
    match c.peek? with
    | none => fail .flagUnfinished c.here
    | some ch =>
      if ch = ':' || ch = ')' then
        match r.dangling, r.negation with
        | true, some dash => fail .flagDangling dash
        | _, _ => .ok (r.changes.reverse.map fun (flag, on, _) => (flag, on), c)
      else if ch = '-' then
        match r.negation with
        | some dash => .error { defect := .flagNegatedTwice, span := c.charSpan, earlier := dash }
        | none =>
          readFlags fuel { r with negation := some c.charSpan, dangling := true } c.advance
      else match flagLetters.lookup ch with
        | none => fail .flagUnknown c.charSpan
        | some flag =>
          match r.changes.lookup flag with
          | some (_, first) => .error { defect := .flagTwice, span := c.charSpan, earlier := first }
          | none =>
            let changes := (flag, r.negation.isNone, c.charSpan) :: r.changes
            readFlags fuel { r with changes, dangling := false } c.advance

/-- Whether a character may stand in the name of a group; the first one must not be a digit. -/
def isNameChar (first : Bool) (c : Char) : Bool :=
  c = '_' || Text.isAlphabetic c ||
    (!first && (c = '.' || c = '[' || c = ']' || Text.Category.numbers.contains (Text.category c)))

def readName : Nat → (read : List Char) → Reader (List Char)
  | 0, _, c => fail .groupNameUnclosed c.here
  | fuel + 1, read, c =>
    match c.peek? with
    | none => fail .groupNameUnclosed c.here
    | some '>' => .ok (read.reverse, c)
    | some ch =>
      if isNameChar read.isEmpty ch then readName fuel (ch :: read) c.advance
      else fail .groupNameChar c.charSpan

/-- The name of a group, behind the opening bracket. No two groups have one name. -/
def readGroupName : Reader Unit := fun c => do
  let (name, behind) ← readName (c.rest.length + 1) [] c
  let span := behind.since c.place
  if name.isEmpty then fail .groupNameEmpty (.empty c.place)
  match behind.names.lookup name with
  | some first => .error { defect := .groupNameTwice, span, earlier := first }
  | none =>
    let closed := behind.advance
    .ok ((), { closed with names := (name, span) :: closed.names })

/-- What an opening parenthesis begins. -/
inductive Opening where
  | captured
  | group (changes : FlagChanges)
  | flags (changes : FlagChanges)

/-- What a parenthesis begins, behind it and a question mark. -/
def readFlagGroup (paren mark : Span) : Reader Opening := fun c => do
  if c.rest.isEmpty then fail .groupUnclosed paren
  let (changes, behind) ← readFlags (c.rest.length + 1) {} c
  if behind.peek? = some ':' then .ok (.group changes, behind.advance)
  else if changes.isEmpty then fail .repeatsNothing mark
  else .ok (.flags changes, behind.advance)

def readOpening : Reader Opening := fun c =>
  let inner := c.next
  match (["?=", "?!", "?<=", "?<!"].findSome? inner.after?) with
  | some behind => fail .lookAround (behind.since c.place)
  | none =>
    match ["?P<", "?<"].findSome? inner.after? with
    | some behind => (readGroupName behind).map fun (_, behind) => (.captured, behind)
    | none =>
      match inner.after? "?" with
      | some behind => readFlagGroup c.charSpan inner.here behind
      | none => .ok (.captured, inner)

/-- A cursor in a pattern that is verbose if the changes of flags say so. -/
def Cursor.change (c : Cursor) (changes : FlagChanges) : Cursor :=
  { c with verbose := (changes.lookup .verbose).getD c.verbose }

/-! ### Repetitions -/

def maxCount : Nat := Nat.pow 2 32 - 1

/-- A decimal number with white space around it. -/
def readCount : Reader Nat := fun c =>
  let (_, first) := c.takeWhile Text.isBlank
  let (digits, behind) := first.takeWhile Char.isDigit
  let (_, after) := behind.takeWhile Text.isBlank
  if digits.isEmpty then fail .countEmpty first.here
  else match Decimal.ofDigitsUpTo maxCount digits with
    | none => fail .decimal (behind.since first.place)
    | some n => .ok (n, after)

def skipCount (c : Cursor) : Cursor :=
  let (_, first) := c.takeWhile Text.isBlank
  let (_, behind) := first.takeWhile Char.isDigit
  (behind.takeWhile Text.isBlank).2

/-- The bounds of a repetition, behind the opening brace at a place. -/
def readBounds (brace : Place) : Reader (Nat × Option Nat) := fun c => do
  let unclosed (c : Cursor) := fail .countUnclosed (c.since brace)
  if c.rest.isEmpty then unclosed c
  let behind := skipCount c
  match behind.peek? with
  | none => fail .countUnclosed (behind.since brace)
  | some ',' =>
    let second := behind.next
    match second.peek? with
    | none => fail .countUnclosed (second.since brace)
    | some '}' =>
      let (least, _) ← readCount c
      .ok ((least, none), second)
    | some _ =>
      let (least, _) ← readCount c
      let (most, behind) ← readCount second
      .ok ((least, some most), behind)
  | some _ =>
    let (least, _) ← readCount c
    .ok ((least, some least), behind)

/-- The cursor behind a mark that a repetition prefers fewer rounds. -/
def skipLazy (c : Cursor) : Cursor :=
  if c.peek? = some '?' then c.advance else c

def readRepetition (operator : Char) (body : Expression) : Reader Expression := fun c => do
  let repeated (least : Nat) (most : Option Nat) (behind : Cursor) :=
    .ok (.repetition (behind.since body.span.start) least most body, behind)
  if operator = '?' then repeated 0 (some 1) (skipLazy c.advance)
  else if operator = '*' then repeated 0 none (skipLazy c.advance)
  else if operator = '+' then repeated 1 none (skipLazy c.advance)
  else
    let ((least, most), closing) ← readBounds c.place c.next
    if closing.peek? ≠ some '}' then fail .countUnclosed (closing.since c.place)
    let behind := skipLazy closing.next
    if most.any (· < least) then fail .countRange (behind.since c.place)
    repeated least most behind

/-! ### Expressions -/

/-- The options of a group so far, and the parts of the last one, the last ones first. -/
structure Level where
  /-- Where the first option begins. -/
  start : Place
  options : List Expression := []
  /-- Where the last option begins. -/
  place : Place := start
  parts : List Expression := []

namespace Level

def add (l : Level) (e : Expression) : Level :=
  { l with parts := e :: l.parts }

def option (l : Level) (stop : Place) : Expression :=
  .ofParts ⟨l.place, stop⟩ l.parts.reverse

def nextOption (l : Level) (bar behind : Place) : Level :=
  { l with options := l.option bar :: l.options, place := behind, parts := [] }

def close (l : Level) (stop : Place) : Expression :=
  match l.options with
  | [] => l.option stop
  | options => .alternation ⟨l.start, stop⟩ (l.option stop :: options).reverse

end Level

def readSingle (char : Char) : Reader Expression := fun c =>
  match char with
  | '[' => readBracketed c
  | '\\' => readEscape c
  | '.' => .ok (.dot c.charSpan, c.advance)
  | '^' => .ok (.assertion c.charSpan .lineStart, c.advance)
  | '$' => .ok (.assertion c.charSpan .lineEnd, c.advance)
  | char => .ok (.literal (plainLiteral c char), c.advance)

/-- The operators that repeat what stands in front of them. -/
def isOperator (c : Char) : Bool :=
  c = '?' || c = '*' || c = '+' || c = '{'

/-- The rest of a group, up to its closing parenthesis if `opened` gives the opening one, else up to
the end of the pattern. -/
def readLevel : Nat → (opened : Option Span) → Level → Reader Expression
  | 0, _, _, c => fail .groupUnclosed c.here
  | fuel + 1, opened, l, c =>
    let c := c.skip
    match c.peek?, opened with
    | none, none => .ok (l.close c.place, c)
    | none, some paren => fail .groupUnclosed paren
    | some ')', none => fail .groupUnopened c.charSpan
    | some ')', some _ => .ok (l.close c.place, c)
    | some '|', _ => readLevel fuel opened (l.nextOption c.place c.advance.place) c.advance
    | some '(', _ => do
      let (opening, inner) ← readOpening c
      let group (changes : FlagChanges) : Except Fault (Expression × Cursor) := do
        let start : Level := { start := inner.place }
        let (body, closing) ← readLevel fuel (some c.charSpan) start (inner.change changes)
        .ok (body, { closing.advance with verbose := c.verbose })
      match opening with
      | .flags changes =>
        readLevel fuel opened (l.add (.flags (inner.since c.place) changes)) (inner.change changes)
      | .captured =>
        let (body, behind) ← group []
        readLevel fuel opened (l.add (.captured (behind.since c.place) body)) behind
      | .group changes =>
        let (body, behind) ← group changes
        readLevel fuel opened (l.add (.group (behind.since c.place) changes body)) behind
    | some ch, _ =>
      if isOperator ch then
        match l.parts with
        | [] => fail .repeatsNothing c.here
        | body :: parts =>
          if body.isRepeatable then do
            let (e, behind) ← readRepetition ch body c
            readLevel fuel opened { l with parts := e :: parts } behind
          else fail .repeatsNothing c.here
      else do
        let (e, behind) ← readSingle ch c
        readLevel fuel opened (l.add e) behind

def Expression.read (pattern : List Char) : Except Fault Expression := do
  let (e, _) ← readLevel (pattern.length + 1) none { start := {} } { rest := pattern }
  match e.tooDeep? maxNesting with
  | some span => fail .nesting span
  | none => .ok e

end Hyperparams.Pattern
