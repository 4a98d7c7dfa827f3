import Hyperparams.Text.Pieces

/-!
# Faults in patterns

What can be wrong with a pattern, and the report that points at it. Places are lines and columns,
both counted from one.
-/

namespace Hyperparams.Pattern

/-- A place between two characters of a text. -/
structure Place where
  line : Nat := 1
  column : Nat := 1
deriving DecidableEq, Repr

namespace Place

def past (p : Place) (c : Char) : Place :=
  if c = '\n' then { line := p.line + 1, column := 1 } else { p with column := p.column + 1 }

def atMost (p q : Place) : Bool :=
  p.line < q.line || (p.line == q.line && p.column ≤ q.column)

end Place

/-- A part of a text. -/
structure Span where
  start : Place
  stop : Place
deriving DecidableEq, Repr

namespace Span

def empty (p : Place) : Span := ⟨p, p⟩

def isOneLine (s : Span) : Bool :=
  s.start.line == s.stop.line

end Span

/-- What can be wrong. -/
inductive Defect where
  | classEscape
  | classRange
  | classRangeBound
  | classUnclosed
  | decimal
  | hexEmpty
  | hexCode
  | hexDigit
  | escapeUnfinished
  | escapeUnknown
  | flagDangling
  | flagTwice
  | flagNegatedTwice
  | flagUnfinished
  | flagUnknown
  | groupNameTwice
  | groupNameEmpty
  | groupNameChar
  | groupNameUnclosed
  | groupUnclosed
  | groupUnopened
  | nesting
  | countRange
  | countEmpty
  | countUnclosed
  | repeatsNothing
  | wordBoundaryUnclosed
  | wordBoundaryUnknown
  | braceUnfinished
  | propertyForm
  | backreference
  | lookAround
  | unicodeForbidden
  | invalidEncoding
  | propertyUnknown
  | propertyValueUnknown
deriving DecidableEq, Repr

def maxNesting : Nat := 250

def Defect.message : Defect → String
  | classEscape => "invalid escape sequence found in character class"
  | classRange => "invalid character class range, the start must be <= the end"
  | classRangeBound => "invalid range boundary, must be a literal"
  | classUnclosed => "unclosed character class"
  | decimal => "decimal literal invalid"
  | hexEmpty => "hexadecimal literal empty"
  | hexCode => "hexadecimal literal is not a Unicode scalar value"
  | hexDigit => "invalid hexadecimal digit"
  | escapeUnfinished => "incomplete escape sequence, reached end of pattern prematurely"
  | escapeUnknown => "unrecognized escape sequence"
  | flagDangling => "dangling flag negation operator"
  | flagTwice => "duplicate flag"
  | flagNegatedTwice => "flag negation operator repeated"
  | flagUnfinished => "expected flag but got end of regex"
  | flagUnknown => "unrecognized flag"
  | groupNameTwice => "duplicate capture group name"
  | groupNameEmpty => "empty capture group name"
  | groupNameChar => "invalid capture group character"
  | groupNameUnclosed => "unclosed capture group name"
  | groupUnclosed => "unclosed group"
  | groupUnopened => "unopened group"
  | nesting => s!"exceed the maximum number of nested parentheses/brackets ({maxNesting})"
  | countRange => "invalid repetition count range, the start must be <= the end"
  | countEmpty => "repetition quantifier expects a valid decimal"
  | countUnclosed => "unclosed counted repetition"
  | repeatsNothing => "repetition operator missing expression"
  | wordBoundaryUnclosed =>
    "special word boundary assertion is either unclosed or contains an invalid character"
  | wordBoundaryUnknown =>
    "unrecognized special word boundary assertion, valid choices are: start, end, start-half " ++
      "or end-half"
  | braceUnfinished =>
    "found either the beginning of a special word boundary or a bounded repetition on a \\b " ++
      "with an opening brace, but no closing brace"
  | propertyForm => "invalid Unicode character class"
  | backreference => "backreferences are not supported"
  | lookAround => "look-around, including look-ahead and look-behind, is not supported"
  | unicodeForbidden => "Unicode not allowed here"
  | invalidEncoding => "pattern can match invalid UTF-8"
  | propertyUnknown => "Unicode property not found"
  | propertyValueUnknown => "Unicode property value not found"

/-- A defect with the part of the pattern that has it. -/
structure Fault where
  defect : Defect
  span : Span
  /-- The part that this one repeats. -/
  earlier : Option Span := none
deriving DecidableEq, Repr

/-- Stop with a fault that repeats nothing earlier. -/
def fail {α : Type} (defect : Defect) (span : Span) : Except Fault α :=
  .error { defect, span }

namespace Fault

def spans (f : Fault) : List Span :=
  match f.earlier with
  | none => [f.span]
  | some s => if s.start.atMost f.span.start then [s, f.span] else [f.span, s]

/-- Carets below the columns of spans on one line, of which some columns are filled already. -/
def carets : Nat → List Span → String
  | _, [] => ""
  | filled, s :: rest =>
    let gap := s.start.column - 1 - filled
    let width := max 1 (s.stop.column - s.start.column)
    String.ofList (List.replicate gap ' ' ++ List.replicate width '^') ++
      carets (filled + gap + width) rest

def padded (width n : Nat) : String :=
  String.ofList ((toString n).toList.leftpad width ' ')

/-- The lines of a pattern, each with carets below it where a span points at it. Lines have numbers
if there are several; a line that begins at the end of the pattern counts but is not shown. -/
def excerpt (pattern : List Char) (spans : List Span) : List String :=
  let lines := Text.lines pattern
  let count := lines.length + if pattern.getLast? = some '\n' then 1 else 0
  let width := (toString count).length
  let margin := if count ≤ 1 then 4 else width + 2
  lines.zipIdx.flatMap fun (line, i) =>
    let label := if count ≤ 1 then "    " else padded width (i + 1) ++ ": "
    let here := spans.filter fun s => s.isOneLine && s.start.line == i + 1
    let notes := String.ofList (List.replicate margin ' ') ++ carets 0 here
    (label ++ String.ofList line) :: if here.isEmpty then [] else [notes]

/-- What a report says about a span over several lines. -/
def extent (s : Span) : String :=
  s!"on line {s.start.line} (column {s.start.column}) through line {s.stop.line} " ++
    s!"(column {s.stop.column - 1})"

/-- A report shows the pattern, between dividers if it has several lines, and says what is wrong. -/
def report (pattern : String) (f : Fault) : String :=
  let cs := pattern.toList
  let divider := if cs.contains '\n' then [String.ofList (List.replicate 79 '~')] else []
  "\n".intercalate <|
    "regex parse error:" :: divider ++ excerpt cs f.spans ++ divider ++
      (f.spans.filter (!·.isOneLine)).map extent ++ ["error: " ++ f.defect.message]

end Fault

end Hyperparams.Pattern
