import Hyperparams.Pattern.Fault

/-!
# Expressions

The written form of a pattern: what stands where. What it means depends on the flags that are in
force at each place.
-/

namespace Hyperparams.Pattern

/-- A character, however it is written. -/
structure Literal where
  span : Span
  char : Char
  /-- Whether it is written by two hexadecimal digits, which without Unicode denote a byte. -/
  isByte : Bool := false
deriving DecidableEq, Repr

/-- The sets with a letter of their own. -/
inductive LetterSet where
  | digit
  | space
  | word
deriving DecidableEq, Repr

/-- How a set is named by a property. -/
inductive Query where
  | named (name : String)
  | valued (name value : String)
deriving DecidableEq, Repr

/-- The sets that an escape denotes. -/
inductive EscapedKind where
  | letter (set : LetterSet)
  | property (query : Query)
deriving DecidableEq, Repr

/-- An escape that denotes a set. -/
structure Escaped where
  span : Span
  negated : Bool
  kind : EscapedKind
deriving DecidableEq, Repr

/-- The sets of ASCII characters with names of their own. -/
inductive AsciiSet where
  | alnum | alpha | ascii | blank | cntrl | digit | graph
  | lower | print | punct | space | upper | word | xdigit
deriving DecidableEq, Repr

namespace AsciiSet

def names : List (String × AsciiSet) := [
  ("alnum", alnum), ("alpha", alpha), ("ascii", ascii), ("blank", blank), ("cntrl", cntrl),
  ("digit", digit), ("graph", graph), ("lower", lower), ("print", print), ("punct", punct),
  ("space", space), ("upper", upper), ("word", word), ("xdigit", xdigit)]

end AsciiSet

/-- The ways to combine two sets. -/
inductive Operation where
  | intersection
  | difference
  | symmetricDifference
deriving DecidableEq, Repr

/-- What may stand between brackets. -/
inductive Item where
  | literal (l : Literal)
  | range (span : Span) (first last : Literal)
  | ascii (span : Span) (negated : Bool) (set : AsciiSet)
  | escaped (e : Escaped)
  | bracketed (span : Span) (negated : Bool) (content : Item)
  | union (span : Span) (items : List Item)
  | combined (span : Span) (op : Operation) (left right : Item)

namespace Item

def span : Item → Span
  | literal l => l.span
  | range s _ _ => s
  | ascii s _ _ => s
  | escaped e => e.span
  | bracketed s _ _ => s
  | union s _ => s
  | combined s _ _ _ => s

end Item

/-- The conditions on a place. -/
inductive Assertion where
  | lineStart
  | lineEnd
  | textStart
  | textEnd
  | wordBoundary
  | noWordBoundary
  | wordStart
  | wordEnd
  | wordStartHalf
  | wordEndHalf
deriving DecidableEq, Repr

/-- The flags that a pattern can set. -/
inductive Flag where
  | ignoresCase
  | multiLine
  | dotMatchesAll
  | swapsGreed
  | unicode
  | carriageReturns
  | verbose
deriving DecidableEq, Repr

abbrev FlagChanges := List (Flag × Bool)

/-- A pattern as it is written. -/
inductive Expression where
  | literal (l : Literal)
  | dot (span : Span)
  | assertion (span : Span) (a : Assertion)
  | escaped (e : Escaped)
  | bracketed (span : Span) (negated : Bool) (content : Item)
  | flags (span : Span) (changes : FlagChanges)
  /-- A body as often as `least`, and at most as often as `most` if that is given. -/
  | repetition (span : Span) (least : Nat) (most : Option Nat) (body : Expression)
  | captured (span : Span) (body : Expression)
  | group (span : Span) (changes : FlagChanges) (body : Expression)
  | sequence (span : Span) (parts : List Expression)
  | alternation (span : Span) (options : List Expression)

namespace Expression

def span : Expression → Span
  | literal l => l.span
  | dot s => s
  | assertion s _ => s
  | escaped e => e.span
  | bracketed s _ _ => s
  | flags s _ => s
  | repetition s _ _ _ => s
  | captured s _ => s
  | group s _ _ => s
  | sequence s _ => s
  | alternation s _ => s

/-- Parts one behind the other; a single part stands for itself. -/
def ofParts (span : Span) : List Expression → Expression
  | [e] => e
  | parts => sequence span parts

def isRepeatable : Expression → Bool
  | flags _ _ => false
  | sequence _ [] => false
  | _ => true

end Expression

/-! ### Nesting -/

mutual

/-- The first part between brackets that lies deeper than `room` levels allow. -/
def Item.tooDeep? : Nat → Item → Option Span
  | room, .bracketed s _ content => if room = 0 then some s else content.tooDeep? (room - 1)
  | room, .union s (first :: rest) =>
    if room = 0 then some s else Item.anyTooDeep? (room - 1) (first :: rest)
  | room, .combined s _ left right =>
    if room = 0 then some s
    else (left.tooDeep? (room - 1)).or (right.tooDeep? (room - 1))
  | _, _ => none

def Item.anyTooDeep? : Nat → List Item → Option Span
  | _, [] => none
  | room, i :: rest => (i.tooDeep? room).or (Item.anyTooDeep? room rest)

end

mutual

def Expression.tooDeep? : Nat → Expression → Option Span
  | room, .bracketed s _ content => if room = 0 then some s else content.tooDeep? (room - 1)
  | room, .repetition s _ _ body => if room = 0 then some s else body.tooDeep? (room - 1)
  | room, .captured s body => if room = 0 then some s else body.tooDeep? (room - 1)
  | room, .group s _ body => if room = 0 then some s else body.tooDeep? (room - 1)
  | room, .sequence s (first :: rest) =>
    if room = 0 then some s else Expression.anyTooDeep? (room - 1) (first :: rest)
  | room, .alternation s options =>
    if room = 0 then some s else Expression.anyTooDeep? (room - 1) options
  | _, _ => none

def Expression.anyTooDeep? : Nat → List Expression → Option Span
  | _, [] => none
  | room, e :: rest => (e.tooDeep? room).or (Expression.anyTooDeep? room rest)

end

end Hyperparams.Pattern
