import Hyperparams.Pattern.Basic
import Hyperparams.Pattern.Named
import Hyperparams.Pattern.Reader

/-!
# Meaning of expressions

What an expression describes depends on the flags in force. A change of flags lasts to the end of
the group in which it stands. Without Unicode, sets have members of ASCII only, and what would
describe more than that is a fault.
-/

namespace Hyperparams.Pattern

/-- The flags in force. -/
structure Flags where
  ignoresCase : Bool := false
  multiLine : Bool := false
  dotMatchesAll : Bool := false
  unicode : Bool := true
  carriageReturns : Bool := false
deriving DecidableEq, Repr

namespace Flags

/-- Set or clear a flag; some do not change what is described. -/
def set (f : Flags) : Flag × Bool → Flags
  | (.ignoresCase, on) => { f with ignoresCase := on }
  | (.multiLine, on) => { f with multiLine := on }
  | (.dotMatchesAll, on) => { f with dotMatchesAll := on }
  | (.unicode, on) => { f with unicode := on }
  | (.carriageReturns, on) => { f with carriageReturns := on }
  | (.swapsGreed, _) => f
  | (.verbose, _) => f

def change (f : Flags) (changes : FlagChanges) : Flags :=
  changes.foldl set f

/-- A set with all variants in case of its members, if case is ignored. -/
def fold (f : Flags) (s : CharSet) : CharSet :=
  if !f.ignoresCase then s else if f.unicode then .caseless s else .asciiCaseless s

def variants (f : Flags) (c : Char) : CharSet :=
  if !f.ignoresCase then .singleton c
  else if f.unicode then .unions ((Text.caseVariants c).map .singleton)
  else .union (.singleton c) (.singleton (CharSet.swapCase c))

/-- A set or its complement, which is beyond ASCII. -/
def negate (f : Flags) (span : Span) (negated : Bool) (s : CharSet) : Except Fault CharSet :=
  if negated && !f.unicode then fail .invalidEncoding span else .ok (s.negate negated)

end Flags

def Literal.checkByte (l : Literal) (f : Flags) : Except Fault Unit :=
  if !f.unicode && l.isByte && 0x80 ≤ l.char.toNat then fail .invalidEncoding l.span else .ok ()

def Literal.member (l : Literal) (f : Flags) : Except Fault Char := do
  l.checkByte f
  if !f.unicode && 0x80 ≤ l.char.toNat then fail .unicodeForbidden l.span else .ok l.char

def Literal.set (l : Literal) (f : Flags) : Except Fault CharSet := do
  l.checkByte f
  if f.ignoresCase && !f.unicode && 0x80 ≤ l.char.toNat then fail .unicodeForbidden l.span
  .ok (f.variants l.char)

def Escaped.set (e : Escaped) (f : Flags) : Except Fault CharSet :=
  match e.kind with
  | .letter set => f.negate e.span e.negated (.ofLetter f.unicode set)
  | .property query =>
    if !f.unicode then fail .unicodeForbidden e.span
    else match query.set with
      | .error defect => fail defect e.span
      | .ok s => f.negate e.span e.negated (f.fold s)

def Operation.apply : Operation → CharSet → CharSet → CharSet
  | intersection, s, t => .intersection s t
  | difference, s, t => s.difference t
  | symmetricDifference, s, t => s.symmetricDifference t

mutual

def Item.set (f : Flags) : Item → Except Fault CharSet
  | .literal l => (l.member f).map .singleton
  | .range _ first last => do
    let low ← first.member f
    let high ← last.member f
    .ok (.range low high)
  | .ascii span negated set => f.negate span negated (f.fold (.ofAscii set))
  | .escaped e => e.set f
  | .bracketed span negated content => do
    let s ← content.set f
    f.negate span negated (f.fold s)
  | .union _ items => (Item.sets f items).map .unions
  | .combined _ op left right => do
    let s ← left.set f
    let t ← right.set f
    .ok (op.apply (f.fold s) (f.fold t))

def Item.sets (f : Flags) : List Item → Except Fault (List CharSet)
  | [] => .ok []
  | i :: rest => do
    let s ← i.set f
    let others ← Item.sets f rest
    .ok (s :: others)

end

/-- The characters that a dot describes: all but the ends of lines, unless the flags say so. -/
def dotSet (f : Flags) (span : Span) : Except Fault CharSet :=
  if !f.unicode then fail .invalidEncoding span
  else if f.dotMatchesAll then .ok .all
  else if f.carriageReturns then
    .ok (.complement (.union (.singleton '\n') (.singleton '\r')))
  else .ok (.complement (.singleton '\n'))

def Assertion.look (f : Flags) : Assertion → Look
  | lineStart => if f.multiLine then .lineStart f.carriageReturns else .textStart
  | lineEnd => if f.multiLine then .lineEnd f.carriageReturns else .textEnd
  | textStart => .textStart
  | textEnd => .textEnd
  | wordBoundary => .words f.unicode .boundary
  | noWordBoundary => .words f.unicode .noBoundary
  | wordStart => .words f.unicode .start
  | wordEnd => .words f.unicode .stop
  | wordStartHalf => .words f.unicode .startHalf
  | wordEndHalf => .words f.unicode .stopHalf

mutual

/-- The pattern of an expression, and the flags that are in force behind it. -/
def Expression.pattern (f : Flags) : Expression → Except Fault (Pattern × Flags)
  | .literal l => do .ok (.one (← l.set f), f)
  | .dot span => do .ok (.one (← dotSet f span), f)
  | .assertion _ a => .ok (.look (a.look f), f)
  | .escaped e => do .ok (.one (← e.set f), f)
  | .bracketed span negated content => do
    let s ← content.set f
    .ok (.one (← f.negate span negated (f.fold s)), f)
  | .flags _ changes => .ok (.empty, f.change changes)
  | .repetition _ least most body => do
    let (p, f) ← body.pattern f
    .ok (.times p least most, f)
  | .captured _ body => do
    let (p, _) ← body.pattern f
    .ok (.captured p, f)
  | .group _ changes body => do
    let (p, _) ← body.pattern (f.change changes)
    .ok (p, f)
  | .sequence _ parts => do
    let (ps, f) ← Expression.patterns f parts
    .ok (Pattern.allOf ps, f)
  | .alternation _ options => do
    let (ps, f) ← Expression.patterns f options
    .ok (Pattern.anyOf ps, f)

def Expression.patterns (f : Flags) : List Expression → Except Fault (List Pattern × Flags)
  | [] => .ok ([], f)
  | e :: rest => do
    let (p, f) ← e.pattern f
    let (ps, f) ← Expression.patterns f rest
    .ok (p :: ps, f)

end

end Hyperparams.Pattern
