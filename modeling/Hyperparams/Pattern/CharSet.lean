import Hyperparams.Pattern.Expression
import Hyperparams.Text.CaseFold
import Hyperparams.Text.Property
import Hyperparams.Text.Script

/-!
# Sets of characters

A set of characters is told by how it is made up: of ranges and of properties of characters, by the
operations on sets, and by what differs from its members in case only.
-/

namespace Hyperparams.Pattern

/-- A set of characters. -/
inductive CharSet where
  | range (low high : Char)
  | categories (cs : List Text.Category)
  | property (p : Text.Property)
  | script (name : String)
  | union (s t : CharSet)
  | intersection (s t : CharSet)
  | complement (s : CharSet)
  /-- The characters that differ from a member in case only, or not at all. -/
  | caseless (s : CharSet)
  /-- The same, but only the letters of ASCII have case. -/
  | asciiCaseless (s : CharSet)

namespace CharSet

/-- The letter of ASCII that differs in case only; any other character itself. -/
def swapCase (c : Char) : Char :=
  if c.isUpper then c.toLower else c.toUpper

def contains : CharSet → Char → Bool
  | range low high, c => low ≤ c && c ≤ high
  | categories cs, c => cs.contains (Text.category c)
  | property p, c => p.holds c
  | script name, c => Text.script c == name
  | union s t, c => s.contains c || t.contains c
  | intersection s t, c => s.contains c && t.contains c
  | complement s, c => !s.contains c
  | caseless s, c => (Text.caseVariants c).any s.contains
  | asciiCaseless s, c => s.contains c || s.contains (swapCase c)

def singleton (c : Char) : CharSet :=
  range c c

def difference (s t : CharSet) : CharSet :=
  intersection s (complement t)

def symmetricDifference (s t : CharSet) : CharSet :=
  union (difference s t) (difference t s)

def all : CharSet :=
  categories (Text.Category.names.map Prod.snd)

def empty : CharSet :=
  categories []

def unions (sets : List CharSet) : CharSet :=
  match sets with
  | [] => empty
  | s :: rest => rest.foldl union s

def ofProperty (p : Option Text.Property) : CharSet :=
  (p.map property).getD empty

def negate (negated : Bool) (s : CharSet) : CharSet :=
  if negated then complement s else s

/-! ### Sets with names -/

def ascii : CharSet := range '\x00' '\x7f'

def asciiDigits : CharSet := range '0' '9'

def asciiLower : CharSet := range 'a' 'z'

def asciiUpper : CharSet := range 'A' 'Z'

def asciiLetters : CharSet := union asciiUpper asciiLower

def asciiSpace : CharSet := union (range '\t' '\r') (singleton ' ')

def asciiWord : CharSet := unions [asciiDigits, asciiLetters, singleton '_']

def ofAscii : AsciiSet → CharSet
  | .alnum => union asciiDigits asciiLetters
  | .alpha => asciiLetters
  | .ascii => ascii
  | .blank => union (singleton '\t') (singleton ' ')
  | .cntrl => union (range '\x00' '\x1f') (singleton '\x7f')
  | .digit => asciiDigits
  | .graph => range '!' '~'
  | .lower => asciiLower
  | .print => range ' ' '~'
  | .punct => unions [range '!' '/', range ':' '@', range '[' '\x60', range '\x7b' '~']
  | .space => asciiSpace
  | .upper => asciiUpper
  | .word => asciiWord
  | .xdigit => unions [asciiDigits, range 'A' 'F', range 'a' 'f']

/-- The characters of words: letters, marks, decimal digits, connectors and the controls of
joining. -/
def word : CharSet :=
  unions [ofProperty Text.Property.alphabetic?, categories (.nd :: .pc :: Text.Category.marks),
    ofProperty Text.Property.joinControl?]

/-- The set that a letter denotes, of all characters or of ASCII. -/
def ofLetter (unicode : Bool) : LetterSet → CharSet
  | .digit => if unicode then categories [.nd] else asciiDigits
  | .space => if unicode then ofProperty (Text.Property.ofName? "whitespace") else asciiSpace
  | .word => if unicode then word else asciiWord

end CharSet

end Hyperparams.Pattern
