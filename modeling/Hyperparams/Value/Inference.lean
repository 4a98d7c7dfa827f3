import Hyperparams.Decimal.Literal
import Hyperparams.Json.Reader
import Hyperparams.Text.Blank
import Hyperparams.Value.Basic

/-!
# Inferring values

The kind of a raw command line text is inferred by rules tried in order: the three capitalised
words, numbers, the three words for floats that are no finite number, and JSON documents. A text
that fits no rule is a string and stays as it is, so inference never fails. A number may stand
between blanks and have underscores between its digits.
-/

namespace Hyperparams.Value

/-- Whether every underscore of a text stands between two digits, the first character standing
behind the character `before`. -/
def underscoresBetweenDigits (before : Char) : List Char → Bool
  | [] => true
  | '_' :: rest =>
    before.isDigit && (rest.head?.any Char.isDigit) && underscoresBetweenDigits '_' rest
  | c :: rest => underscoresBetweenDigits c rest

/-- The text without its underscores, if each stands between two digits. -/
def stripSeparators? (cs : List Char) : Option (List Char) :=
  if underscoresBetweenDigits ' ' cs then some (cs.filter (· != '_')) else Option.none

/-- The value of a literal: a word if it is an integer literal in range, else a float. -/
def ofLiteral (l : Decimal.Literal) : Value :=
  if l.isInteger then
    match l.toInt64? with
    | some n => .int n
    | Option.none => .float l.toFloat
  else .float l.toFloat

def inferNumber? (cs : List Char) : Option Value :=
  (stripSeparators? (Text.trim cs)).bind fun cs => (Decimal.Literal.read? cs).map ofLiteral

def inferWord? (raw : String) : Option Value :=
  if raw = "None" then some .none
  else if raw = "True" then some (.bool true)
  else if raw = "False" then some (.bool false)
  else Option.none

def inferNonFinite? (raw : String) : Option Value :=
  if raw = "Infinity" then some (.float (1.0 / 0.0))
  else if raw = "-Infinity" then some (.float (-1.0 / 0.0))
  else if raw = "NaN" then some (.float (0.0 / 0.0))
  else Option.none

/-- The value of a raw text. -/
def infer (raw : String) : Value :=
  (inferWord? raw <|> inferNumber? raw.toList <|> inferNonFinite? raw <|>
    (Json.read? raw).map ofJson).getD (.str raw)

end Hyperparams.Value
