import Hyperparams.Decimal.Layout
import Hyperparams.Json.Basic

/-!
# Printing JSON

Two forms of one document: compact without any white space, and indented by two blanks. Strings
escape the quote, the backslash and the control characters; all other characters stand for
themselves.
-/

namespace Hyperparams.Json

/-- Doubles in JSON: exponents from -5 to 15 are positional, an exponent is signed, and values
that are no numbers have no spelling but `null`. -/
def numberLayout : Decimal.Layout where
  positional k := -5 ≤ k && k < 16
  point := true
  plus := true
  tie := .toEven
  notANumber := "null"
  infinity := "null"

def Number.text : Number → String
  | .int n => toString n
  | .float x => numberLayout.write x

def hexDigit (n : Nat) : Char :=
  Nat.digitChar n

def escapeChar (c : Char) : List Char :=
  if c = '"' then ['\\', '"']
  else if c = '\\' then ['\\', '\\']
  else if 0x20 ≤ c.toNat then [c]
  else if c = '\n' then ['\\', 'n']
  else if c = '\r' then ['\\', 'r']
  else if c = '\t' then ['\\', 't']
  else if c.toNat = 0x08 then ['\\', 'b']
  else if c.toNat = 0x0C then ['\\', 'f']
  else ['\\', 'u', '0', '0', hexDigit (c.toNat / 16), hexDigit (c.toNat % 16)]

/-- A quoted string in front of a text. -/
def renderString (s : String) (rest : List Char) : List Char :=
  '"' :: (s.toList.flatMap escapeChar ++ '"' :: rest)

mutual

/-- The compact text of a document in front of a text. -/
def renderOn : Json → List Char → List Char
  | .null, rest => 'n' :: 'u' :: 'l' :: 'l' :: rest
  | .bool true, rest => 't' :: 'r' :: 'u' :: 'e' :: rest
  | .bool false, rest => 'f' :: 'a' :: 'l' :: 's' :: 'e' :: rest
  | .number n, rest => n.text.toList ++ rest
  | .string s, rest => renderString s rest
  | .array items, rest => '[' :: renderItems true items (']' :: rest)
  | .object fields, rest => '{' :: renderFields true fields ('}' :: rest)

/-- Items separated by commas; the flag says that the first is still to come. -/
def renderItems : Bool → List Json → List Char → List Char
  | _, [], rest => rest
  | first, item :: items, rest =>
    let text := renderOn item (renderItems false items rest)
    if first then text else ',' :: text

def renderFields : Bool → List (String × Json) → List Char → List Char
  | _, [], rest => rest
  | first, (name, value) :: fields, rest =>
    let text := renderString name (':' :: renderOn value (renderFields false fields rest))
    if first then text else ',' :: text

end

def compact (doc : Json) : String :=
  String.ofList (renderOn doc [])

def newline (level : Nat) (rest : List Char) : List Char :=
  '\n' :: (List.replicate (2 * level) ' ' ++ rest)

mutual

/-- The indented text of a document at a level, in front of a text. -/
def indentOn (level : Nat) : Json → List Char → List Char
  | .array [], rest => '[' :: ']' :: rest
  | .object [], rest => '{' :: '}' :: rest
  | .array (item :: items), rest =>
    '[' :: newline (level + 1)
      (indentOn (level + 1) item (indentItems (level + 1) items (newline level (']' :: rest))))
  | .object ((name, value) :: fields), rest =>
    '{' :: newline (level + 1)
      (renderString name (':' :: ' ' :: indentOn (level + 1) value
        (indentFields (level + 1) fields (newline level ('}' :: rest)))))
  | .null, rest => renderOn .null rest
  | .bool b, rest => renderOn (.bool b) rest
  | .number n, rest => renderOn (.number n) rest
  | .string s, rest => renderOn (.string s) rest

def indentItems (level : Nat) : List Json → List Char → List Char
  | [], rest => rest
  | item :: items, rest =>
    ',' :: newline level (indentOn level item (indentItems level items rest))

def indentFields (level : Nat) : List (String × Json) → List Char → List Char
  | [], rest => rest
  | (name, value) :: fields, rest =>
    ',' :: newline level (renderString name
      (':' :: ' ' :: indentOn level value (indentFields level fields rest)))

end

def indented (doc : Json) : String :=
  String.ofList (indentOn 0 doc [])

end Hyperparams.Json
