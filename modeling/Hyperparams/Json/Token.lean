import Hyperparams.Json.Basic
import Hyperparams.Decimal.Digits
import Hyperparams.Text.Hexadecimal

/-!
# Lexemes of JSON

A scanner goes over the characters once. Words, which are numbers and the three literal names, end
at the first character that cannot continue one; strings resolve their escapes, where two escaped
halves of a surrogate pair make one character and a half alone is an error.
-/

namespace Hyperparams.Json

/-- A lexeme of JSON. -/
inductive Token where
  | openArray | closeArray | openObject | closeObject | comma | colon
  | null
  | bool (b : Bool)
  | number (n : Number)
  | string (s : String)

/-- Continue a significand with digits while it fits a 64-bit word; the digits that do not fit are
returned. -/
def Number.absorb (s : Nat) : List Char → Nat × List Char
  | [] => (s, [])
  | c :: rest =>
    let next := 10 * s + Decimal.digit c
    if next < Nat.pow 2 64 then absorb next rest else (s, c :: rest)

/-- A significand times a power of ten in double arithmetic, which rounds once for the significand
and once for each scaling step. There is no result past the largest double. -/
def Number.scale (x : Float) (e : Int) : Option Float :=
  if 308 < e then if x == 0 then some x else none
  else if 0 ≤ e then
    let y := x * Decimal.toFloat false 1 e
    if y.isInf then none else some y
  else if -308 ≤ e then some (x / Decimal.toFloat false 1 (-e))
  else if x == 0 then some x
  else scale (x / Decimal.toFloat false 1 308) (e + 308)
termination_by (-e).toNat

def Number.exponent? : List Char → Option (Bool × List Char)
  | mark :: rest =>
    let (negative, digits) := match rest with
      | '-' :: digits => (true, digits)
      | '+' :: digits => (false, digits)
      | digits => (false, digits)
    if (mark == 'e' || mark == 'E') && Decimal.isDigits digits then some (negative, digits)
    else none
  | [] => none

/-- A significand with a sign and an exponent part, scaled. An exponent past a 32-bit word is an
error or, if it is negative or the significand is zero, gives zero. -/
def Number.ofParts? (negative : Bool) (significand : Nat) (place : Int)
    (exponent : Option (Bool × List Char)) : Option Float := do
  let signed (x : Float) := if negative then -x else x
  let shift ← match exponent with
    | none => some (some 0)
    | some (down, digits) =>
      match Decimal.ofDigitsUpTo (Nat.pow 2 31 - 1) digits with
      | some e => some (some (if down then -(e : Int) else e))
      | none => if significand ≠ 0 && !down then none else some none
  match shift with
  | none => return signed 0
  | some shift => return signed (← scale significand.toUInt64.toFloat (place + shift))

/-- Read a number that fills the whole word. A number without point and exponent stays an integer
if it fits a 64-bit word; minus zero is a double. -/
def Number.ofWord? (cs : List Char) : Option Number := do
  let (negative, rest) := match cs with
    | '-' :: rest => (true, rest)
    | rest => (false, rest)
  let whole := rest.takeWhile Char.isDigit
  let rest := rest.dropWhile Char.isDigit
  guard (!whole.isEmpty && (whole.head? != some '0' || whole.length == 1))
  let (significand, dropped) := absorb 0 whole
  match rest with
  | [] =>
    if !dropped.isEmpty then
      return .float (← ofParts? negative significand dropped.length none)
    else if !negative then return .int significand
    else if significand = 0 || Nat.pow 2 63 < significand then
      return .float (-significand.toUInt64.toFloat)
    else return .int (-(significand : Int))
  | '.' :: rest =>
    let fraction := rest.takeWhile Char.isDigit
    guard !fraction.isEmpty
    let (significand, ignored) := absorb significand fraction
    let place : Int := dropped.length - (fraction.length - ignored.length : Nat)
    match rest.dropWhile Char.isDigit with
    | [] => return .float (← ofParts? negative significand place none)
    | rest => return .float (← ofParts? negative significand place (some (← exponent? rest)))
  | rest => return .float (← ofParts? negative significand dropped.length (some (← exponent? rest)))

def isWordChar (c : Char) : Bool :=
  c.isAlphanum || c == '-' || c == '+' || c == '.'

def isSpace (c : Char) : Bool :=
  c == ' ' || c == '\n' || c == '\r' || c == '\t'

def Token.ofWord? : List Char → Option Token
  | ['n', 'u', 'l', 'l'] => some .null
  | ['t', 'r', 'u', 'e'] => some (.bool true)
  | ['f', 'a', 'l', 's', 'e'] => some (.bool false)
  | word => (Number.ofWord? word).map .number

/-- What the scanner is inside of. Read characters are kept in reverse. -/
inductive Mode where
  | idle
  | word (read : List Char)
  | text (read : List Char)
  /-- After a backslash. -/
  | escape (read : List Char)
  /-- Inside `\u`, with the first half of a surrogate pair if one waits. -/
  | code (read : List Char) (high : Option Nat) (left value : Nat)
  /-- After the first half of a surrogate pair. -/
  | half (read : List Char) (high : Nat)
  /-- After the first half of a surrogate pair and a backslash. -/
  | halfEscape (read : List Char) (high : Nat)

/-- The scanner: its mode and the lexemes read so far, the last one first. -/
structure Scanner where
  mode : Mode
  tokens : List Token

def Scanner.start (tokens : List Token) (c : Char) : Option Scanner :=
  if isSpace c then some ⟨.idle, tokens⟩
  else match c with
    | '[' => some ⟨.idle, .openArray :: tokens⟩
    | ']' => some ⟨.idle, .closeArray :: tokens⟩
    | '{' => some ⟨.idle, .openObject :: tokens⟩
    | '}' => some ⟨.idle, .closeObject :: tokens⟩
    | ',' => some ⟨.idle, .comma :: tokens⟩
    | ':' => some ⟨.idle, .colon :: tokens⟩
    | '"' => some ⟨.text [], tokens⟩
    | c => if isWordChar c then some ⟨.word [c], tokens⟩ else none

def Mode.ofCode? (read : List Char) (high : Option Nat) (code : Nat) : Option Mode :=
  match high with
  | some high =>
    if 0xDC00 ≤ code ∧ code ≤ 0xDFFF then
      some (.text (Char.ofNat (0x10000 + (high - 0xD800) * 0x400 + (code - 0xDC00)) :: read))
    else none
  | none =>
    if 0xD800 ≤ code ∧ code ≤ 0xDBFF then some (.half read code)
    else if 0xDC00 ≤ code ∧ code ≤ 0xDFFF then none
    else some (.text (Char.ofNat code :: read))

def Mode.ofEscape? (read : List Char) : Char → Option Mode
  | '"' => some (.text ('"' :: read))
  | '\\' => some (.text ('\\' :: read))
  | '/' => some (.text ('/' :: read))
  | 'b' => some (.text ('\x08' :: read))
  | 'f' => some (.text ('\x0c' :: read))
  | 'n' => some (.text ('\n' :: read))
  | 'r' => some (.text ('\r' :: read))
  | 't' => some (.text ('\t' :: read))
  | 'u' => some (.code read none 4 0)
  | _ => none

def Scanner.step (s : Scanner) (c : Char) : Option Scanner :=
  match s.mode with
  | .idle => start s.tokens c
  | .word read =>
    if isWordChar c then some { s with mode := .word (c :: read) }
    else (Token.ofWord? read.reverse).bind fun token => start (token :: s.tokens) c
  | .text read =>
    if c = '"' then some ⟨.idle, .string (String.ofList read.reverse) :: s.tokens⟩
    else if c = '\\' then some { s with mode := .escape read }
    else if c.toNat < 0x20 then none
    else some { s with mode := .text (c :: read) }
  | .escape read => (Mode.ofEscape? read c).map fun mode => { s with mode }
  | .code read high left value =>
    (Text.hexValue? c).bind fun digit =>
      let value := 16 * value + digit
      if left ≤ 1 then (Mode.ofCode? read high value).map fun mode => { s with mode }
      else some { s with mode := .code read high (left - 1) value }
  | .half read high => if c = '\\' then some { s with mode := .halfEscape read high } else none
  | .halfEscape read high =>
    if c = 'u' then some { s with mode := .code read (some high) 4 0 } else none

def Scanner.finish (s : Scanner) : Option (List Token) :=
  match s.mode with
  | .idle => some s.tokens.reverse
  | .word read => (Token.ofWord? read.reverse).map fun token => (token :: s.tokens).reverse
  | _ => none

def Token.scan? (cs : List Char) : Option (List Token) :=
  (cs.foldlM Scanner.step ⟨.idle, []⟩).bind Scanner.finish

end Hyperparams.Json
