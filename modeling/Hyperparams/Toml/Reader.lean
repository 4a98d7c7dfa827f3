import Hyperparams.Decimal.Literal
import Hyperparams.Text.Hexadecimal
import Hyperparams.Toml.Basic

/-!
# Reading configuration documents

A document is read line by line: a header opens a table, a key with a value stores into the open
table. The readers take the rest of the text and give a result with what follows it; nested values
are read with fuel, of which the length of the text is always enough.
-/

namespace Hyperparams.Toml

open Text (hexValue? codeChar?)

/-- A reader gives a result and the rest of the text, or nothing. -/
abbrev Reader (α : Type) := List Char → Option (α × List Char)

def skipBlanks : List Char → List Char
  | c :: rest => if c = ' ' ∨ c = '\t' then skipBlanks rest else c :: rest
  | [] => []

def isLineChar (c : Char) : Bool :=
  c = '\t' || (0x20 ≤ c.toNat && c.toNat ≠ 0x7F)

/-- Skip a comment, if one begins here, up to the end of its line. -/
def skipComment : List Char → List Char
  | '#' :: rest => rest.dropWhile isLineChar
  | rest => rest

/-- The end of a line: blanks, a comment, and a line break unless the text ends. -/
def endOfLine? (cs : List Char) : Option (List Char) :=
  match skipComment (skipBlanks cs) with
  | [] => some []
  | '\n' :: rest => some rest
  | '\r' :: '\n' :: rest => some rest
  | _ => none

def skipLines : Nat → List Char → List Char
  | 0, cs => cs
  | fuel + 1, cs =>
    match skipComment (skipBlanks cs) with
    | '\n' :: rest => skipLines fuel rest
    | '\r' :: '\n' :: rest => skipLines fuel rest
    | rest => rest

def escape? : Reader Char
  | 'b' :: rest => some ('\x08', rest)
  | 't' :: rest => some ('\t', rest)
  | 'n' :: rest => some ('\n', rest)
  | 'f' :: rest => some ('\x0c', rest)
  | 'r' :: rest => some ('\r', rest)
  | '"' :: rest => some ('"', rest)
  | '\\' :: rest => some ('\\', rest)
  | 'u' :: a :: b :: c :: d :: rest => (codeChar? [a, b, c, d]).map (·, rest)
  | 'U' :: a :: b :: c :: d :: e :: f :: g :: h :: rest =>
    (codeChar? [a, b, c, d, e, f, g, h]).map (·, rest)
  | _ => none

def basic? : Nat → List Char → Reader String
  | 0, _, _ => none
  | _ + 1, read, '"' :: rest => some (String.ofList read.reverse, rest)
  | fuel + 1, read, '\\' :: rest => do
    let (c, rest) ← escape? rest
    basic? fuel (c :: read) rest
  | fuel + 1, read, c :: rest => if isLineChar c then basic? fuel (c :: read) rest else none
  | _, _, [] => none

def literal? (cs : List Char) : Option (String × List Char) :=
  let text := cs.takeWhile (· ≠ '\'')
  match cs.dropWhile (· ≠ '\'') with
  | _ :: rest => if text.all isLineChar then some (String.ofList text, rest) else none
  | [] => none

/-- Up to two quotes at the end of a string on several lines belong to it. -/
def closeLong (quote : Char) (read : List Char) : List Char → String × List Char
  | a :: b :: rest =>
    if a = quote ∧ b = quote then (String.ofList (quote :: quote :: read).reverse, rest)
    else if a = quote then (String.ofList (quote :: read).reverse, b :: rest)
    else (String.ofList read.reverse, a :: b :: rest)
  | [a] => if a = quote then (String.ofList (quote :: read).reverse, [])
    else (String.ofList read.reverse, [a])
  | [] => (String.ofList read.reverse, [])

/-- A line break is dropped at the beginning of a string on several lines. -/
def dropBreak : List Char → List Char
  | '\n' :: rest => rest
  | '\r' :: '\n' :: rest => rest
  | rest => rest

def skipBreaks : List Char → List Char
  | '\r' :: '\n' :: rest => skipBreaks rest
  | c :: rest => if c = ' ' ∨ c = '\t' ∨ c = '\n' then skipBreaks rest else c :: rest
  | [] => []

/-- Skip all white space behind a backslash at the end of a line. -/
def joinLines? (cs : List Char) : Option (List Char) :=
  match skipBlanks cs with
  | '\n' :: rest => some (skipBreaks rest)
  | '\r' :: '\n' :: rest => some (skipBreaks rest)
  | _ => none

def long? (quote : Char) : Nat → List Char → Reader String
  | 0, _, _ => none
  | _, _, [] => none
  | fuel + 1, read, c :: rest =>
    if c = quote then
      match rest with
      | b :: a :: rest' =>
        if a = quote ∧ b = quote then some (closeLong quote read rest')
        else long? quote fuel (c :: read) rest
      | _ => none
    else if c = '\\' ∧ quote = '"' then
      match joinLines? rest with
      | some rest => long? quote fuel read rest
      | none => do
        let (e, rest) ← escape? rest
        long? quote fuel (e :: read) rest
    else if c = '\r' then
      match rest with
      | '\n' :: rest => long? quote fuel ('\n' :: read) rest
      | _ => none
    else if c = '\n' || isLineChar c then long? quote fuel (c :: read) rest
    else none

def short? (quote : Char) (cs : List Char) : Option (String × List Char) :=
  if quote = '"' then basic? (cs.length + 1) [] cs else literal? cs

def string? (quote : Char) : Reader String
  | a :: b :: rest =>
    if a = quote ∧ b = quote then long? quote (rest.length + 1) [] (dropBreak rest)
    else short? quote (a :: b :: rest)
  | rest => short? quote rest

def isKeyChar (c : Char) : Bool :=
  c.isAlphanum || c = '_' || c = '-'

def keyPart? : Reader String
  | '"' :: rest => short? '"' rest
  | '\'' :: rest => short? '\'' rest
  | rest =>
    let key := rest.takeWhile isKeyChar
    if key.isEmpty then none else some (String.ofList key, rest.dropWhile isKeyChar)

def maxNesting : Nat := 79

def keyParts? : Nat → Reader (List String)
  | 0, _ => none
  | count + 1, cs => do
    let (part, rest) ← keyPart? (skipBlanks cs)
    match skipBlanks rest with
    | '.' :: rest =>
      let (parts, rest) ← keyParts? count rest
      some (part :: parts, rest)
    | rest => some ([part], rest)

def key? : Reader (List String) :=
  keyParts? maxNesting

/-- Digits of a base with single underscores between them. -/
def digitsOf? (isDigit : Char → Bool) : List Char → Option (List Char)
  | [] => none
  | [c] => if isDigit c then some [c] else none
  | c :: '_' :: rest => if isDigit c then (digitsOf? isDigit rest).map (c :: ·) else none
  | c :: rest => if isDigit c then (digitsOf? isDigit rest).map (c :: ·) else none

def natOf? (base : Nat) (digits : List Char) : Option Nat := do
  let digits ← digitsOf? (fun c => (hexValue? c).any (· < base)) digits
  digits.foldlM (fun n c => (hexValue? c).map (base * n + ·)) 0

/-- Whether decimal digits have no leading zero but a lone zero. -/
def noLeadingZero : List Char → Bool
  | '0' :: _ :: _ => false
  | _ => true

def splitSign : List Char → Bool × List Char
  | '-' :: rest => (true, rest)
  | '+' :: rest => (false, rest)
  | rest => (false, rest)

def integer? (cs : List Char) : Option Int := do
  let n ← match cs with
    | '0' :: 'x' :: digits => (natOf? 16 digits).map Int.ofNat
    | '0' :: 'o' :: digits => (natOf? 8 digits).map Int.ofNat
    | '0' :: 'b' :: digits => (natOf? 2 digits).map Int.ofNat
    | cs =>
      let (negative, digits) := splitSign cs
      if noLeadingZero digits then
        (natOf? 10 digits).map fun n => if negative then -(n : Int) else n
      else none
  let bound : Int := Nat.pow 2 63
  if -bound ≤ n ∧ n < bound then some n else none

def isFloat (cs : List Char) : Bool :=
  let (_, rest) := splitSign cs
  if rest = ['i', 'n', 'f'] ∨ rest = ['n', 'a', 'n'] then true
  else
    let whole := rest.takeWhile fun c => c.isDigit || c = '_'
    let rest := rest.dropWhile fun c => c.isDigit || c = '_'
    let digits cs := (digitsOf? Char.isDigit cs).isSome
    let exponent (cs : List Char) := match cs with
      | mark :: rest => (mark = 'e' || mark = 'E') && digits (splitSign rest).2
      | [] => true
    digits whole && noLeadingZero whole &&
      match rest with
      | '.' :: rest =>
        digits (rest.takeWhile fun c => c.isDigit || c = '_') &&
          exponent (rest.dropWhile fun c => c.isDigit || c = '_')
      | [] => false
      | rest => exponent rest

/-- Whether the number that a float denotes is too large for a double; a number below all doubles is
not refused. -/
def exceedsDoubles (cs : List Char) : Bool :=
  (Decimal.Literal.read? (cs.filter (· ≠ '_'))).any fun literal =>
    literal.toFloat.toBits = UInt64.ofNat Decimal.infinityBits

def takeDigits? (n : Nat) (cs : List Char) : Option (Nat × List Char) :=
  let digits := cs.take n
  if digits.length = n && digits.all Char.isDigit then
    some (Decimal.ofDigits digits, cs.drop n)
  else none

def date? (cs : List Char) : Option (List Char) := do
  let (year, rest) ← takeDigits? 4 cs
  let ('-' :: rest) := rest | none
  let (month, rest) ← takeDigits? 2 rest
  let ('-' :: rest) := rest | none
  let (day, rest) ← takeDigits? 2 rest
  let leap := year % 4 = 0 ∧ (year % 100 ≠ 0 ∨ year % 400 = 0)
  let last := if month = 2 then (if leap then 29 else 28)
    else if month = 4 ∨ month = 6 ∨ month = 9 ∨ month = 11 then 30 else 31
  if 1 ≤ month ∧ month ≤ 12 ∧ 1 ≤ day ∧ day ≤ last then some rest else none

def clock? (cs : List Char) : Option (List Char) := do
  let (hour, rest) ← takeDigits? 2 cs
  let (':' :: rest) := rest | none
  let (minute, rest) ← takeDigits? 2 rest
  let (':' :: rest) := rest | none
  let (second, rest) ← takeDigits? 2 rest
  if 23 < hour ∨ 59 < minute ∨ 60 < second then none
  match rest with
  | '.' :: rest =>
    if (rest.takeWhile Char.isDigit).isEmpty then none else some (rest.dropWhile Char.isDigit)
  | rest => some rest

def offset? : List Char → Option (List Char)
  | [] => some []
  | 'Z' :: rest => some rest
  | 'z' :: rest => some rest
  | sign :: rest => do
    if sign ≠ '+' ∧ sign ≠ '-' then none
    let (hour, rest) ← takeDigits? 2 rest
    let (':' :: rest) := rest | none
    let (minute, rest) ← takeDigits? 2 rest
    if 23 < hour ∨ 59 < minute then none
    some rest

def isTime (cs : List Char) : Bool :=
  clock? cs = some [] ||
    match date? cs with
    | none => false
    | some [] => true
    | some (mark :: rest) =>
      (mark = 'T' || mark = 't' || mark = ' ') && ((clock? rest).bind offset?) = some []

def isWordChar (c : Char) : Bool :=
  isKeyChar c || c = '+' || c = '.' || c = ':'

/-- A word that is no string. A date may be followed by a blank and a time. -/
def word? (cs : List Char) : Option (Toml × List Char) :=
  let word := cs.takeWhile isWordChar
  let rest := cs.dropWhile isWordChar
  let later := (rest.drop 1).takeWhile isWordChar
  if rest.head? = some ' ' && isTime (word ++ ' ' :: later) then
    some (.time (String.ofList (word ++ ' ' :: later)), (rest.drop 1).dropWhile isWordChar)
  else if word = "true".toList then some (.boolean true, rest)
  else if word = "false".toList then some (.boolean false, rest)
  else match integer? word with
    | some n => some (.integer n, rest)
    | none =>
      if isFloat word && !exceedsDoubles word then some (.float (String.ofList word), rest)
      else if isTime word then some (.time (String.ofList word), rest)
      else none

mutual

/-- A value that lies inside `depth` arrays and tables. -/
def value? : Nat → Nat → Reader Toml
  | 0, _, _ => none
  | _ + 1, _, '"' :: rest => (string? '"' rest).map fun (s, rest) => (.text s, rest)
  | _ + 1, _, '\'' :: rest => (string? '\'' rest).map fun (s, rest) => (.text s, rest)
  | fuel + 1, depth, '[' :: rest =>
    if depth < maxNesting then items? fuel (depth + 1) [] rest else none
  | fuel + 1, depth, '{' :: rest =>
    if depth < maxNesting then
      match skipBlanks rest with
      | '}' :: rest => some (.table .inlined [], rest)
      | rest => fields? fuel (depth + 1) [] rest
    else none
  | _ + 1, _, rest => word? rest

/-- The items of an array up to the closing bracket; the items before are given in reverse. -/
def items? : Nat → Nat → List Toml → Reader Toml
  | 0, _, _, _ => none
  | fuel + 1, depth, before, cs => do
    match skipLines cs.length cs with
    | ']' :: rest => some (.array before.reverse, rest)
    | rest =>
      let (item, rest) ← value? fuel depth rest
      match skipLines rest.length rest with
      | ',' :: rest => items? fuel depth (item :: before) rest
      | ']' :: rest => some (.array (item :: before).reverse, rest)
      | _ => none

def fields? : Nat → Nat → Fields → Reader Toml
  | 0, _, _, _ => none
  | fuel + 1, depth, before, cs => do
    let (path, rest) ← key? cs
    let ('=' :: rest) := rest | none
    let (value, rest) ← value? fuel depth (skipBlanks rest)
    let fields ← define? path value before
    match skipBlanks rest with
    | ',' :: rest => fields? fuel depth fields rest
    | '}' :: rest => some (.table .inlined fields, rest)
    | _ => none

end

/-- A header: its path, and whether it opens one of several tables. -/
def header? : Reader (List String × Bool)
  | '[' :: '[' :: rest => do
    let (path, rest) ← key? rest
    let (']' :: ']' :: rest) := rest | none
    some ((path, true), rest)
  | '[' :: rest => do
    let (path, rest) ← key? rest
    let (']' :: rest) := rest | none
    some ((path, false), rest)
  | _ => none

/-- The lines of a document, with the path of the open table and the document so far. -/
def lines? : Nat → List String → Fields → List Char → Option Fields
  | 0, _, _, _ => none
  | fuel + 1, opened, doc, cs => do
    match skipLines cs.length cs with
    | [] => some doc
    | '[' :: rest =>
      let ((path, repeated), rest) ← header? ('[' :: rest)
      let doc ← if repeated then openNextTable? path doc else openTable? path doc
      lines? fuel path doc (← endOfLine? rest)
    | rest =>
      let (path, rest) ← key? rest
      let ('=' :: rest) := rest | none
      let (value, rest) ← value? fuel 0 (skipBlanks rest)
      let doc ← defineIn? path value opened doc
      lines? fuel opened doc (← endOfLine? rest)

def read? (text : String) : Option Fields :=
  let cs := text.toList
  let cs := if cs.head? = some '\uFEFF' then cs.drop 1 else cs
  lines? (cs.length + 1) [] [] cs

end Hyperparams.Toml
