import Hyperparams.Pattern.Escape

/-!
# Reading sets in brackets

Between brackets stand characters, ranges, other sets and operations on them. An operation takes all
that stands in front of it as its left operand, so that operations associate to the left.
-/

namespace Hyperparams.Pattern

/-- What has been read between brackets: a set with an operation that waits for its right operand,
and that operand so far. -/
structure Operand where
  /-- Where the operand begins. -/
  place : Place
  waiting : Option (Item × Operation) := none
  /-- The items of the operand, the last one first. -/
  items : List Item := []

namespace Operand

def add (o : Operand) (i : Item) : Operand :=
  { o with items := i :: o.items }

def item (o : Operand) : Item :=
  match o.items.reverse with
  | [] => .union (.empty o.place) []
  | [i] => i
  | first :: rest => .union ⟨first.span.start, (rest.getLastD first).span.stop⟩ (first :: rest)

def whole (o : Operand) : Item :=
  match o.waiting with
  | none => o.item
  | some (left, op) => .combined ⟨left.span.start, o.item.span.stop⟩ op left o.item

/-- Let an operation wait for an operand that begins at a place. -/
def await (o : Operand) (op : Operation) (place : Place) : Operand :=
  { place, waiting := some (o.whole, op) }

end Operand

def plainLiteral (c : Cursor) (char : Char) : Literal :=
  { span := c.charSpan, char }

def readMember (char : Char) : Reader Expression := fun c =>
  if char = '\\' then readEscape c else .ok (.literal (plainLiteral c char), c.advance)

def itemOf : Expression → Except Fault Item
  | .literal l => .ok (.literal l)
  | .escaped e => .ok (.escaped e)
  | e => fail .classEscape e.span

def boundOf : Expression → Except Fault Literal
  | .literal l => .ok l
  | e => fail .classRangeBound e.span

def rangeOf (first last : Expression) : Except Fault Item := do
  let span : Span := ⟨first.span.start, last.span.stop⟩
  let low ← boundOf first
  let high ← boundOf last
  if low.char ≤ high.char then .ok (.range span low high) else fail .classRange span

/-- A member or a range. A dash makes a range unless a closing bracket or a dash follows it. The
brackets began with `header`. -/
def readRange (header : Span) (char : Char) : Reader Item := fun c => do
  let (first, behind) ← readMember char c
  let behind := behind.skip
  match behind.peek? with
  | none => fail .classUnclosed header
  | some dash =>
    if dash ≠ '-' || behind.second? = some ']' || behind.second? = some '-' then
      .ok (← itemOf first, behind)
    else match behind.next.peek? with
      | none => fail .classUnclosed header
      | some char =>
        let (last, behind) ← readMember char behind.next
        .ok (← rangeOf first last, behind)

/-- A named set of ASCII characters, at its opening bracket. -/
def readAsciiSet? (c : Cursor) : Option (Item × Cursor) := do
  let named ← c.after? "[:"
  let negation := named.after? "^"
  AsciiSet.names.findSome? fun (name, set) =>
    ((negation.getD named).after? (name ++ ":]")).map fun behind =>
      (.ascii (behind.since c.place) negation.isSome set, behind)

def takeDashes : Nat → Cursor → List Item × Cursor
  | 0, c => ([], c)
  | count + 1, c =>
    if c.peek? = some '-' then
      let (dashes, behind) := takeDashes count c.next
      (.literal (plainLiteral c '-') :: dashes, behind)
    else ([], c)

/-- The beginning of a set in brackets. -/
structure Header where
  span : Span
  negated : Bool
  operand : Operand

/-- The beginning of a set, at its opening bracket. Dashes that come first stand for themselves, and
so does a closing bracket. -/
def readHeader : Reader Header := fun c => do
  let unclosed (behind : Cursor) := fail .classUnclosed (behind.since c.place)
  let opened := c.next
  let negated := opened.peek? = some '^'
  let first := if negated then opened.next else opened
  if first.rest.isEmpty then unclosed first
  let (dashes, behind) := takeDashes first.rest.length first
  if behind.rest.isEmpty then fail .classUnclosed (.empty c.place)
  let header (items : List Item) (behind : Cursor) : Header :=
    { span := behind.since c.place
      negated
      operand := { place := first.place, items } }
  if dashes.isEmpty && behind.peek? = some ']' then
    if behind.next.rest.isEmpty then unclosed behind.next
    .ok (header [.literal (plainLiteral behind ']')] behind.next, behind.next)
  else .ok (header dashes.reverse behind, behind)

/-- The operations, by the character of which two denote it. -/
def operations : List (Char × Operation) := [
  ('&', .intersection), ('-', .difference), ('~', .symmetricDifference)]

def operation? (c : Cursor) : Option Operation :=
  match c.rest with
  | a :: b :: _ => if a = b then operations.lookup a else none
  | _ => none

/-- The content of brackets that began with `header`, up to the closing bracket. -/
def readItems : Nat → (header : Span) → Operand → Reader Item
  | 0, header, _, _ => fail .classUnclosed header
  | fuel + 1, header, o, c =>
    let c := c.skip
    match c.peek? with
    | none => fail .classUnclosed header
    | some ']' => .ok (o.whole, c)
    | some '[' =>
      match readAsciiSet? c with
      | some (set, behind) => readItems fuel header (o.add set) behind
      | none => do
        let (inner, behind) ← readHeader c
        let (content, closing) ← readItems fuel inner.span inner.operand behind
        let behind := closing.advance
        readItems fuel header (o.add (.bracketed (behind.since c.place) inner.negated content))
          behind
    | some char =>
      match operation? c with
      | some op => readItems fuel header (o.await op c.advance.advance.place) c.advance.advance
      | none => do
        let (item, behind) ← readRange header char c
        readItems fuel header (o.add item) behind

def readBracketed : Reader Expression := fun c => do
  let (header, behind) ← readHeader c
  let (content, closing) ← readItems c.rest.length header.span header.operand behind
  .ok (.bracketed (closing.advance.since c.place) header.negated content, closing.advance)

end Hyperparams.Pattern
